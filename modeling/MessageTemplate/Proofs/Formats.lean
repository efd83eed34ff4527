import MessageTemplate.Scalar.NumberFormat

/-!
# How number formats are spelled

A format is recognised by its first character. The digits after a letter are a count of any length,
zeros in front included, and a count beyond the largest is as good as the largest. Zeros are counted
one by one, however many there are.

* `NumberFormat.Spelled`: the formats of each kind, and what they stand for.
* `NumberFormat.count?_eq_some_iff`, `NumberFormat.ofZeros_zeros`: reading a count, and zeros.
* **`NumberFormat.ofText_eq_iff`**, `NumberFormat.ofText_eq_general_iff`: exactly these formats are
  recognised.
* `NumberFormat.shape?`: how many digits a format asks for before and after the separator.
-/

namespace MessageTemplate.NumberFormat

/-- A format, and how it says that a number is written. -/
inductive Spelled : Text → NumberFormat → Prop where
  | hexadecimal {c : Char} {ds : Text} (letter : c = 'x' ∨ c = 'X')
      (isDigit : ∀ d ∈ ds, d.isDigit = true) :
      Spelled (c :: ds) (.hexadecimal (c = 'X') (min (Numeral.value ds) maxCount))
  | digits {c : Char} {ds : Text} (letter : c = 'd' ∨ c = 'D')
      (isDigit : ∀ d ∈ ds, d.isDigit = true) :
      Spelled (c :: ds) (.digits (min (Numeral.value ds) maxCount))
  | usualPlaces {c : Char} (letter : c = 'f' ∨ c = 'F' ∨ c = 'n' ∨ c = 'N') :
      Spelled [c] (.fixed 1 2)
  | places {c : Char} {ds : Text} (letter : c = 'f' ∨ c = 'F' ∨ c = 'n' ∨ c = 'N') (given : ds ≠ [])
      (isDigit : ∀ d ∈ ds, d.isDigit = true) :
      Spelled (c :: ds) (.fixed 1 (min (Numeral.value ds) maxCount))
  | zeros {whole : Nat} (some : whole ≠ 0) : Spelled (List.replicate whole '0') (.digits whole)
  | zeroPlaces {whole places : Nat} (some : whole ≠ 0) (somePlaces : places ≠ 0) :
      Spelled (List.replicate whole '0' ++ '.' :: List.replicate places '0') (.fixed whole places)

/-- The digits that a format asks for at least before the separator, and the places after it. -/
def shape? : NumberFormat → Option (Nat × Nat)
  | digits whole => some (whole, 0)
  | fixed whole places => some (whole, places)
  | _ => none

theorem count?_eq_some_iff {t : Text} {n : Nat} :
    count? t = some n ↔ (∀ c ∈ t, c.isDigit = true) ∧ min (Numeral.value t) maxCount = n := by
  have hmin : min (Numeral.valueUntil maxCount t) maxCount = min (Numeral.value t) maxCount := by
    by_cases h : Numeral.value t < maxCount
    · rw [Numeral.valueUntil_eq_value (by omega)]
    · have hcount : maxCount ≤ Numeral.value t := by omega
      have huntil := Numeral.le_valueUntil hcount
      omega
  simp [count?, hmin]

theorem eq_replicate_of_allZeros {t : Text} (h : allZeros t = true) :
    t = List.replicate t.length '0' := by
  simpa [allZeros, List.eq_replicate_iff] using h

theorem point_notMem_zeros (whole : Nat) : '.' ∉ List.replicate whole '0' := fun h => by
  cases List.eq_of_mem_replicate h

theorem ofZeros_zeros (whole : Nat) : ofZeros (List.replicate whole '0') = digits whole := by
  simp [ofZeros, Text.splitFirst_of_notMem (point_notMem_zeros whole), allZeros]

theorem ofZeros_zeroPlaces {places : Nat} (h : places ≠ 0) (whole : Nat) :
    ofZeros (List.replicate whole '0' ++ '.' :: List.replicate places '0') =
      fixed whole places := by
  simp [ofZeros, Text.splitFirst_append_cons (point_notMem_zeros whole), allZeros, h]

/-- What is recognised and starts with a zero consists of zeros, perhaps with a point between
them. -/
theorem spelled_ofZeros {t : Text} (hzero : t.head? = some '0') (hne : ofZeros t ≠ general) :
    Spelled t (ofZeros t) := by
  have hlength {whole : Nat} {rest : Text}
      (h : (List.replicate whole '0' ++ rest).head? = some '0') (hrest : rest.head? ≠ some '0') :
      whole ≠ 0 := by
    rintro rfl
    exact hrest h
  unfold ofZeros at hne
  split at hne
  case h_1 whole hsplit =>
    obtain ⟨rfl, -⟩ := Text.splitFirst_none hsplit
    split at hne
    case isTrue h =>
      rw [eq_replicate_of_allZeros h, ← List.append_nil (List.replicate _ _)] at hzero
      rw [eq_replicate_of_allZeros h, ofZeros_zeros]
      exact .zeros (hlength hzero nofun)
    case isFalse => exact absurd rfl hne
  case h_2 whole places hsplit =>
    obtain ⟨rfl, -⟩ := Text.splitFirst_some hsplit
    split at hne
    case isTrue h =>
      simp only [Bool.and_eq_true, Bool.not_eq_true', List.isEmpty_eq_false_iff] at h
      obtain ⟨⟨hwhole, hplaces⟩, hsome⟩ := h
      have hsome' : places.length ≠ 0 := by simpa using hsome
      rw [eq_replicate_of_allZeros hwhole] at hzero
      rw [eq_replicate_of_allZeros hwhole, eq_replicate_of_allZeros hplaces, ofZeros_zeroPlaces hsome']
      exact .zeroPlaces (hlength hzero nofun) hsome'
    case isFalse => exact absurd rfl hne

theorem ofText_of_spelled {f : Text} {n : NumberFormat} (h : Spelled f n) : ofText f = n := by
  cases h with
  | hexadecimal letter isDigit =>
    rw [ofText, if_pos letter, count?_eq_some_iff.2 ⟨isDigit, rfl⟩]
    rfl
  | digits letter isDigit =>
    rw [ofText, if_neg (by rcases letter with rfl | rfl <;> decide), if_pos letter,
      count?_eq_some_iff.2 ⟨isDigit, rfl⟩]
    rfl
  | usualPlaces letter => rcases letter with rfl | rfl | rfl | rfl <;> rfl
  | places letter given isDigit =>
    rw [ofText, if_neg (by rcases letter with rfl | rfl | rfl | rfl <;> decide),
      if_neg (by rcases letter with rfl | rfl | rfl | rfl <;> decide), if_pos letter,
      if_neg (by simpa using given), count?_eq_some_iff.2 ⟨isDigit, rfl⟩]
    rfl
  | @zeros whole some =>
    obtain ⟨whole, rfl⟩ := Nat.exists_eq_succ_of_ne_zero some
    exact ofZeros_zeros (whole + 1)
  | @zeroPlaces whole places some somePlaces =>
    obtain ⟨whole, rfl⟩ := Nat.exists_eq_succ_of_ne_zero some
    exact ofZeros_zeroPlaces somePlaces (whole + 1)

theorem spelled_ofText {f : Text} (hne : ofText f ≠ general) : Spelled f (ofText f) := by
  have hcount {k : Nat → NumberFormat} {ds : Text} (h : ((count? ds).map k).getD general ≠ general) :
      (∀ d ∈ ds, d.isDigit = true) ∧
        ((count? ds).map k).getD general = k (min (Numeral.value ds) maxCount) := by
    cases hds : count? ds with
    | none => exact absurd (by rw [hds]; rfl) h
    | some n =>
      obtain ⟨hdigits, rfl⟩ := count?_eq_some_iff.1 hds
      exact ⟨hdigits, rfl⟩
  cases f with
  | nil => exact absurd rfl hne
  | cons c t =>
    rw [ofText] at hne ⊢
    split at hne
    case isTrue hc =>
      obtain ⟨hdigits, h⟩ := hcount hne
      rw [if_pos hc, h]
      exact .hexadecimal hc hdigits
    case isFalse hx =>
    rw [if_neg hx]
    split at hne
    case isTrue hc =>
      obtain ⟨hdigits, h⟩ := hcount hne
      rw [if_pos hc, h]
      exact .digits hc hdigits
    case isFalse hd =>
    rw [if_neg hd]
    split at hne
    case isTrue hc =>
      rw [if_pos hc]
      split at hne
      case isTrue hempty =>
        rw [if_pos hempty, List.isEmpty_iff.1 hempty]
        exact .usualPlaces hc
      case isFalse hempty =>
        obtain ⟨hdigits, h⟩ := hcount hne
        rw [if_neg hempty, h]
        exact .places hc (by simpa using hempty) hdigits
    case isFalse hf =>
    rw [if_neg hf]
    split at hne
    case isTrue hc =>
      rw [if_pos hc]
      exact spelled_ofZeros (by rw [hc]; rfl) hne
    case isFalse => exact absurd rfl hne

/-- **Exactly the formats of each kind are recognised.** -/
theorem ofText_eq_iff {f : Text} {n : NumberFormat} (h : n ≠ general) :
    ofText f = n ↔ Spelled f n := by
  refine ⟨?_, ofText_of_spelled⟩
  rintro rfl
  exact spelled_ofText h

theorem ofText_eq_general_iff {f : Text} : ofText f = general ↔ ∀ n, ¬Spelled f n := by
  constructor
  · intro h n hspelled
    rw [ofText_of_spelled hspelled] at h
    subst h
    cases hspelled
  · intro unknown
    by_cases h : ofText f = general
    · exact h
    · exact absurd (spelled_ofText h) (unknown _)

end MessageTemplate.NumberFormat
