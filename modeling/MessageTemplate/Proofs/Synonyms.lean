import MessageTemplate.Proofs.Formats
import MessageTemplate.Scalar.Rendering

/-!
# Formats that say the same

Whatever two formats are read as, numbers are written alike in both if it is the same. So a format
that is not recognised is as good as none, and a letter and a count as good as so many zeros.

* `NumberFormat.Alike`: formats in which every number is written alike.
* `NumberFormat.Synonym`: formats that say the same, and `NumberFormat.ofText_eq_of_synonym`: they are
  read as the same.
* **`NumberFormat.recognized_exactly`**: the formats of each kind, those of no kind, and synonyms.
-/

namespace MessageTemplate

/-- The scalars that a format for numbers has an effect on. -/
def Scalar.IsNumber : Scalar → Prop
  | int _ | uint _ | float _ => True
  | _ => False

namespace NumberFormat

/-- In both formats every number is written alike, by every culture that does not tell them apart in
a way of its own. -/
def Alike (fmt fmt' : Option Text) : Prop :=
  ∀ (s : Scalar) (culture : Option Culture), s.IsNumber →
    (∀ c ∈ culture, c.override s fmt = c.override s fmt') →
      (s.render fmt culture).text? = (s.render fmt' culture).text?

/-- Formats that say the same: a count of digits or places and so many zeros, and counts beyond the
largest. -/
inductive Synonym : Text → Text → Prop where
  | digits {c : Char} {ds : Text} (letter : c = 'd' ∨ c = 'D') (isDigit : ∀ d ∈ ds, d.isDigit = true)
      (some : 1 ≤ Numeral.value ds) (counted : Numeral.value ds ≤ 99) :
      Synonym (c :: ds) (List.replicate (Numeral.value ds) '0')
  | places {c : Char} {ds : Text} (letter : c = 'f' ∨ c = 'F' ∨ c = 'n' ∨ c = 'N')
      (isDigit : ∀ d ∈ ds, d.isDigit = true)
      (some : 1 ≤ Numeral.value ds) (counted : Numeral.value ds ≤ 99) :
      Synonym (c :: ds) ('0' :: '.' :: List.replicate (Numeral.value ds) '0')
  | beyond {c : Char} {ds : Text} (letter : c ∈ "xXdDfFnN".toList)
      (isDigit : ∀ d ∈ ds, d.isDigit = true) (beyond : 99 < Numeral.value ds) :
      Synonym (c :: ds) [c, '9', '9']

/-- **A format only counts for what it is read as.** -/
theorem alike_of_ofText_eq {fmt fmt' : Option Text}
    (h : ofText (fmt.getD []) = ofText (fmt'.getD [])) : Alike fmt fmt' := by
  intro s culture number same
  have hformat (separator : Char) : s.format separator fmt = s.format separator fmt' := by
    cases s with
    | int v => rw [Scalar.format, Scalar.format, h]
    | uint v => rw [Scalar.format, Scalar.format, h]
    | float x => rw [Scalar.format, Scalar.format, h]
    | _ => exact number.elim
  rw [Scalar.text?_render, Scalar.text?_render]
  cases culture with
  | none => rw [Scalar.write, Scalar.write, hformat]
  | some c => rw [Scalar.write, Scalar.write, same c rfl, hformat]

theorem ofText_cons_congr {c : Char} (letter : c ∈ "xXdDfFnN".toList) {ds ds' : Text}
    (given : ds ≠ []) (given' : ds' ≠ []) (h : count? ds = count? ds') :
    ofText (c :: ds) = ofText (c :: ds') := by
  have hzero : c ≠ '0' := by
    rintro rfl
    exact absurd letter (by decide)
  simp only [ofText, h, if_neg hzero, List.isEmpty_eq_false_iff.2 given,
    List.isEmpty_eq_false_iff.2 given']

theorem ofText_eq_of_synonym {f g : Text} (h : Synonym f g) : ofText f = ofText g := by
  have hgiven {ds : Text} (h : 1 ≤ Numeral.value ds) : ds ≠ [] := by
    rintro rfl
    exact absurd h (by decide)
  have hcount {ds : Text} (h : Numeral.value ds ≤ 99) :
      min (Numeral.value ds) maxCount = Numeral.value ds := Nat.min_eq_left h
  cases h with
  | @digits c ds letter isDigit some counted =>
    have hzeros : Spelled (List.replicate (Numeral.value ds) '0') (.digits (Numeral.value ds)) :=
      .zeros (by omega)
    rw [ofText_of_spelled (.digits letter isDigit), ofText_of_spelled hzeros,
      hcount counted]
  | @places c ds letter isDigit some counted =>
    have hzeros : Spelled ('0' :: '.' :: List.replicate (Numeral.value ds) '0')
        (.fixed 1 (Numeral.value ds)) :=
      @Spelled.zeroPlaces 1 _ (by decide) (by omega)
    rw [ofText_of_spelled (.places letter (hgiven some) isDigit), ofText_of_spelled hzeros,
      hcount counted]
  | @beyond c ds letter isDigit beyond =>
    refine ofText_cons_congr letter (hgiven (by omega)) (by decide) ?_
    rw [count?_eq_some_iff.2 ⟨isDigit, Nat.min_eq_right (Nat.le_of_lt beyond)⟩]
    rfl

/-- **Exactly the formats of each kind are recognised**, in a format of no kind numbers are written
as without one, and in synonyms they are written alike. -/
theorem recognized_exactly (f : Text) :
    (∀ n, n ≠ general → (ofText f = n ↔ Spelled f n)) ∧
      ((∀ n, ¬Spelled f n) → Alike (some f) none) ∧
      ∀ g, Synonym f g → Alike (some f) (some g) := by
  refine ⟨fun n hne => ofText_eq_iff hne, fun unknown => ?_, fun g h => ?_⟩
  · exact alike_of_ofText_eq (ofText_eq_general_iff.2 unknown)
  · exact alike_of_ofText_eq (ofText_eq_of_synonym h)

/-- Near misses: a point after a count, and a count that is too large. -/
theorem recognized_near :
    (∀ n, ¬Spelled "F1.".toList n) ∧ Alike (some "F1.".toList) none ∧
      Synonym "D0100".toList "D99".toList ∧ Alike (some "D0100".toList) (some "D99".toList) := by
  have hunknown : ∀ n, ¬Spelled "F1.".toList n := ofText_eq_general_iff.1 rfl
  have hsynonym : Synonym "D0100".toList "D99".toList :=
    .beyond (by decide) (List.all_eq_true.1 rfl) (by decide)
  exact ⟨hunknown, (recognized_exactly _).2.1 hunknown, hsynonym,
    (recognized_exactly _).2.2 _ hsynonym⟩

end NumberFormat

end MessageTemplate
