import Mathlib
import MessageTemplate.Proofs.Integers
import MessageTemplate.Proofs.NearestNumber

/-!
# How numbers are written

The forms in which numbers are written, apart from the functions that read them, and the number that
each form denotes.

* `Written.Mark`: a sign, or none. `Written.IsWhole`: a mark and digits.
  **`Written.integer?_eq_some_iff_isWhole`**: they are read as a whole number, if it is in range.
* `Written.IsInfinity`, `Written.IsNaN`: the words, each letter in either case.
  `Written.word?_eq_some_iff`: they are what is read as a word.
* `Written.Power`, `Written.Form`: an exponent, and a decimal with an exponent or without one.
  **`Written.decimal?_text`**, **`Written.exists_form`**: the forms are what is read as a decimal.
* `Written.Form.value`: the number that a form denotes, given how the digits of an exponent count.
  `Written.Form.value_decimal`: it is the value of the decimal.
* `Written.Form.Overruns`, `Written.Form.effective`: the forms for which it matters that not all digits
  of an exponent count, and the number that a form is taken for.
  **`Written.represents_effective`**: the number nearest to it is read.
* `Written.IsFloat`: a mark and a word or a decimal.
  **`Written.binary64?_isSome_iff`**: they are what is read as a binary number.
-/

namespace MessageTemplate.Written

/-! ## Signs -/

/-- What may stand in front of the digits of a number. -/
inductive Mark where
  | none
  | plus
  | minus
  deriving Repr, DecidableEq

namespace Mark

/-- How a sign is written. -/
def text : Mark → Text
  | none => []
  | plus => ['+']
  | minus => ['-']

/-- Only a minus sign makes a number negative. -/
def negative : Mark → Bool
  | none => false
  | plus => false
  | minus => true

end Mark

/-- There is no sign at the front of a text. -/
def Unmarked (t : Text) : Prop := ∀ c ∈ t.head?, c ≠ '+' ∧ c ≠ '-'

theorem unmarked_of_head? {p : Char → Prop} (hplus : ¬p '+') (hminus : ¬p '-') {t : Text}
    (h : ∀ c ∈ t.head?, p c) : Unmarked t := by
  intro c hc
  have hp := h c hc
  constructor
  · rintro rfl
    exact hplus hp
  · rintro rfl
    exact hminus hp

theorem unmarked_of_isDigit {t : Text} (h : ∀ c ∈ t.head?, c.isDigit = true) : Unmarked t :=
  unmarked_of_head? (by decide) (by decide) h

theorem sign_text_append (m : Mark) {t : Text} (h : Unmarked t) :
    sign (m.text ++ t) = (m.negative, t) := by
  cases m with
  | none =>
    rw [Mark.text, List.nil_append, sign]
    · rfl
    · rintro r rfl
      exact (h '-' rfl).2 rfl
    · rintro r rfl
      exact (h '+' rfl).1 rfl
  | plus => rfl
  | minus => rfl

theorem exists_mark (t : Text) : ∃ m : Mark, t = m.text ++ (sign t).2 ∧ (sign t).1 = m.negative := by
  unfold sign
  split
  · exact ⟨.minus, rfl, rfl⟩
  · exact ⟨.plus, rfl, rfl⟩
  · exact ⟨.none, rfl, rfl⟩

/-! ## Whole numbers -/

/-- The text is one or more decimal digits with a mark, and denotes `n`. -/
def IsWhole (t : Text) (n : ℤ) : Prop :=
  ∃ (m : Mark) (ds : Text), t = m.text ++ ds ∧ ds ≠ [] ∧ (∀ c ∈ ds, c.isDigit = true) ∧
    n = signed m.negative (Numeral.value ds)

/-- **A mark and digits are read as the number that they denote**, if it is in range. -/
theorem integer?_eq_some_iff_isWhole {t : Text} {v : Int64} :
    integer? t = some v ↔ IsWhole t v.toInt := by
  rw [integer?_eq_some_iff]
  constructor
  · rintro ⟨hne, hdigits, hvalue⟩
    obtain ⟨m, ht, hm⟩ := exists_mark t
    rw [hm] at hvalue
    exact ⟨m, _, ht, hne, hdigits, hvalue⟩
  · rintro ⟨m, ds, rfl, hne, hdigits, hvalue⟩
    rw [sign_text_append m (unmarked_of_isDigit (isDigit_of_mem_head? hdigits))]
    exact ⟨hne, hdigits, hvalue⟩

/-! ## Words -/

theorem toLower_eq_iff {c l : Char} (hl : l.isUpper = false) :
    c.toLower = l ↔ c = l ∨ c = l.toUpper := by
  constructor
  · rintro rfl
    by_cases hc : c.isUpper = true
    · right
      rw [Char.toUpper_toLower_eq_toUpper, Char.toUpper_eq_of_not_isLower]
      exact Char.not_isLower_of_isUpper hc
    · exact .inl (Char.toLower_eq_of_not_isUpper hc).symm
  · have hself : l.toLower = l := Char.toLower_eq_of_not_isUpper (by simp [hl])
    rintro (rfl | rfl)
    · exact hself
    · rw [Char.toLower_toUpper_eq_toLower, hself]

/-- The letters of a word, each in lower or in upper case. -/
def InAnyCase (word t : Text) : Prop := List.Forall₂ (fun l c => c = l ∨ c = l.toUpper) word t

theorem map_toLower_eq_iff {word : Text} (hword : ∀ l ∈ word, l.isUpper = false) (t : Text) :
    t.map Char.toLower = word ↔ InAnyCase word t := by
  unfold InAnyCase
  induction word generalizing t with
  | nil => simp
  | cons l word ih =>
    obtain ⟨hl, hrest⟩ := List.forall_mem_cons.1 hword
    cases t with
    | nil => simp
    | cons c t => rw [List.map_cons, List.cons.injEq, List.forall₂_cons, toLower_eq_iff hl, ih hrest]

/-- One of the words for an infinity. -/
def IsInfinity (t : Text) : Prop := InAnyCase "inf".toList t ∨ InAnyCase "infinity".toList t

/-- The word for what is no number. -/
def IsNaN (t : Text) : Prop := InAnyCase "nan".toList t

theorem isInfinity_iff {t : Text} : IsInfinity t ↔
    t.map Char.toLower = "inf".toList ∨ t.map Char.toLower = "infinity".toList := by
  rw [map_toLower_eq_iff (by simp), map_toLower_eq_iff (by simp), IsInfinity]

theorem isNaN_iff {t : Text} : IsNaN t ↔ t.map Char.toLower = "nan".toList := by
  rw [map_toLower_eq_iff (by simp), IsNaN]

theorem word?_eq_some_iff {negative : Bool} {t : Text} {x : Binary64} :
    word? negative t = some x ↔
      IsInfinity t ∧ x = Binary64.infinity negative ∨ IsNaN t ∧ x = Binary64.nan := by
  rw [isInfinity_iff, isNaN_iff]
  unfold word?
  dsimp only
  by_cases hinfinity : t.map Char.toLower = "inf".toList ∨ t.map Char.toLower = "infinity".toList
  · have hnan : t.map Char.toLower ≠ "nan".toList := by
      intro heq
      rw [heq] at hinfinity
      exact absurd hinfinity (by simp)
    rw [if_pos hinfinity, and_iff_right hinfinity, Option.some.injEq, eq_comm]
    exact (or_iff_left fun h => hnan h.1).symm
  · rw [if_neg hinfinity, or_iff_right fun h => hinfinity h.1]
    by_cases hnan : t.map Char.toLower = "nan".toList
    · rw [if_pos hnan, and_iff_right hnan, Option.some.injEq, eq_comm]
    · rw [if_neg hnan]
      exact iff_of_false nofun fun h => hnan h.1

theorem unmarked_of_word {t : Text} (h : IsInfinity t ∨ IsNaN t) : Unmarked t := by
  rw [isInfinity_iff, isNaN_iff] at h
  refine unmarked_of_head? (p := fun c => c.toLower = 'i' ∨ c.toLower = 'n') (by decide) (by decide) ?_
  intro c hc
  have hlower : (t.map Char.toLower).head? = some c.toLower := by
    rw [List.head?_map, hc]
    rfl
  rcases h with (h | h) | h
  · rw [h] at hlower
    exact .inl (Option.some.inj hlower).symm
  · rw [h] at hlower
    exact .inl (Option.some.inj hlower).symm
  · rw [h] at hlower
    exact .inr (Option.some.inj hlower).symm

/-! ## Decimals -/

/-- An exponent, with its letter and its mark. -/
structure Power where
  letter : Char
  mark : Mark
  digits : Text
  letter_eq : letter = 'e' ∨ letter = 'E'
  ne_nil : digits ≠ []
  isDigit : ∀ c ∈ digits, c.isDigit = true

namespace Power

/-- An exponent as it is written: a letter, a sign and digits. -/
def text (p : Power) : Text := p.letter :: (p.mark.text ++ p.digits)

/-- The exponent, given how its digits count. -/
def value (count : Text → ℕ) (p : Power) : ℤ := signed p.mark.negative (count p.digits)

end Power

/-- A decimal without a sign: the digits in front of a point, those after it if there is a point, and
an exponent if there is one. -/
structure Form where
  front : Text
  back : Option Text
  power : Option Power
  digits_ne_nil : front ++ back.getD [] ≠ []
  isDigit : ∀ c ∈ front ++ back.getD [], c.isDigit = true

namespace Form

/-- A decimal as it is written. -/
def text (f : Form) : Text := f.front ++ (f.back.elim [] ('.' :: ·) ++ f.power.elim [] Power.text)

/-- All digits but those of the exponent. -/
def digits (f : Form) : Text := f.front ++ f.back.getD []

/-- The exponent that is written, given how its digits count; zero if there is none. -/
def exponent (count : Text → ℕ) (f : Form) : ℤ := f.power.elim 0 (Power.value count)

/-- The number that is written, given how the digits of an exponent count. -/
def value (count : Text → ℕ) (f : Form) : ℚ :=
  (Numeral.value f.front + Numeral.value (f.back.getD []) / 10 ^ (f.back.getD []).length) *
    10 ^ f.exponent count

/-- The number that is written, in units of the last place. -/
def decimal (count : Text → ℕ) (f : Form) : Decimal :=
  ⟨Numeral.value f.digits, f.exponent count - (f.back.getD []).length⟩

theorem value_decimal (count : Text → ℕ) (f : Form) : (f.decimal count).value = f.value count := by
  unfold decimal value digits Decimal.value
  generalize f.exponent count = e
  generalize f.back.getD [] = back
  have hdigits : Numeral.value (f.front ++ back) =
      Numeral.value f.front * 10 ^ back.length + Numeral.value back := by
    rw [Numeral.value, Nat.ofDigitChars_append, Nat.ofDigitChars_eq_ofDigitChars_zero, mul_comm]
    rfl
  rw [hdigits, zpow_sub₀ (by norm_num), zpow_natCast]
  push_cast
  field_simp

end Form

/-! ## Exponents beyond the limit -/

/-- The exponent has digits that do not count, and so many other digits are written that the number may
still be neither far too large nor far too small for a finite number. -/
def Form.Overruns (f : Form) : Prop :=
  10 * exponentLimit ≤ f.power.elim 0 (fun p => Numeral.value p.digits) ∧ 65000 < f.digits.length

instance (f : Form) : Decidable f.Overruns := inferInstanceAs (Decidable (_ ∧ _))

/-- The number that a form is taken for: the one that is written, but where the exponent overruns, its
digits count until it reaches the limit. -/
def Form.effective (f : Form) : ℚ :=
  f.value (if f.Overruns then Numeral.valueUntil exponentLimit else Numeral.value)

theorem value_lt_pow {ds : Text} (h : ∀ c ∈ ds, c.isDigit = true) :
    Numeral.value ds < 10 ^ ds.length := by
  unfold Numeral.value
  induction ds with
  | nil => decide
  | cons c ds ih =>
    obtain ⟨hc, hds⟩ := List.forall_mem_cons.1 h
    have hdigit : c.toNat - '0'.toNat ≤ 9 := by
      have := Char.isDigit_iff_toNat.1 hc
      simp only [Char.reduceToNat] at *
      omega
    calc Nat.ofDigitChars 10 (c :: ds) 0
        = 10 ^ ds.length * (c.toNat - '0'.toNat) + Nat.ofDigitChars 10 ds 0 := by
          rw [Nat.ofDigitChars_cons, Nat.mul_zero, Nat.zero_add,
            Nat.ofDigitChars_eq_ofDigitChars_zero]
      _ < 10 ^ ds.length * 9 + 10 ^ ds.length :=
          Nat.add_lt_add_of_le_of_lt (Nat.mul_le_mul_left _ hdigit) (ih hds)
      _ = 10 ^ (c :: ds).length := by
          rw [List.length_cons, pow_succ]
          ring

section Limit

variable {f : Form} {p : Power} (hpower : f.power = some p) (hlength : f.digits.length ≤ 65000)
  {count : Text → ℕ} (hcount : exponentLimit ≤ count p.digits)
include hpower hlength hcount

theorem nearest_of_negative (hmark : p.mark.negative = true) (negative : Bool) :
    (f.decimal count).nearest negative = Binary64.ofWord negative 0 := by
  have hexponent : (f.decimal count).exponent ≤ -65536 := by
    have : (f.decimal count).exponent = -count p.digits - (f.back.getD []).length := by
      rw [Form.decimal, Form.exponent, hpower, Option.elim_some, Power.value, hmark, signed, if_pos rfl]
    unfold exponentLimit at hcount
    omega
  have hdigits : ((f.decimal count).digits : ℚ) ≤ 10 ^ (65000 : ℤ) := by
    have hlt : Numeral.value f.digits < 10 ^ f.digits.length := value_lt_pow f.isDigit
    calc ((f.decimal count).digits : ℚ) ≤ 10 ^ f.digits.length := by exact_mod_cast hlt.le
      _ = 10 ^ (f.digits.length : ℤ) := (zpow_natCast _ _).symm
      _ ≤ 10 ^ (65000 : ℤ) := zpow_le_zpow_right₀ (by norm_num) (by exact_mod_cast hlength)
  rw [Decimal.nearest_eq_ofWord]
  refine Decimal.ofWord_word_of_le negative ?_
  calc (f.decimal count).value
      ≤ 10 ^ (65000 : ℤ) * 10 ^ (-65536 : ℤ) :=
        mul_le_mul hdigits (zpow_le_zpow_right₀ (by norm_num) hexponent) (by positivity)
          (by positivity)
    _ ≤ 10 ^ (-331 : ℤ) := by
        rw [← zpow_add₀ (by norm_num)]
        exact zpow_le_zpow_right₀ (by norm_num) (by norm_num)

theorem nearest_of_positive (hmark : p.mark.negative = false) (hpos : 0 < Numeral.value f.digits)
    (negative : Bool) : (f.decimal count).nearest negative = Binary64.infinity negative := by
  have hplaces : (f.back.getD []).length ≤ f.digits.length := by
    rw [Form.digits, List.length_append]
    omega
  have hexponent : 536 ≤ (f.decimal count).exponent := by
    have : (f.decimal count).exponent = count p.digits - (f.back.getD []).length := by
      rw [Form.decimal, Form.exponent, hpower, Option.elim_some, Power.value, hmark, signed,
        if_neg (by decide)]
    unfold exponentLimit at hcount
    omega
  have hdigits : (f.decimal count).digits = Numeral.value f.digits := rfl
  rw [Decimal.nearest, if_neg (by omega), if_pos (by omega)]

end Limit

/-- **Unless the exponent overruns, the digits that do not count make no difference.** -/
theorem nearest_decimal {f : Form} (h : ¬f.Overruns) (negative : Bool) :
    (f.decimal (Numeral.valueUntil exponentLimit)).nearest negative =
      (f.decimal Numeral.value).nearest negative := by
  unfold Form.Overruns at h
  cases hpower : f.power with
  | none => rw [Form.decimal, Form.decimal, Form.exponent, Form.exponent, hpower]; rfl
  | some p =>
    rw [hpower, Option.elim_some] at h
    by_cases hcount : Numeral.value p.digits < 10 * exponentLimit
    · rw [Form.decimal, Form.decimal, Form.exponent, Form.exponent, hpower, Option.elim_some,
        Option.elim_some, Power.value, Power.value, Numeral.valueUntil_eq_value hcount]
    · -- both exponents are far beyond what so few digits can make up for
      have hlength : f.digits.length ≤ 65000 := by omega
      have hvalue : exponentLimit ≤ Numeral.value p.digits := by omega
      have huntil := Numeral.le_valueUntil hvalue
      cases hmark : p.mark.negative with
      | true =>
        rw [nearest_of_negative hpower hlength huntil hmark,
          nearest_of_negative hpower hlength hvalue hmark]
      | false =>
        rcases Nat.eq_zero_or_pos (Numeral.value f.digits) with hzero | hpos
        · have hnone (count : Text → ℕ) : (f.decimal count).digits = 0 := hzero
          rw [Decimal.nearest, if_pos (.inl (hnone _)), Decimal.nearest, if_pos (.inl (hnone _))]
        · rw [nearest_of_positive hpower hlength huntil hmark hpos,
            nearest_of_positive hpower hlength hvalue hmark hpos]

/-- **What is read from a form is the number nearest to what the form is taken for.** -/
theorem represents_effective (negative : Bool) (f : Form) :
    ((f.decimal (Numeral.valueUntil exponentLimit)).nearest negative).Represents negative
      f.effective := by
  unfold Form.effective
  split
  · rw [← Form.value_decimal]
    exact Decimal.represents_nearest negative _
  · rename_i h
    rw [nearest_decimal h, ← Form.value_decimal]
    exact Decimal.represents_nearest negative _

/-! ## Reading decimals -/

theorem exponent?_text (p : Option Power) :
    exponent? (p.elim [] Power.text) =
      some (p.elim 0 (Power.value (Numeral.valueUntil exponentLimit))) := by
  cases p with
  | none => rfl
  | some p =>
    have hnumeral : Numeral.isNumeral p.digits = true := by
      simpa [Numeral.isNumeral, p.ne_nil] using p.isDigit
    rw [Option.elim_some, Option.elim_some, Power.text, exponent?, if_pos p.letter_eq, whole?,
      sign_text_append p.mark (unmarked_of_isDigit (isDigit_of_mem_head? p.isDigit))]
    dsimp only
    rw [Numeral.readUntil?, if_pos hnumeral, Option.map_some]
    rfl

theorem exists_power {t : Text} (h : (exponent? t).isSome = true) :
    ∃ p : Option Power, t = p.elim [] Power.text := by
  cases t with
  | nil => exact ⟨none, rfl⟩
  | cons c t =>
    rw [exponent?] at h
    split at h
    · rename_i hletter
      obtain ⟨m, ht, -⟩ := exists_mark t
      rw [whole?, Option.isSome_map, Numeral.readUntil?] at h
      split at h
      · rename_i hnumeral
        have hds : (sign t).2 ≠ [] ∧ ∀ c ∈ (sign t).2, c.isDigit = true := by
          simpa [Numeral.isNumeral] using hnumeral
        exact ⟨some ⟨c, m, (sign t).2, hletter, hds.1, hds.2⟩, congrArg (c :: ·) ht⟩
      · cases h
    · cases h

theorem places_append {back : Option Text} {t : Text} (hback : ∀ c ∈ back.getD [], c.isDigit = true)
    (ht : ∀ c ∈ t.head?, c.isDigit = false ∧ c ≠ '.') :
    places (back.elim [] ('.' :: ·) ++ t) = (back.getD [], t) := by
  cases back with
  | none =>
    rw [Option.elim_none, List.nil_append, places]
    · rfl
    · rintro r rfl
      exact (ht '.' rfl).2 rfl
  | some ds =>
    have hnodigit : ∀ c ∈ t.head?, c.isDigit = false := fun c hc => (ht c hc).1
    rw [Option.elim_some, List.cons_append, places]
    exact Prod.ext (Text.takeWhile_append hback hnodigit) (Text.dropWhile_append hback hnodigit)

theorem exists_places (t : Text) : ∃ back : Option Text, (places t).1 = back.getD [] ∧
    (∀ c ∈ back.getD [], c.isDigit = true) ∧ t = back.elim [] ('.' :: ·) ++ (places t).2 := by
  unfold places
  split
  · rename_i t
    refine ⟨some (t.takeWhile Char.isDigit), rfl, fun c hc => List.mem_takeWhile_imp hc, ?_⟩
    exact congrArg ('.' :: ·) List.takeWhile_append_dropWhile.symm
  · exact ⟨none, rfl, nofun, rfl⟩

theorem head?_power {p : Option Power} {c : Char} (h : c ∈ (p.elim [] Power.text).head?) :
    c = 'e' ∨ c = 'E' := by
  cases p with
  | none => cases h
  | some p =>
    obtain rfl : p.letter = c := Option.some.inj h
    exact p.letter_eq

theorem decimal?_text (f : Form) :
    decimal? f.text = some (f.decimal (Numeral.valueUntil exponentLimit)) := by
  have hpower : ∀ c ∈ (f.power.elim [] Power.text).head?, c.isDigit = false ∧ c ≠ '.' := by
    intro c hc
    rcases head?_power hc with rfl | rfl
    · decide
    · decide
  have hrest : ∀ c ∈ (f.back.elim [] ('.' :: ·) ++ f.power.elim [] Power.text).head?,
      c.isDigit = false := by
    cases hback : f.back with
    | none => exact fun c hc => (hpower c hc).1
    | some ds =>
      rintro c ⟨⟩
      decide
  have hfront : ∀ c ∈ f.front, c.isDigit = true := fun c hc =>
    f.isDigit c (List.mem_append_left _ hc)
  have hplaces := places_append (fun c hc => f.isDigit c (List.mem_append_right _ hc)) hpower
  unfold decimal? Form.text
  rw [Text.takeWhile_append hfront hrest, Text.dropWhile_append hfront hrest, hplaces]
  dsimp only
  rw [if_neg (by simpa using f.digits_ne_nil), exponent?_text, LongNumeral.value_eq, Option.map_some]
  rfl

/-- **Only the forms are read as decimals.** -/
theorem exists_form {t : Text} (h : (decimal? t).isSome = true) : ∃ f : Form, t = f.text := by
  have hfront : t = t.takeWhile Char.isDigit ++ t.dropWhile Char.isDigit :=
    List.takeWhile_append_dropWhile.symm
  obtain ⟨back, hback, hdigits, hrest⟩ := exists_places (t.dropWhile Char.isDigit)
  unfold decimal? at h
  dsimp only at h
  split at h
  · cases h
  · rename_i hne
    rw [hback] at hne
    rw [Option.isSome_map] at h
    obtain ⟨power, hpower⟩ := exists_power h
    refine ⟨⟨t.takeWhile Char.isDigit, back, power, by simpa using hne, fun c hc => ?_⟩, ?_⟩
    · exact (List.mem_append.1 hc).elim List.mem_takeWhile_imp (hdigits c)
    · rw [Form.text, ← hpower, ← hrest, ← hfront]

theorem Form.exists_text_eq_cons (f : Form) :
    ∃ c t, f.text = c :: t ∧ (c.isDigit = true ∨ c = '.') := by
  have hne := f.digits_ne_nil
  have hdigits := f.isDigit
  unfold Form.text
  cases hfront : f.front with
  | cons c ds =>
    rw [hfront] at hdigits
    exact ⟨c, _, rfl, .inl (hdigits c List.mem_cons_self)⟩
  | nil =>
    cases hback : f.back with
    | none =>
      rw [hfront, hback] at hne
      exact absurd rfl hne
    | some ds => exact ⟨'.', _, rfl, .inr rfl⟩

theorem unmarked_text (f : Form) : Unmarked f.text := by
  obtain ⟨c, t, hf, hc⟩ := f.exists_text_eq_cons
  rw [hf]
  refine unmarked_of_head? (p := fun c => c.isDigit = true ∨ c = '.') (by decide) (by decide) ?_
  rintro d ⟨⟩
  exact hc

theorem word?_text (negative : Bool) (f : Form) : word? negative f.text = none := by
  obtain ⟨c, t, hf, hc⟩ := f.exists_text_eq_cons
  rw [hf]
  rcases hc with hdigit | rfl
  · exact word?_of_isDigit hdigit negative t
  · simp [word?]

/-! ## Binary numbers -/

/-- The text is one of the words or a decimal, with a mark. -/
def IsFloat (t : Text) : Prop :=
  ∃ (m : Mark) (r : Text), t = m.text ++ r ∧ (IsInfinity r ∨ IsNaN r ∨ ∃ f : Form, r = f.text)

theorem binary64?_text_append (m : Mark) {t : Text} (h : Unmarked t) :
    binary64? (m.text ++ t) =
      (word? m.negative t).or ((decimal? t).map (Decimal.nearest m.negative)) := by
  rw [binary64?, sign_text_append m h]

theorem binary64?_infinity (m : Mark) {t : Text} (h : IsInfinity t) :
    binary64? (m.text ++ t) = some (Binary64.infinity m.negative) := by
  rw [binary64?_text_append m (unmarked_of_word (.inl h)), word?_eq_some_iff.2 (.inl ⟨h, rfl⟩),
    Option.some_or]

theorem binary64?_nan (m : Mark) {t : Text} (h : IsNaN t) :
    binary64? (m.text ++ t) = some Binary64.nan := by
  rw [binary64?_text_append m (unmarked_of_word (.inr h)), word?_eq_some_iff.2 (.inr ⟨h, rfl⟩),
    Option.some_or]

theorem binary64?_form (m : Mark) (f : Form) :
    binary64? (m.text ++ f.text) =
      some ((f.decimal (Numeral.valueUntil exponentLimit)).nearest m.negative) := by
  rw [binary64?_text_append m (unmarked_text f), word?_text, Option.none_or, decimal?_text,
    Option.map_some]

/-- **The words and the decimals are what is read as a binary number.** -/
theorem binary64?_isSome_iff {t : Text} : (binary64? t).isSome = true ↔ IsFloat t := by
  constructor
  · intro h
    obtain ⟨m, ht, -⟩ := exists_mark t
    refine ⟨m, _, ht, ?_⟩
    rw [binary64?, Option.isSome_or, Option.isSome_map, Bool.or_eq_true] at h
    rcases h with h | h
    · obtain ⟨x, hx⟩ := Option.isSome_iff_exists.1 h
      rcases word?_eq_some_iff.1 hx with ⟨hword, -⟩ | ⟨hword, -⟩
      · exact .inl hword
      · exact .inr (.inl hword)
    · exact .inr (.inr (exists_form h))
  · rintro ⟨m, r, rfl, hword | hword | ⟨f, rfl⟩⟩
    · rw [binary64?_infinity m hword]
      rfl
    · rw [binary64?_nan m hword]
      rfl
    · rw [binary64?_form m f]
      rfl

end MessageTemplate.Written
