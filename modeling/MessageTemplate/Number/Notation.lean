import MessageTemplate.Number.Nearest
import MessageTemplate.Text.LongNumeral

/-!
# Written numbers

* `Written.sign`: an optional sign at the front.
* `Written.integer?`: a sign and decimal digits, for a number of 64 bits with a sign.
* `Written.decimal?`: decimal digits with at most one point and an optional exponent. The digits of
  an exponent count until it reaches `Written.exponentLimit`, far beyond the exponents of binary
  numbers; by `Numeral.valueUntil_eq_value` an exponent less than ten times that counts whole.
* `Written.binary64?`: a sign and a decimal, or a sign and one of the words `inf`, `infinity` and
  `nan` in any letter case.
* `Written.integer?_eq_some_iff`: the numbers of 64 bits that are read.
  `Written.word?_of_isDigit`: no digit is at the front of a word.
-/

namespace MessageTemplate.Written

/-- Whether there is a minus sign at the front, and what follows the sign. -/
def sign : Text → Bool × Text
  | '-' :: t => (true, t)
  | '+' :: t => (false, t)
  | t => (false, t)

/-- Put a sign to a number. -/
def signed (negative : Bool) (n : Nat) : Int := if negative then -n else n

/-- Read a whole number with an optional sign, as far as its digits count. -/
def whole? (limit : Nat) (t : Text) : Option Int :=
  (Numeral.readUntil? limit (sign t).2).map (signed (sign t).1)

/-- Read a whole number of 64 bits with a sign. -/
def integer? (t : Text) : Option Int64 :=
  match whole? 0x10000000000000000 t with
  | some n => if -0x8000000000000000 ≤ n ∧ n ≤ 0x7FFFFFFFFFFFFFFF then some (Int64.ofInt n) else none
  | none => none

/-- The size from which on the digits of an exponent count for nothing. -/
def exponentLimit : Nat := 0x10000

/-- Read the exponent after the digits: nothing, or a letter `e` and a whole number. -/
def exponent? : Text → Option Int
  | [] => some 0
  | c :: t => if c = 'e' ∨ c = 'E' then whole? exponentLimit t else none

/-- The places after a point, and what follows them. -/
def places : Text → Text × Text
  | '.' :: t => (t.takeWhile Char.isDigit, t.dropWhile Char.isDigit)
  | t => ([], t)

/-- Read a decimal without a sign. It has at least one digit before or after the point. -/
def decimal? (t : Text) : Option Decimal :=
  let front := t.takeWhile Char.isDigit
  let (back, rest) := places (t.dropWhile Char.isDigit)
  if (front ++ back).isEmpty then none
  else (exponent? rest).map fun e => ⟨LongNumeral.value (front ++ back), e - back.length⟩

/-- Read one of the words for a number that is not finite. -/
def word? (negative : Bool) (t : Text) : Option Binary64 :=
  let t := t.map Char.toLower
  if t = "inf".toList ∨ t = "infinity".toList then some (Binary64.infinity negative)
  else if t = "nan".toList then some Binary64.nan
  else none

/-- Read a binary number, the nearest to the number written. -/
def binary64? (t : Text) : Option Binary64 :=
  let (negative, t) := sign t
  (word? negative t).or ((decimal? t).map (Decimal.nearest negative))

theorem signed_natAbs (v : Int) : signed (v < 0) v.natAbs = v := by
  unfold signed
  simp only [decide_eq_true_eq]
  split <;> omega

theorem not_inRange_signed (negative : Bool) {n : Nat} (h : 0x10000000000000000 ≤ n) :
    ¬(-0x8000000000000000 ≤ signed negative n ∧ signed negative n ≤ 0x7FFFFFFFFFFFFFFF) := by
  unfold signed
  split <;> omega

theorem sign_of_isDigit {t : Text} (h : ∀ c ∈ t.head?, c.isDigit = true) : sign t = (false, t) := by
  unfold sign
  split
  · exact absurd (h '-' rfl) (by decide)
  · exact absurd (h '+' rfl) (by decide)
  · rfl

/-- **A number of 64 bits is read from the digits that denote it.** Digits that do not count are those
of a number that is too large anyway. -/
theorem integer?_eq_some_iff {t : Text} {v : Int64} :
    integer? t = some v ↔ (sign t).2 ≠ [] ∧ (∀ c ∈ (sign t).2, c.isDigit = true) ∧
      v.toInt = signed (sign t).1 (Numeral.value (sign t).2) := by
  have hlower := v.le_toInt
  have hupper := v.toInt_lt
  unfold integer? whole? Numeral.readUntil?
  generalize sign t = s
  obtain ⟨negative, ds⟩ := s
  dsimp only
  by_cases hnumeral : Numeral.isNumeral ds = true
  · have hds : ds ≠ [] ∧ ∀ c ∈ ds, c.isDigit = true := by simpa [Numeral.isNumeral] using hnumeral
    rw [if_pos hnumeral, Option.map_some, ← and_assoc, and_iff_right hds]
    dsimp only
    by_cases hcount : Numeral.value ds < 10 * 0x10000000000000000
    · rw [Numeral.valueUntil_eq_value hcount]
      split
      · rename_i hrange
        rw [Option.some.injEq]
        constructor
        · rintro rfl
          exact Int64.toInt_ofInt_of_le hrange.1 (by omega)
        · intro hv
          rw [← hv, Int64.ofInt_toInt]
      · rename_i hrange
        simp only [reduceCtorEq, false_iff]
        omega
    · have huntil : 0x10000000000000000 ≤ Numeral.valueUntil 0x10000000000000000 ds :=
        Numeral.le_valueUntil (by omega)
      rw [if_neg (not_inRange_signed negative huntil)]
      simp only [reduceCtorEq, false_iff]
      have hvalue := @not_inRange_signed negative (Numeral.value ds) (by omega)
      omega
  · rw [if_neg hnumeral, Option.map_none]
    simp only [reduceCtorEq, false_iff]
    rintro ⟨hne, hdigits, -⟩
    exact hnumeral (by simpa [Numeral.isNumeral, hne] using hdigits)

theorem word?_of_isDigit {c : Char} (h : c.isDigit = true) (negative : Bool) (t : Text) :
    word? negative (c :: t) = none := by
  have hlower : c.toLower = c := by
    have hrange := Char.isDigit_iff_toNat.1 h
    simp only [Char.reduceToNat] at hrange
    refine dif_neg fun hupper => ?_
    have hle : 65 ≤ c.toNat := UInt32.le_iff_toNat_le.1 hupper.1
    omega
  have hi : c ≠ 'i' := by
    rintro rfl
    exact absurd h (by decide)
  have hn : c ≠ 'n' := by
    rintro rfl
    exact absurd h (by decide)
  unfold word?
  rw [List.map_cons, hlower]
  simp [hi, hn]

end MessageTemplate.Written
