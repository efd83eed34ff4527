import Mathlib.Algebra.Order.Field.Rat
import Mathlib.Tactic.FieldSimp
import Mathlib.Tactic.Linarith
import Mathlib.Tactic.Positivity
import Mathlib.Tactic.Ring
import MessageTemplate.Proofs.Formats
import MessageTemplate.Scalar.Rendering

/-!
# Binary numbers with a fixed number of places

A format that fixes the decimal places makes of a binary number the digits of the nearest whole
number of units of the last place, the even one of two. Only as many places as can differ from zero
are computed; what follows them is exact.

* `IsNearest`: the whole number nearest a rational. `isNearest_of_half`: at most a half away is near
  enough. `isNearest_roundQuotient`: a rounded quotient is nearest.
* `NumberFormat.isNearest_units`: so is the number of units, however many places there are.
* `Binary64.value_neg_iff`: a number is negative if it has a sign and is not zero.
* `NumberFormat.Rounds`: digits that write a rational with a fixed number of places.
  `NumberFormat.rounds_units`: the digits of a binary number are such.
* **`Scalar.render_fixed`**: what a format with a fixed number of places makes of a binary number.
-/

namespace MessageTemplate

/-- No whole number is nearer to `q` than `n`, and `n` is even if another one is equally near. -/
structure IsNearest (q : ℚ) (n : ℕ) : Prop where
  near (m : ℕ) : |q - n| ≤ |q - m|
  even (m : ℕ) : m ≠ n → |q - m| = |q - n| → n % 2 = 0

theorem one_le_abs_sub_add_abs_sub (q : ℚ) {m n : ℕ} (h : m ≠ n) : 1 ≤ |q - m| + |q - n| := by
  have hstep : (1 : ℚ) ≤ |(n : ℚ) - m| := by
    exact_mod_cast Int.one_le_abs (show (n : ℤ) - m ≠ 0 by omega)
  have htriangle := abs_sub_le (n : ℚ) q m
  rw [abs_sub_comm (n : ℚ) q] at htriangle
  linarith

theorem isNearest_of_half {q : ℚ} {n : ℕ} (half : |q - n| ≤ 1 / 2)
    (even : |q - n| = 1 / 2 → n % 2 = 0) : IsNearest q n := by
  refine ⟨fun m => ?_, fun m hm htie => even ?_⟩
  · rcases eq_or_ne m n with rfl | hm
    · exact le_refl _
    · linarith [one_le_abs_sub_add_abs_sub q hm]
  · linarith [one_le_abs_sub_add_abs_sub q hm]

theorem isNearest_natCast (n : ℕ) : IsNearest n n := by
  have h : |(n : ℚ) - n| = 0 := by simp
  exact isNearest_of_half (by rw [h]; norm_num) (by rw [h]; norm_num)

theorem isNearest_roundQuotient (n : ℕ) {d : ℕ} (hd : 0 < d) :
    IsNearest ((n : ℚ) / d) (roundQuotient n d) := by
  have hd' : (0 : ℚ) < d := by exact_mod_cast hd
  have hupper := two_mul_roundQuotient_le n d
  have hlower := le_two_mul_roundQuotient n hd
  have heven := roundQuotient_even (n := n) hd
  generalize roundQuotient n d = r at *
  have hdistance : |(n : ℚ) / d - r| = |(2 * n - 2 * (d * r) : ℚ)| / (2 * d) := by
    rw [← abs_of_pos (show (0 : ℚ) < 2 * d by positivity), ← abs_div]
    congr 1
    field_simp
  refine isNearest_of_half ?_ fun htie => heven ?_
  · have hle : |(2 * n - 2 * (d * r) : ℚ)| ≤ d := by
      rw [abs_le]
      have hupper' : (2 * (d * r) : ℚ) ≤ 2 * n + d := by exact_mod_cast hupper
      have hlower' : (2 * n : ℚ) ≤ 2 * (d * r) + d := by exact_mod_cast hlower
      constructor <;> linarith
    rw [hdistance, div_le_iff₀ (by positivity)]
    linarith
  · have heq : |(2 * n - 2 * (d * r) : ℚ)| = d := by
      rw [hdistance, div_eq_iff (by positivity)] at htie
      linarith
    rcases eq_or_eq_neg_of_abs_eq heq with h | h
    · exact .inr (by exact_mod_cast (by linarith : (2 * n : ℚ) = 2 * (d * r) + d))
    · exact .inl (by exact_mod_cast (by linarith : (2 * (d * r) : ℚ) = 2 * n + d))

namespace Binary64

/-- Every finite number is a whole multiple of `10 ^ -1074`. -/
theorem denominator_dvd (x : Binary64) : x.denominator ∣ Nat.pow 10 NumberFormat.exactPlaces := by
  have hexponent : (-x.exponent).toNat ≤ NumberFormat.exactPlaces := by
    unfold exponent NumberFormat.exactPlaces
    split <;> omega
  generalize NumberFormat.exactPlaces = places at *
  rw [denominator, Nat.shiftLeft_eq, Nat.one_mul]
  exact (Nat.pow_dvd_pow 2 hexponent).trans (pow_dvd_pow_of_dvd (by decide) _)

theorem magnitude_nonneg (x : Binary64) : 0 ≤ x.magnitude := by
  rw [magnitude_eq]
  positivity

theorem abs_value (x : Binary64) : |x.value| = x.magnitude := by
  unfold value
  split
  · rw [abs_neg, abs_of_nonneg x.magnitude_nonneg]
  · exact abs_of_nonneg x.magnitude_nonneg

theorem value_neg_iff (x : Binary64) :
    x.value < 0 ↔ x.isNegative = true ∧ x.numerator ≠ 0 := by
  have hzero : x.magnitude = 0 ↔ x.numerator = 0 := by
    have hd := x.denominator_pos
    rw [magnitude_eq, div_eq_zero_iff]
    simp only [Nat.cast_eq_zero]
    omega
  have hnonneg := x.magnitude_nonneg
  unfold value
  split
  · rename_i hneg
    rw [neg_lt_zero, hnonneg.lt_iff_ne, ne_comm, ne_eq, hzero]
    simp [hneg]
  · rename_i hneg
    simp [hneg, hnonneg]

end Binary64

namespace NumberFormat

/-- **The number of units is nearest**, and what follows the computed places is exact. -/
theorem isNearest_units (x : Binary64) (places : ℕ) :
    IsNearest (x.magnitude * 10 ^ places)
      (units places x * 10 ^ (places - min places exactPlaces)) := by
  have hdvd := x.denominator_dvd
  unfold units
  generalize exactPlaces = computed at hdvd ⊢
  rcases Nat.le_total places computed with h | h
  · have hq : x.magnitude * 10 ^ places =
        ((x.numerator * Nat.pow 10 places : ℕ) : ℚ) / (x.denominator : ℕ) := by
      rw [x.magnitude_eq, Nat.pow_eq]
      push_cast
      ring
    rw [hq, Nat.min_eq_left h, Nat.sub_self, pow_zero, mul_one]
    exact isNearest_roundQuotient _ x.denominator_pos
  · -- `10 ^ computed` is a whole multiple of the denominator, so nothing is left to round
    obtain ⟨k, hk⟩ := hdvd
    have hd : (x.denominator : ℚ) ≠ 0 := by exact_mod_cast x.denominator_pos.ne'
    have hunits : roundQuotient (x.numerator * Nat.pow 10 computed) x.denominator =
        x.numerator * k := by
      rw [hk, Nat.mul_left_comm, Nat.mul_comm x.denominator]
      exact roundQuotient_mul x.denominator_pos _
    have hten : (10 : ℚ) ^ computed = x.denominator * k := by exact_mod_cast hk
    have hq : x.magnitude * 10 ^ places =
        ((x.numerator * k * 10 ^ (places - computed) : ℕ) : ℚ) := by
      have hsplit : (10 : ℚ) ^ places = 10 ^ computed * 10 ^ (places - computed) := by
        rw [← pow_add, Nat.add_sub_cancel' h]
      rw [x.magnitude_eq, hsplit, hten]
      push_cast
      field_simp
    rw [hq, Nat.min_eq_right h, hunits]
    exact isNearest_natCast _

/-- The digits before and after the separator that write `q` with a fixed number of places. -/
structure Rounds (q : ℚ) (whole places : ℕ) (digits decimals : Text) : Prop where
  isDigit : ∀ c ∈ digits ++ decimals, c.isDigit = true
  /-- As many digits as are asked for, as there are without leading zeros, or one. -/
  length_digits : digits.length = max whole (max 1 (digits.dropWhile (· == '0')).length)
  length_decimals : decimals.length = places
  nearest : IsNearest (q * 10 ^ places) (Numeral.value (digits ++ decimals))

/-- The digits of a binary number before the separator. -/
def digitPart (whole places : ℕ) (x : Binary64) : Text :=
  Numeral.padLeft (max 1 whole) (wholePart places x)

/-- The digits of a binary number after the separator. -/
def decimalPart (places : ℕ) (x : Binary64) : Text :=
  Numeral.padLeft (min places exactPlaces)
    (Decimal.placeDigits (min places exactPlaces) (units places x)) ++
      List.replicate (places - min places exactPlaces) '0'

theorem digitPart_append_decimalPart (whole places : ℕ) (x : Binary64) :
    digitPart whole places x ++ decimalPart places x =
      Numeral.padLeft (min places exactPlaces + max 1 whole) (Numeral.decimal (units places x)) ++
        List.replicate (places - min places exactPlaces) '0' := by
  rw [digitPart, decimalPart, wholePart, ← List.append_assoc, Decimal.padLeft_wholeDigits_append,
    LongNumeral.decimal_eq]

theorem value_digits (whole places : ℕ) (x : Binary64) :
    Numeral.value (digitPart whole places x ++ decimalPart places x) =
      units places x * 10 ^ (places - min places exactPlaces) := by
  rw [digitPart_append_decimalPart, Numeral.value_append_zeros, Numeral.value_padLeft,
    Numeral.value_decimal, Nat.pow_eq]

theorem rounds_units (whole places : ℕ) (x : Binary64) :
    Rounds x.magnitude whole places (digitPart whole places x) (decimalPart places x) where
  isDigit c hc := by
    rw [digitPart_append_decimalPart, List.mem_append] at hc
    rcases hc with hc | hc
    · exact Numeral.isDigit_of_mem_padLeft (fun _ => Numeral.isDigit_of_mem_decimal) hc
    · rw [List.eq_of_mem_replicate hc]
      rfl
  length_digits := Decimal.length_padLeft_wholeDigits whole _ _
  length_decimals := by
    rw [decimalPart, List.length_append, Decimal.length_padLeft_placeDigits, List.length_replicate]
    omega
  nearest := by
    rw [value_digits]
    exact isNearest_units x places

theorem rounded_eq_digits (separator : Char) (whole places : ℕ) (x : Binary64) :
    rounded separator whole places x =
      minus (x.isNegative && units places x != 0) ++ digitPart whole places x ++
        if places = 0 then [] else separator :: decimalPart places x := by
  rw [rounded_eq, placePart, List.append_assoc]
  split <;> rfl

theorem isNegative_and_units_ne_zero (whole places : ℕ) (x : Binary64) :
    (x.isNegative && units places x != 0) = decide
      (x.value < 0 ∧ (digitPart whole places x ++ decimalPart places x).any (· != '0')) := by
  have hunits : units places x = 0 ↔
      ∀ c ∈ digitPart whole places x ++ decimalPart places x, c = '0' := by
    rw [← Numeral.value_eq_zero_iff (rounds_units whole places x).isDigit, value_digits]
    simp
  have hother : (digitPart whole places x ++ decimalPart places x).any (· != '0') = true ↔
      units places x ≠ 0 := by
    rw [ne_eq, hunits, List.any_eq_true]
    simp
  have hzero : x.numerator = 0 → units places x = 0 := by
    intro h
    rw [units, h, Nat.zero_mul]
    simpa using roundQuotient_mul x.denominator_pos 0
  rw [Bool.eq_iff_iff, decide_eq_true_iff, x.value_neg_iff, Bool.and_eq_true, bne_iff_ne, hother]
  constructor
  · rintro ⟨hneg, hne⟩
    exact ⟨⟨hneg, fun h => hne (hzero h)⟩, hne⟩
  · rintro ⟨⟨hneg, -⟩, hne⟩
    exact ⟨hneg, hne⟩

theorem float_eq_rounded {x : Binary64} (finite : x.isFinite = true) {format : NumberFormat}
    {whole places : ℕ} (shape : format.shape? = some (whole, places)) (separator : Char) :
    float separator x format = rounded separator whole places x := by
  unfold float
  rw [finite]
  cases format with
  | general | hexadecimal => cases shape
  | digits | fixed => cases shape; rfl

end NumberFormat

/-- **A format with a fixed number of places rounds a finite number to the nearest**, and writes a
sign exactly if the number is negative and some digit is not zero. -/
theorem Scalar.render_fixed {x : Binary64} (finite : x.isFinite = true) {f : Text}
    {format : NumberFormat} (spelled : NumberFormat.Spelled f format) {whole places : ℕ}
    (shape : format.shape? = some (whole, places)) {culture : Option Culture}
    (plain : ∀ c ∈ culture, c.override (.float x) (some f) = none) :
    ∃ digits decimals, NumberFormat.Rounds |x.value| whole places digits decimals ∧
      ((Scalar.float x).render (some f) culture).text? = some
        (NumberFormat.minus (x.value < 0 ∧ (digits ++ decimals).any (· != '0')) ++ digits ++
          if places = 0 then [] else culture.elim '.' Culture.separator :: decimals) := by
  have hformat : NumberFormat.ofText f = format := NumberFormat.ofText_of_spelled spelled
  refine ⟨NumberFormat.digitPart whole places x, NumberFormat.decimalPart places x, ?_, ?_⟩
  · rw [x.abs_value]
    exact NumberFormat.rounds_units whole places x
  · rw [Scalar.text?_render, Scalar.write_eq_format plain, Scalar.format, Option.getD_some, hformat,
      NumberFormat.float_eq_rounded finite shape, NumberFormat.rounded_eq_digits,
      NumberFormat.isNegative_and_units_ne_zero whole]

/-- The number nearest to `-9.96`, whose digits carry into the next place. -/
def Binary64.carrying : Binary64 := ⟨0xC023EB851EB851EC⟩

theorem Scalar.fixed_carrying :
    ∃ digits decimals, NumberFormat.Rounds |Binary64.carrying.value| 3 1 digits decimals ∧
      ((Scalar.float .carrying).render (some ['0', '0', '0', '.', '0'])
        (some { separator := ',' })).text? = some
          (NumberFormat.minus
            (Binary64.carrying.value < 0 ∧ (digits ++ decimals).any (· != '0')) ++
              digits ++ ',' :: decimals) := by
  have spelled : NumberFormat.Spelled ['0', '0', '0', '.', '0'] (.fixed 3 1) :=
    @NumberFormat.Spelled.zeroPlaces 3 1 (by decide) (by decide)
  exact @render_fixed .carrying rfl _ _ spelled 3 1 rfl (some { separator := ',' })
    fun | _, rfl => rfl

end MessageTemplate
