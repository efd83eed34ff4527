import MessageTemplate.Number.Nearest
import MessageTemplate.Proofs.RoundingRange

/-!
# The number nearest a quotient

The bits that are computed from a quotient are those of the number that it rounds to: its unit is
found from the power of two below the quotient, and the quotient in these units is rounded to a
whole number.

* `Nearest.unitExponent`, `Nearest.significand`, `Nearest.bits`: the unit, the number of units, and the
  bits that are computed from them.
* **`Nearest.inReach_word`**: the quotient is in reach of the number with these bits, if it is finite.
* `Binary64.overflow`: where the finite numbers end. `Nearest.word_lt_of_lt_overflow`: what is below
  rounds to a finite number.
* **`Nearest.ofWord_word_of_inReach`**: what is in reach of a finite number rounds to it.
* **`Decimal.nearest_eq_ofWord`**: the same bits for a decimal, however large or small.
* `Binary64.Represents`: the number nearest to a rational with a sign.
  **`Decimal.represents_nearest`**: a decimal goes to it.
-/

namespace MessageTemplate

namespace IsNearest

variable {q : ℚ} {n : ℕ}

theorem abs_sub_le_half (h : IsNearest q n) (hq : 0 ≤ q) : |q - n| ≤ 1 / 2 := by
  rw [abs_le]
  constructor
  · cases n with
    | zero =>
      push_cast
      linarith
    | succ m =>
      have hbelow := sq_le_sq.2 (h.near m)
      push_cast at hbelow ⊢
      nlinarith
  · have habove := sq_le_sq.2 (h.near (n + 1))
    push_cast at habove
    nlinarith

theorem even_of_half (h : IsNearest q n) (half : |q - n| = 1 / 2) : n % 2 = 0 := by
  rcases eq_or_eq_neg_of_abs_eq half with heq | heq
  · refine h.even (n + 1) (by omega) ?_
    have hother : q - (n + 1 : ℕ) = -(1 / 2) := by
      push_cast
      linarith
    rw [half, hother]
    norm_num
  · cases n with
    | zero => rfl
    | succ m =>
      refine h.even m (by omega) ?_
      have hother : q - m = 1 / 2 := by
        push_cast at heq
        linarith
      rw [half, hother]
      norm_num

end IsNearest

namespace Nearest

/-- The power of two that the number nearest `n / d` counts, if it is not rounded up to a power of
two. -/
def unitExponent (n d : ℕ) : ℤ := max (binaryExponent n d - 52) (-1074)

/-- The number of units nearest `n / d`. -/
def significand (n d : ℕ) : ℕ :=
  roundQuotient (n <<< (-unitExponent n d).toNat) (d <<< (unitExponent n d).toNat)

/-- The quotient in units. -/
def scaled (n d : ℕ) : ℚ := n / d / 2 ^ unitExponent n d

theorem le_unitExponent (n d : ℕ) : -1074 ≤ unitExponent n d := le_max_right _ _

/-- The bits that are computed, also where they are beyond those of all finite numbers. -/
def bits (n d : ℕ) : ℕ := (unitExponent n d + 1074).toNat * Binary64.hidden + significand n d

theorem word_eq {n : ℕ} (hn : 0 < n) (d : ℕ) : word n d = min (bits n d) Binary64.infinityWord := by
  rw [word, if_neg (by omega)]
  rfl

theorem quotient_eq (n d : ℕ) : (n : ℚ) / d = scaled n d * 2 ^ unitExponent n d := by
  rw [scaled, div_mul_cancel₀ _ (by positivity)]

theorem shiftLeft_pos {n : ℕ} (hn : 0 < n) (k : ℕ) : 0 < n <<< k := by
  rw [Nat.shiftLeft_eq]
  exact Nat.mul_pos hn (Nat.two_pow_pos k)

theorem isNearest_significand (n : ℕ) {d : ℕ} (hd : 0 < d) :
    IsNearest (scaled n d) (significand n d) := by
  rw [scaled, ← shiftLeft_div_shiftLeft]
  exact isNearest_roundQuotient _ (shiftLeft_pos hd _)

theorem abs_scaled_sub_le (n : ℕ) {d : ℕ} (hd : 0 < d) :
    |scaled n d - significand n d| ≤ 1 / 2 := by
  have hnonneg : 0 ≤ scaled n d := by
    unfold scaled
    positivity
  exact (isNearest_significand n hd).abs_sub_le_half hnonneg

section Quotient

variable {n d : ℕ} (hn : 0 < n) (hd : 0 < d)
include hn hd

/-- The exponent is that of a power of two at or below the quotient, less than half of it away. -/
theorem binaryExponent_bounds :
    (2 : ℚ) ^ binaryExponent n d ≤ n / d ∧ (n : ℚ) / d < 2 ^ (binaryExponent n d + 1) := by
  have hn' : (2 : ℚ) ^ n.log2 ≤ n ∧ (n : ℚ) < 2 ^ (n.log2 + 1) := by
    exact_mod_cast And.intro (Nat.log2_self_le hn.ne') Nat.lt_log2_self
  have hd' : (2 : ℚ) ^ d.log2 ≤ d ∧ (d : ℚ) < 2 ^ (d.log2 + 1) := by
    exact_mod_cast And.intro (Nat.log2_self_le hd.ne') Nat.lt_log2_self
  have hdpos : (0 : ℚ) < d := by exact_mod_cast hd
  obtain ⟨e, he⟩ : ∃ e : ℤ, e = n.log2 - d.log2 := ⟨_, rfl⟩
  have hpow (k : ℤ) (a b : ℕ) (hk : k = a - b) : (2 : ℚ) ^ k = 2 ^ a / 2 ^ b := by
    rw [hk, zpow_sub₀ (by norm_num), zpow_natCast, zpow_natCast]
  have hlower : (2 : ℚ) ^ (e - 1) ≤ n / d := by
    rw [hpow (e - 1) n.log2 (d.log2 + 1) (by push_cast; omega)]
    exact div_le_div₀ (Nat.cast_nonneg n) hn'.1 hdpos hd'.2.le
  have hupper : (n : ℚ) / d < 2 ^ (e + 1) := by
    rw [hpow (e + 1) (n.log2 + 1) d.log2 (by push_cast; omega)]
    exact div_lt_div₀ hn'.2 hd'.1 (by positivity) (by positivity)
  have htest : n <<< (-e).toNat < d <<< e.toNat ↔ (n : ℚ) / d < 2 ^ e := by
    have hpos : (0 : ℚ) < (d <<< e.toNat : ℕ) := by exact_mod_cast shiftLeft_pos hd _
    rw [← div_lt_one (by positivity : (0 : ℚ) < 2 ^ e), ← shiftLeft_div_shiftLeft, div_lt_one hpos]
    exact_mod_cast Iff.rfl
  unfold binaryExponent
  simp only [← he, htest]
  split
  · rename_i hlt
    exact ⟨hlower, by rwa [sub_add_cancel]⟩
  · rename_i hle
    exact ⟨not_lt.1 hle, hupper⟩

theorem scaled_lt : scaled n d < 2 * Binary64.hidden := by
  have hexponent : binaryExponent n d + 1 ≤ unitExponent n d + 53 := by
    have := le_max_left (binaryExponent n d - 52) (-1074)
    unfold unitExponent
    omega
  rw [scaled, div_lt_iff₀ (by positivity)]
  calc (n : ℚ) / d < 2 ^ (binaryExponent n d + 1) := (binaryExponent_bounds hn hd).2
    _ ≤ 2 ^ (unitExponent n d + 53) := zpow_le_zpow_right₀ (by norm_num) hexponent
    _ = 2 * Binary64.hidden * 2 ^ unitExponent n d := by
      rw [zpow_add₀ (by norm_num), mul_comm]
      unfold Binary64.hidden
      norm_num

theorem hidden_le_scaled (h : -1074 < unitExponent n d) : Binary64.hidden ≤ scaled n d := by
  have hexponent : binaryExponent n d = 52 + unitExponent n d := by
    unfold unitExponent at *
    omega
  rw [scaled, le_div_iff₀ (by positivity)]
  calc (Binary64.hidden : ℚ) * 2 ^ unitExponent n d = 2 ^ binaryExponent n d := by
        rw [hexponent, zpow_add₀ (by norm_num)]
        unfold Binary64.hidden
        norm_num
    _ ≤ n / d := (binaryExponent_bounds hn hd).1

theorem significand_le : significand n d ≤ 2 * Binary64.hidden := by
  have h := (abs_le.1 (abs_scaled_sub_le n hd)).1
  have hlt := scaled_lt hn hd
  have : (significand n d : ℚ) < (2 * Binary64.hidden + 1 : ℕ) := by
    push_cast
    linarith
  exact Nat.le_of_lt_succ (by exact_mod_cast this)

theorem hidden_le_significand (h : -1074 < unitExponent n d) :
    Binary64.hidden ≤ significand n d := by
  have hnear := (abs_le.1 (abs_scaled_sub_le n hd)).2
  have hle := hidden_le_scaled hn hd h
  have : (Binary64.hidden : ℚ) < (significand n d + 1 : ℕ) := by
    push_cast
    linarith
  exact Nat.le_of_lt_succ (by exact_mod_cast this)

theorem inReach_bits_of_lt (negative : Bool) (hlt : significand n d < 2 * Binary64.hidden)
    (hsmall : bits n d < Binary64.signBit) : (Binary64.ofWord negative (bits n d)).InReach (n / d) := by
  have hexponent := le_unitExponent n d
  have hhidden : (unitExponent n d + 1074).toNat = 0 ∨ Binary64.hidden ≤ significand n d := by
    by_cases h : -1074 < unitExponent n d
    · exact .inr (hidden_le_significand hn hd h)
    · exact .inl (by omega)
  unfold bits at hsmall ⊢
  obtain ⟨hs, he⟩ := Binary64.significand_exponent_ofWord negative hlt hhidden hsmall
  generalize Binary64.ofWord negative _ = x at hs he
  rw [Int.toNat_of_nonneg (by omega), add_sub_cancel_right] at he
  rw [quotient_eq, ← he]
  refine Binary64.inReach_of_half (r := scaled n d) ?_ ?_ ?_
  · rw [hs]
    exact abs_scaled_sub_le n hd
  · rw [hs]
    exact (isNearest_significand n hd).even_of_half
  · rw [hs, he]
    intro hlow hpower
    have := hidden_le_scaled hn hd hlow
    rw [hpower]
    linarith

omit hn in
/-- Rounded up to a power of two, there are half as many units, each twice as large. -/
theorem inReach_bits_of_eq (negative : Bool) (hcarry : significand n d = 2 * Binary64.hidden)
    (hsmall : bits n d < Binary64.signBit) : (Binary64.ofWord negative (bits n d)).InReach (n / d) := by
  have hle := le_unitExponent n d
  obtain ⟨k, hk⟩ : ∃ k, k = (unitExponent n d + 1074).toNat + 1 := ⟨_, rfl⟩
  have hcarried : bits n d = k * Binary64.hidden + Binary64.hidden := by
    rw [bits, hk, hcarry]
    ring
  rw [hcarried] at hsmall ⊢
  obtain ⟨hs, he⟩ := Binary64.significand_exponent_ofWord negative (by decide) (.inr le_rfl) hsmall
  generalize Binary64.ofWord negative _ = x at hs he
  have hexponent : x.exponent = unitExponent n d + 1 := by omega
  have hhalf : (n : ℚ) / d = scaled n d / 2 * x.unit := by
    rw [quotient_eq, Binary64.unit, hexponent, zpow_add₀ (by norm_num)]
    ring
  have hnear := abs_le.1 (abs_scaled_sub_le n hd)
  rw [hcarry] at hnear
  push_cast at hnear
  rw [hhalf]
  refine Binary64.inReach_of_half ?_ ?_ ?_
  · rw [hs]
    exact abs_le.2 ⟨by linarith, by linarith⟩
  · rw [hs]
    exact fun _ => by decide
  · rw [hs]
    exact fun _ _ => by linarith

end Quotient

/-- **A quotient is in reach of the number with the bits that are computed from it.** -/
theorem inReach_word (negative : Bool) (n : ℕ) {d : ℕ} (hd : 0 < d)
    (hfinite : word n d < Binary64.infinityWord) :
    (Binary64.ofWord negative (word n d)).InReach (n / d) := by
  rcases Nat.eq_zero_or_pos n with rfl | hn
  · rw [word, if_pos rfl, Nat.cast_zero, zero_div]
    exact Binary64.inReach_zero negative le_rfl (by positivity)
  have hword : word n d = bits n d := by
    rw [word_eq hn] at hfinite ⊢
    omega
  have hsmall : word n d < Binary64.signBit := word_lt n d
  rw [hword] at hsmall ⊢
  rcases (significand_le hn hd).lt_or_eq with hlt | hcarry
  · exact inReach_bits_of_lt hn hd negative hlt hsmall
  · exact inReach_bits_of_eq hd negative hcarry hsmall

end Nearest

/-! ## Where the finite numbers end -/

namespace Binary64

/-- Half a unit beyond the largest finite number. -/
def overflow : ℚ := (2 * hidden - 1 / 2) * 2 ^ (971 : ℤ)

theorem lt_overflow_of_inReach {x : Binary64} {q : ℚ} (finite : x.isFinite = true)
    (h : x.InReach q) : q < overflow := by
  have hexponent : x.exponent ≤ 971 := by
    unfold isFinite at finite
    rw [decide_eq_true_iff] at finite
    unfold exponent
    split <;> omega
  have hunit : x.unit ≤ 2 ^ (971 : ℤ) := zpow_le_zpow_right₀ (by norm_num) hexponent
  have hpos := x.unit_pos
  have hmost : (2 * hidden - 1 / 2 : ℚ) * x.unit ≤ overflow :=
    mul_le_mul_of_nonneg_left hunit (by unfold hidden; norm_num)
  have habove := x.middleAbove_eq
  rcases h.bounds.2.lt_or_eq with hlt | heq
  · have hs : (x.significand + 1 / 2 : ℚ) ≤ 2 * hidden - 1 / 2 := by
      have : (x.significand + 1 : ℚ) ≤ 2 * hidden := by exact_mod_cast x.significand_lt
      linarith
    have := mul_le_mul_of_nonneg_right hs hpos.le
    linarith
  · -- the middle above belongs to an even significand, so there is a larger one
    have heven := h.even (.inr heq)
    have hlt := x.significand_lt
    have hs : (x.significand + 1 / 2 : ℚ) < 2 * hidden - 1 / 2 := by
      have : (x.significand + 2 : ℚ) ≤ 2 * hidden := by
        have : x.significand + 2 ≤ 2 * hidden := by unfold hidden at *; omega
        exact_mod_cast this
      linarith
    have := mul_lt_mul_of_pos_right hs hpos
    linarith

end Binary64

namespace Nearest

theorem word_lt_of_lt_overflow (n : ℕ) {d : ℕ} (hd : 0 < d) (h : (n : ℚ) / d < Binary64.overflow) :
    word n d < Binary64.infinityWord := by
  rcases Nat.eq_zero_or_pos n with rfl | hn
  · rw [word, if_pos rfl]
    decide
  have hle := significand_le hn hd
  rw [word_eq hn, bits]
  by_contra hinfinite
  -- either the unit is too large, or as many units as possible are rounded up once more
  have hcases : 972 ≤ unitExponent n d ∨
      unitExponent n d = 971 ∧ significand n d = 2 * Binary64.hidden := by
    unfold Binary64.hidden Binary64.infinityWord at *
    omega
  apply not_lt.2 _ h
  rw [quotient_eq, Binary64.overflow]
  rcases hcases with hlarge | ⟨hunit, hs⟩
  · have hscaled := hidden_le_scaled hn hd (by omega)
    calc ((2 * Binary64.hidden - 1 / 2 : ℚ)) * 2 ^ (971 : ℤ)
        ≤ Binary64.hidden * 2 ^ (972 : ℤ) := by
          rw [show (972 : ℤ) = 1 + 971 from rfl, zpow_add₀ (by norm_num), ← mul_assoc]
          exact mul_le_mul_of_nonneg_right (by rw [zpow_one]; linarith) (by positivity)
      _ ≤ scaled n d * 2 ^ unitExponent n d :=
          mul_le_mul hscaled (zpow_le_zpow_right₀ (by norm_num) hlarge) (by positivity)
            ((Nat.cast_nonneg _).trans hscaled)
  · have hnear := (abs_le.1 (abs_scaled_sub_le n hd)).1
    rw [hs] at hnear
    push_cast at hnear
    rw [hunit]
    exact mul_le_mul_of_nonneg_right (by linarith) (by positivity)

/-- **What is in reach of a finite number has its magnitude**, with any sign. -/
theorem ofWord_word_of_inReach {x : Binary64} {n d : ℕ} (hd : 0 < d) (finite : x.isFinite = true)
    (h : x.InReach (n / d)) (negative : Bool) :
    (Binary64.ofWord negative (word n d)).isNegative = negative ∧
      (Binary64.ofWord negative (word n d)).magnitude = x.magnitude :=
  ⟨Binary64.isNegative_ofWord (word_lt n d), Binary64.magnitude_eq_of_inReach
    (inReach_word negative n hd
      (word_lt_of_lt_overflow n hd (Binary64.lt_overflow_of_inReach finite h))) h⟩

/-- **What is in reach of a number rounds to it.** -/
theorem ofWord_word_eq {x : Binary64} {n d : ℕ} (hd : 0 < d) (finite : x.isFinite = true)
    (h : x.InReach (n / d)) : Binary64.ofWord x.isNegative (word n d) = x := by
  obtain ⟨hsign, hmagnitude⟩ := ofWord_word_of_inReach hd finite h x.isNegative
  exact Binary64.eq_of_magnitude_eq hmagnitude hsign

theorem word_le_infinityWord (n d : ℕ) : word n d ≤ Binary64.infinityWord := by
  unfold word
  split
  · exact Nat.zero_le _
  · exact Nat.min_le_right _ _

theorem isFinite_ofWord {n d : ℕ} (h : word n d < Binary64.infinityWord) (negative : Bool) :
    (Binary64.ofWord negative (word n d)).isFinite = true := by
  rw [Binary64.isFinite, Binary64.biased_ofWord (word_lt n d), decide_eq_true_iff]
  unfold Binary64.hidden Binary64.infinityWord at *
  omega

end Nearest

/-! ## Decimals -/

namespace Decimal

theorem lt_upperPower (n : ℕ) : n < 10 ^ upperPower n := by
  calc n < 2 ^ (n.log2 + 1) := Nat.lt_log2_self
    _ ≤ 2 ^ (10 * (n.log2 / 10 + 1)) := Nat.pow_le_pow_right (by decide) (by omega)
    _ = (2 ^ 10) ^ (n.log2 / 10 + 1) := Nat.pow_mul ..
    _ ≤ (10 ^ 4) ^ (n.log2 / 10 + 1) := Nat.pow_le_pow_left (by decide) _
    _ = 10 ^ upperPower n := (Nat.pow_mul ..).symm

theorem lowerPower_le {n : ℕ} (hn : 0 < n) : 10 ^ lowerPower n ≤ n := by
  have hpow : (10 ^ lowerPower n) ^ 10 ≤ (2 ^ n.log2) ^ 10 := by
    calc (10 ^ lowerPower n) ^ 10 = 10 ^ (lowerPower n * 10) := (Nat.pow_mul ..).symm
      _ ≤ 10 ^ (3 * n.log2) := Nat.pow_le_pow_right (by decide) (by unfold lowerPower; omega)
      _ = (10 ^ 3) ^ n.log2 := Nat.pow_mul ..
      _ ≤ (2 ^ 10) ^ n.log2 := Nat.pow_le_pow_left (by decide) _
      _ = (2 ^ n.log2) ^ 10 := by rw [← Nat.pow_mul, ← Nat.pow_mul, Nat.mul_comm]
  exact ((Nat.pow_le_pow_iff_left (by decide)).1 hpow).trans (Nat.log2_self_le hn.ne')

theorem denominator_pos (d : Decimal) : 0 < d.denominator := Nat.pow_pos (by decide)

theorem quotient_lt (d : Decimal) :
    (d.numerator : ℚ) / d.denominator < 10 ^ (upperPower d.digits + d.exponent) := by
  have hlt : (d.digits : ℚ) < 10 ^ (upperPower d.digits : ℤ) := by
    rw [zpow_natCast]
    exact_mod_cast lt_upperPower d.digits
  rw [← value_eq, value, zpow_add₀ (by norm_num)]
  exact mul_lt_mul_of_pos_right hlt (by positivity)

theorem le_quotient {d : Decimal} (hdigits : 0 < d.digits) :
    10 ^ (lowerPower d.digits + d.exponent) ≤ (d.numerator : ℚ) / d.denominator := by
  have hle : (10 : ℚ) ^ (lowerPower d.digits : ℤ) ≤ d.digits := by
    rw [zpow_natCast]
    exact_mod_cast lowerPower_le hdigits
  rw [← value_eq, value, zpow_add₀ (by norm_num)]
  exact mul_le_mul_of_nonneg_right hle (by positivity)

theorem ofWord_word_of_le (negative : Bool) {d : Decimal} (h : d.value ≤ 10 ^ (-331 : ℤ)) :
    Binary64.ofWord negative (Nearest.word d.numerator d.denominator) =
      Binary64.ofWord negative 0 := by
  have hpower : (10 : ℚ) ^ (-331 : ℤ) ≤ 2 ^ (-1075 : ℤ) := by
    rw [zpow_neg, zpow_neg]
    have hnat : 2 ^ 1075 ≤ 10 ^ 331 := by decide +kernel
    exact inv_anti₀ (by positivity) (by exact_mod_cast hnat)
  rw [value_eq] at h
  have hzero := Nearest.ofWord_word_eq d.denominator_pos (by cases negative <;> rfl)
    (Binary64.inReach_zero negative (by positivity) (h.trans hpower))
  rwa [Binary64.isNegative_ofWord (by decide)] at hzero

theorem ofWord_word_of_small (negative : Bool) {d : Decimal}
    (h : upperPower d.digits + d.exponent < -330) :
    Binary64.ofWord negative (Nearest.word d.numerator d.denominator) =
      Binary64.ofWord negative 0 := by
  refine ofWord_word_of_le negative ?_
  calc d.value = d.numerator / d.denominator := d.value_eq
    _ ≤ 10 ^ (upperPower d.digits + d.exponent) := d.quotient_lt.le
    _ ≤ 10 ^ (-331 : ℤ) := zpow_le_zpow_right₀ (by norm_num) (by omega)

theorem word_of_large {d : Decimal} (hdigits : 0 < d.digits)
    (h : 310 < lowerPower d.digits + d.exponent) :
    Nearest.word d.numerator d.denominator = Binary64.infinityWord := by
  refine le_antisymm (Nearest.word_le_infinityWord _ _) (not_lt.1 fun hfinite => ?_)
  have hlt := Binary64.lt_overflow_of_inReach (Nearest.isFinite_ofWord hfinite false)
    (Nearest.inReach_word false _ d.denominator_pos hfinite)
  have hpower : (2 : ℚ) ^ (1024 : ℤ) ≤ 10 ^ (311 : ℤ) := by
    have hnat : 2 ^ 1024 ≤ 10 ^ 311 := by decide +kernel
    exact_mod_cast hnat
  have hend : Binary64.overflow ≤ 2 ^ (1024 : ℤ) := by
    rw [Binary64.overflow, show (1024 : ℤ) = 53 + 971 from rfl, zpow_add₀ (by norm_num)]
    exact mul_le_mul_of_nonneg_right (by unfold Binary64.hidden; norm_num) (by positivity)
  have hlarge : (10 : ℚ) ^ (311 : ℤ) ≤ d.numerator / d.denominator :=
    (zpow_le_zpow_right₀ (by norm_num) (by omega)).trans (le_quotient hdigits)
  exact absurd (hlt.trans_le hend) (not_lt.2 (hpower.trans hlarge))

/-- **The bits of a decimal are those of its quotient**, however large or small it is. -/
theorem nearest_eq_ofWord (negative : Bool) (d : Decimal) :
    nearest negative d = Binary64.ofWord negative (Nearest.word d.numerator d.denominator) := by
  unfold nearest
  -- the bounds on the digits only spare work: beyond them the quotient gives zero or infinity too
  split
  · rename_i hsmall
    rcases hsmall with hzero | hsmall
    · have hnumerator : d.numerator = 0 := by rw [numerator, hzero, Nat.zero_mul]
      rw [hnumerator]
      rfl
    · exact (ofWord_word_of_small negative hsmall).symm
  · rename_i hsmall
    split
    · rename_i hlarge
      rw [word_of_large (by omega) hlarge]
      rfl
    · rfl

end Decimal

/-- The number nearest to a magnitude with a sign, which a zero has too. Beyond the end of the finite
numbers it is infinity. -/
structure Binary64.Represents (x : Binary64) (negative : Bool) (q : ℚ) : Prop where
  isNegative_eq : x.isNegative = negative
  isRounding : q < overflow → x.IsRounding (if negative then -q else q)
  eq_infinity : overflow ≤ q → x = infinity negative

theorem Nearest.isRounding_word (negative : Bool) (n : ℕ) {d : ℕ} (hd : 0 < d)
    (hfinite : word n d < Binary64.infinityWord) :
    (Binary64.ofWord negative (word n d)).IsRounding (if negative then -(n / d) else n / d) := by
  have hpositive : (Binary64.ofWord false (word n d)).IsRounding (n / d) :=
    Binary64.isRounding_of_inReach (isFinite_ofWord hfinite false)
      (Binary64.isNegative_ofWord (word_lt n d)) (by positivity) (inReach_word false n hd hfinite)
  cases negative with
  | false => exact hpositive
  | true =>
    rw [← Binary64.neg_ofWord (word_lt n d)]
    exact hpositive.neg

/-- **A decimal goes to the number nearest to it.** -/
theorem Decimal.represents_nearest (negative : Bool) (d : Decimal) :
    (d.nearest negative).Represents negative d.value := by
  rw [nearest_eq_ofWord, value_eq]
  refine ⟨Binary64.isNegative_ofWord (Nearest.word_lt _ _), fun hlt => ?_, fun hle => ?_⟩
  · exact Nearest.isRounding_word negative _ d.denominator_pos
      (Nearest.word_lt_of_lt_overflow _ d.denominator_pos hlt)
  · have hinfinite : ¬Nearest.word d.numerator d.denominator < Binary64.infinityWord := fun hlt =>
      not_lt.2 hle (Binary64.lt_overflow_of_inReach (Nearest.isFinite_ofWord hlt negative)
        (Nearest.inReach_word negative _ d.denominator_pos hlt))
    rw [le_antisymm (Nearest.word_le_infinityWord _ _) (not_lt.1 hinfinite)]
    rfl

end MessageTemplate
