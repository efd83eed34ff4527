import Mathlib.Algebra.Order.Field.Power
import MessageTemplate.Proofs.FixedPoint

/-!
# What rounds to a binary number

The rationals that round to a binary number lie between the middles on both sides of it. The next
numbers are a unit above and, below a power of two, half a unit below, so that the ranges of two
numbers meet in a middle at most, which belongs to the one with the even significand.

* `Binary64.InReach`: the range. `Binary64.roundsTo_iff`: these are the
  rationals that round to it.
* `Binary64.add_unit_le_of_lt`, `Binary64.add_quartersBelow_le_of_lt`: the distance to the numbers
  above and below.
* **`Binary64.magnitude_eq_of_inReach`**: a rational rounds to one magnitude only, and
  `Binary64.eq_of_magnitude_eq` finds the number by its sign and its magnitude.
* `Binary64.IsRounding`: no number is nearer to a rational.
  `Binary64.isRounding_of_inReach`: what it rounds to is such a number.
* `Binary64.neg`: the number with the other sign. `Binary64.IsRounding.neg`: it is nearest to the
  rational with the other sign.
-/

namespace MessageTemplate

theorem shiftLeft_div_shiftLeft (n d : ℕ) (e : ℤ) :
    ((n <<< (-e).toNat : ℕ) : ℚ) / (d <<< e.toNat : ℕ) = n / d / 2 ^ e := by
  obtain ⟨k, rfl | rfl⟩ := Int.eq_nat_or_neg e
  · simp [Nat.shiftLeft_eq, div_div]
  · simp [Nat.shiftLeft_eq, div_mul_eq_mul_div]

namespace Binary64

/-- The middle between a number and the next one below it. -/
def middleBelow (x : Binary64) : ℚ := x.magnitude - x.quartersBelow / 4 * x.unit

/-- The middle between a number and the next one above it. -/
def middleAbove (x : Binary64) : ℚ := x.magnitude + x.unit / 2

/-- No number has a magnitude nearer to `q`. A middle is in reach of the even significand. -/
def InReach (x : Binary64) (q : ℚ) : Prop :=
  if x.significand % 2 = 0 then x.middleBelow ≤ q ∧ q ≤ x.middleAbove
  else x.middleBelow < q ∧ q < x.middleAbove

theorem unit_pos (x : Binary64) : 0 < x.unit := by
  unfold unit
  positivity

theorem middleBelow_eq (x : Binary64) :
    x.middleBelow = (x.significand - x.quartersBelow / 4) * x.unit := by
  rw [middleBelow, magnitude, sub_mul]

theorem middleAbove_eq (x : Binary64) : x.middleAbove = (x.significand + 1 / 2) * x.unit := by
  rw [middleAbove, magnitude]
  ring

theorem quarters_eq (x : Binary64) (n d : ℕ) :
    ((n <<< (2 - x.exponent).toNat : ℕ) : ℚ) / (d <<< (x.exponent - 2).toNat : ℕ) =
      4 * (n / d) / x.unit := by
  have h := shiftLeft_div_shiftLeft n d (x.exponent - 2)
  rw [neg_sub] at h
  rw [h, unit, zpow_sub₀ (by norm_num)]
  field_simp
  norm_num

/-- **The rationals in reach are those that round to the number.** -/
theorem roundsTo_iff (x : Binary64) (n : ℕ) {d : ℕ} (hd : 0 < d) :
    x.RoundsTo n d ↔ x.InReach (n / d) := by
  have hunit := x.unit_pos
  have hquarter : 0 < d <<< (x.exponent - 2).toNat := by
    rw [Nat.shiftLeft_eq]
    exact Nat.mul_pos hd (Nat.two_pow_pos _)
  have hpoint := x.quarters_eq n d
  have hq : 0 ≤ (n : ℚ) / d := by positivity
  unfold RoundsTo InReach middleBelow middleAbove magnitude
  generalize n <<< (2 - x.exponent).toNat = point at hpoint ⊢
  generalize d <<< (x.exponent - 2).toNat = quarter at hquarter hpoint ⊢
  generalize (n : ℚ) / d = q at hpoint hq ⊢
  have hquarter' : (0 : ℚ) < quarter := by exact_mod_cast hquarter
  have hle (a : ℕ) : a * quarter ≤ point ↔ (a : ℚ) * x.unit ≤ 4 * q := by
    rw [← le_div_iff₀ hunit, ← hpoint, le_div_iff₀ hquarter']
    exact_mod_cast Iff.rfl
  have hge (a : ℕ) : point ≤ a * quarter ↔ 4 * q ≤ (a : ℚ) * x.unit := by
    rw [← div_le_iff₀ hunit, ← hpoint, div_le_iff₀ hquarter']
    exact_mod_cast Iff.rfl
  have hbelow := x.quartersBelow_le
  simp only [← not_le, hle, hge]
  rcases Nat.eq_zero_or_pos x.significand with hs | hs
  · -- there is nothing below zero
    have hnone : 0 ≤ (x.quartersBelow : ℚ) * x.unit := by positivity
    simp only [hs, Nat.mul_zero, Nat.zero_sub, Nat.cast_zero, Nat.zero_mod, if_true]
    push_cast
    constructor <;> rintro ⟨-, h⟩ <;> constructor <;> linarith
  · rw [Nat.cast_sub (by omega)]
    push_cast
    split
    · constructor <;> rintro ⟨h₁, h₂⟩ <;> constructor <;> linarith
    · simp only [not_le]
      constructor <;> rintro ⟨h₁, h₂⟩ <;> constructor <;> linarith

theorem InReach.bounds {x : Binary64} {q : ℚ} (h : x.InReach q) :
    x.middleBelow ≤ q ∧ q ≤ x.middleAbove := by
  unfold InReach at h
  split at h
  · exact h
  · exact ⟨h.1.le, h.2.le⟩

theorem InReach.even {x : Binary64} {q : ℚ} (h : x.InReach q)
    (hq : q = x.middleBelow ∨ q = x.middleAbove) : x.significand % 2 = 0 := by
  unfold InReach at h
  split at h
  · assumption
  · rcases hq with rfl | rfl
    · exact absurd h.1 (lt_irrefl _)
    · exact absurd h.2 (lt_irrefl _)

/-! ## Units -/

/-- The number with given units of a given size. Without a hidden bit they are the smallest. -/
theorem significand_exponent_ofWord (negative : Bool) {k s : ℕ} (hs : s < 2 * hidden)
    (hk : k = 0 ∨ hidden ≤ s) (hword : k * hidden + s < signBit) :
    (ofWord negative (k * hidden + s)).significand = s ∧
      (ofWord negative (k * hidden + s)).exponent = k - 1074 := by
  unfold significand exponent
  rw [biased_ofWord hword, fraction_ofWord hword]
  unfold hidden at *
  constructor
  · split <;> omega
  · split <;> omega

theorem significand_lt (x : Binary64) : x.significand < 2 * hidden := by
  have hfraction : x.fraction < hidden := Nat.mod_lt _ (by decide)
  unfold significand
  split <;> omega

theorem le_exponent (x : Binary64) : -1074 ≤ x.exponent := by
  unfold exponent
  split <;> omega

theorem hidden_le_significand {x : Binary64} (h : -1074 < x.exponent) : hidden ≤ x.significand := by
  unfold exponent at h
  unfold significand
  split at h
  · omega
  · rename_i hbiased
    rw [if_neg hbiased]
    exact Nat.le_add_right _ _

theorem biased_eq (x : Binary64) :
    x.biased = if x.significand < hidden then 0 else (x.exponent + 1075).toNat := by
  have hfraction : x.fraction < hidden := Nat.mod_lt _ (by decide)
  by_cases hzero : x.biased = 0
  · rw [significand, if_pos hzero, if_pos hfraction, hzero]
  · rw [significand, if_neg hzero, if_neg (by omega), exponent, if_neg hzero]
    omega

theorem fraction_eq (x : Binary64) : x.fraction = x.significand % hidden := by
  have hfraction : x.fraction < hidden := Nat.mod_lt _ (by decide)
  unfold significand
  split
  · rw [Nat.mod_eq_of_lt hfraction]
  · rw [Nat.add_mod_left, Nat.mod_eq_of_lt hfraction]

theorem significand_eq_zero {x : Binary64} (h : x.magnitude < x.unit) : x.significand = 0 := by
  have hlt : (x.significand : ℚ) * x.unit < 1 * x.unit := by rwa [one_mul]
  have hone : x.significand < 1 := by exact_mod_cast lt_of_mul_lt_mul_right hlt x.unit_pos.le
  omega

/-- The numbers below are denser only below a power of two. -/
theorem quartersBelow_eq_one_iff {x : Binary64} :
    x.quartersBelow = 1 ↔ -1074 < x.exponent ∧ x.significand = hidden := by
  unfold quartersBelow exponent significand
  constructor
  · intro h
    split at h
    · have hbiased : x.biased ≠ 0 := by omega
      rw [if_neg hbiased, if_neg hbiased]
      omega
    · cases h
  · rintro ⟨hexponent, hs⟩
    have hbiased : x.biased ≠ 0 := fun h => by simp [h] at hexponent
    rw [if_neg hbiased] at hexponent hs
    rw [if_pos ⟨by omega, by omega⟩]

theorem inReach_of_half {x : Binary64} {r : ℚ} (half : |r - x.significand| ≤ 1 / 2)
    (even : |r - x.significand| = 1 / 2 → x.significand % 2 = 0)
    (dense : -1074 < x.exponent → x.significand = hidden → x.significand - 1 / 4 ≤ r) :
    x.InReach (r * x.unit) := by
  have hunit := x.unit_pos
  have hscale (a : ℚ) : a * x.unit ≤ r * x.unit ↔ a ≤ r := mul_le_mul_iff_of_pos_right hunit
  have hscale' (a : ℚ) : r * x.unit ≤ a * x.unit ↔ r ≤ a := mul_le_mul_iff_of_pos_right hunit
  have hquarters : x.quartersBelow = 1 ∨ x.quartersBelow = 2 := by
    have := x.one_le_quartersBelow
    have := x.quartersBelow_le
    omega
  obtain ⟨hlower, hupper⟩ := abs_le.1 half
  unfold InReach
  rw [middleBelow_eq, middleAbove_eq]
  split
  · rw [hscale, hscale']
    refine ⟨?_, by linarith⟩
    rcases hquarters with hone | htwo
    · obtain ⟨hexponent, hs⟩ := quartersBelow_eq_one_iff.1 hone
      rw [hone]
      push_cast
      exact dense hexponent hs
    · rw [htwo]
      push_cast
      linarith
  · rename_i hodd
    have hstrict : |r - x.significand| < 1 / 2 := lt_of_le_of_ne half fun heq => hodd (even heq)
    obtain ⟨hlower, hupper⟩ := abs_lt.1 hstrict
    rw [← not_le, ← not_le, hscale, hscale', not_le, not_le]
    refine ⟨?_, by linarith⟩
    rcases hquarters with hone | htwo
    · rw [(quartersBelow_eq_one_iff.1 hone).2] at hodd
      exact absurd (by decide) hodd
    · rw [htwo]
      push_cast
      linarith

theorem inReach_zero (negative : Bool) {q : ℚ} (hq : 0 ≤ q) (h : q ≤ 2 ^ (-1075 : ℤ)) :
    (ofWord negative 0).InReach q := by
  obtain ⟨hs, he⟩ := significand_exponent_ofWord negative (k := 0) (s := 0) (by decide) (.inl rfl)
    (by decide)
  rw [Nat.zero_mul] at hs he
  generalize ofWord negative _ = x at hs he
  have hunit : x.unit = 2 * 2 ^ (-1075 : ℤ) := by
    rw [unit, he, ← zpow_one_add₀ (by norm_num)]
    rfl
  have hpos := x.unit_pos
  have hhalf : q / x.unit ≤ 1 / 2 := by
    rw [div_le_iff₀ hpos, hunit]
    linarith
  rw [← div_mul_cancel₀ q hpos.ne']
  refine inReach_of_half ?_ (fun _ => by rw [hs]) fun hexponent => ?_
  · rw [hs, Nat.cast_zero, sub_zero, abs_of_nonneg (by positivity)]
    exact hhalf
  · rw [he] at hexponent
    exact absurd hexponent (lt_irrefl _)

/-! ## The distance to other numbers -/

section Distance

variable {x y : Binary64}

theorem exists_unit_eq (h : x.exponent ≤ y.exponent) :
    ∃ k : ℕ, y.exponent = x.exponent + k ∧ y.unit = 2 ^ k * x.unit := by
  refine ⟨(y.exponent - x.exponent).toNat, by omega, ?_⟩
  unfold unit
  rw [← zpow_natCast, ← zpow_add₀ (by norm_num), Int.toNat_of_nonneg (by omega)]
  congr 1
  omega

theorem two_mul_unit_le (h : x.exponent < y.exponent) : 2 * x.unit ≤ y.unit := by
  obtain ⟨k, hk, hunit⟩ := exists_unit_eq (x := x) (y := y) (by omega)
  have hpow : (2 : ℚ) ^ 1 ≤ 2 ^ k := pow_le_pow_right₀ (by norm_num) (by omega)
  rw [hunit]
  exact mul_le_mul_of_nonneg_right (by linarith) x.unit_pos.le

theorem hidden_mul_unit_le (h : x.exponent < y.exponent) :
    2 * hidden * x.unit ≤ hidden * y.unit ∧ hidden * y.unit ≤ y.magnitude := by
  have hs : (hidden : ℚ) ≤ y.significand := by
    exact_mod_cast hidden_le_significand (show -1074 < y.exponent by have := x.le_exponent; omega)
  have hunit := two_mul_unit_le h
  constructor
  · have hhidden : (0 : ℚ) ≤ hidden := Nat.cast_nonneg _
    nlinarith
  · exact mul_le_mul_of_nonneg_right hs y.unit_pos.le

theorem magnitude_add_unit_le (x : Binary64) : x.magnitude + x.unit ≤ 2 * hidden * x.unit := by
  have hs : (x.significand + 1 : ℚ) ≤ 2 * hidden := by exact_mod_cast x.significand_lt
  have := mul_le_mul_of_nonneg_right hs x.unit_pos.le
  unfold magnitude
  linarith

theorem exponent_le_of_le (h : x.magnitude ≤ y.magnitude) : x.exponent ≤ y.exponent := by
  by_contra hlt
  obtain ⟨h₁, h₂⟩ := hidden_mul_unit_le (x := y) (y := x) (by omega)
  linarith [y.magnitude_add_unit_le, y.unit_pos]

theorem add_unit_le_of_lt (h : x.magnitude < y.magnitude) : x.magnitude + x.unit ≤ y.magnitude := by
  obtain ⟨k, -, hunit⟩ := exists_unit_eq (exponent_le_of_le h.le)
  unfold magnitude at h ⊢
  rw [hunit, ← mul_assoc] at h ⊢
  have hlt : x.significand < y.significand * 2 ^ k := by
    exact_mod_cast (mul_lt_mul_iff_of_pos_right x.unit_pos).1 h
  have hle : (x.significand + 1 : ℚ) ≤ y.significand * 2 ^ k := by exact_mod_cast hlt
  have := mul_le_mul_of_nonneg_right hle x.unit_pos.le
  linarith

theorem add_quartersBelow_le_of_lt (h : x.magnitude < y.magnitude) :
    x.magnitude + y.quartersBelow / 2 * y.unit ≤ y.magnitude := by
  have hle := exponent_le_of_le h.le
  have habove := add_unit_le_of_lt h
  have hbelow : (y.quartersBelow : ℚ) ≤ 2 := by exact_mod_cast y.quartersBelow_le
  have hpos := y.unit_pos
  rcases hle.lt_or_eq with hlt | heq
  · obtain ⟨h₁, h₂⟩ := hidden_mul_unit_le hlt
    have hx := x.magnitude_add_unit_le
    have hexponent : -1074 < y.exponent := by have := x.le_exponent; omega
    rcases (hidden_le_significand hexponent).eq_or_lt with hs | hs
    · rw [quartersBelow_eq_one_iff.2 ⟨hexponent, hs.symm⟩]
      -- the units of `x` are at most half as large, and `2 * hidden - 1` of them are all there are
      have hmagnitude : y.magnitude = hidden * y.unit := by rw [magnitude, ← hs]
      have htwo := two_mul_unit_le hlt
      have hhidden : (1 : ℚ) ≤ 2 * hidden - 1 := by unfold hidden; norm_num
      have hone : x.magnitude ≤ (2 * hidden - 1) * x.unit := by linarith
      have : (2 * hidden - 1) * (2 * x.unit) ≤ (2 * hidden - 1) * y.unit :=
        mul_le_mul_of_nonneg_left htwo (by linarith)
      push_cast
      linarith
    · have hs' : (hidden + 1 : ℚ) ≤ y.significand := by exact_mod_cast hs
      have := mul_le_mul_of_nonneg_right hs' hpos.le
      have : y.quartersBelow / 2 * y.unit ≤ 1 * y.unit :=
        mul_le_mul_of_nonneg_right (by linarith) hpos.le
      have := x.unit_pos
      unfold magnitude at *
      linarith
  · have hunit : x.unit = y.unit := by rw [unit, unit, heq]
    have : y.quartersBelow / 2 * y.unit ≤ 1 * y.unit :=
      mul_le_mul_of_nonneg_right (by linarith) hpos.le
    linarith

/-! ## Only one number -/

theorem not_lt_of_inReach {q : ℚ} (hx : x.InReach q) (hy : y.InReach q) :
    ¬ x.magnitude < y.magnitude := by
  intro h
  have habove := add_unit_le_of_lt h
  have hbelow := add_quartersBelow_le_of_lt h
  have hx' := hx.bounds.2
  have hy' := hy.bounds.1
  -- the ranges meet in the middle between neighbours, so both significands are even
  have hqx : q = x.middleAbove := by unfold middleAbove middleBelow at *; linarith
  have hqy : q = y.middleBelow := by unfold middleAbove middleBelow at *; linarith
  have hnext : x.magnitude + x.unit = y.magnitude := by unfold middleAbove middleBelow at *; linarith
  have hevenx := hx.even (.inr hqx)
  have heveny := hy.even (.inl hqy)
  obtain ⟨k, -, hunit⟩ := exists_unit_eq (exponent_le_of_le h.le)
  have hcount : x.significand + 1 = y.significand * 2 ^ k := by
    have hunits : (x.significand + 1 : ℚ) * x.unit = y.significand * 2 ^ k * x.unit := by
      rw [magnitude, magnitude, hunit] at hnext
      linarith
    exact_mod_cast mul_right_cancel₀ x.unit_pos.ne' hunits
  have heven : y.significand * 2 ^ k % 2 = 0 := by
    rw [Nat.mul_mod, heveny, Nat.zero_mul, Nat.zero_mod]
  omega

/-- **A rational rounds to one magnitude only.** -/
theorem magnitude_eq_of_inReach {q : ℚ} (hx : x.InReach q) (hy : y.InReach q) :
    x.magnitude = y.magnitude :=
  le_antisymm (not_lt.1 (not_lt_of_inReach hy hx)) (not_lt.1 (not_lt_of_inReach hx hy))

theorem toNat_bits_eq (x : Binary64) :
    x.bits.toNat = (if x.isNegative then signBit else 0) + (x.biased * hidden + x.fraction) := by
  have hbits := x.bits.toNat_lt
  unfold isNegative biased fraction signBit hidden
  simp only [decide_eq_true_eq]
  split <;> omega

/-- **A number is known by its sign and its magnitude.** -/
theorem eq_of_magnitude_eq (hmagnitude : x.magnitude = y.magnitude)
    (hsign : x.isNegative = y.isNegative) : x = y := by
  have hexponent : x.exponent = y.exponent :=
    le_antisymm (exponent_le_of_le hmagnitude.le) (exponent_le_of_le hmagnitude.ge)
  have hsignificand : x.significand = y.significand := by
    unfold magnitude unit at hmagnitude
    rw [hexponent] at hmagnitude
    exact_mod_cast mul_right_cancel₀ y.unit_pos.ne' hmagnitude
  have hbits : x.bits.toNat = y.bits.toNat := by
    rw [x.toNat_bits_eq, y.toNat_bits_eq, hsign, x.biased_eq, y.biased_eq, x.fraction_eq,
      y.fraction_eq, hexponent, hsignificand]
  cases x
  cases y
  exact congrArg mk (UInt64.toNat_inj.1 hbits)

/-! ## No number is nearer -/

/-- No magnitude is nearer to what is in reach, and one that is equally near leaves the middle to the
even significand. -/
theorem near_of_inReach {q : ℚ} (h : x.InReach q) (y : Binary64) :
    |q - x.magnitude| ≤ |q - y.magnitude| ∧
      (y.magnitude ≠ x.magnitude → |q - y.magnitude| = |q - x.magnitude| →
        x.significand % 2 = 0) := by
  obtain ⟨hbelow, habove⟩ := h.bounds
  have hunit := x.unit_pos
  have hquarters : 0 ≤ (x.quartersBelow : ℚ) * x.unit := by positivity
  rcases lt_trichotomy x.magnitude y.magnitude with hlt | heq | hgt
  · have hnext := add_unit_le_of_lt hlt
    unfold middleBelow at hbelow
    unfold middleAbove at habove
    have hy : |q - y.magnitude| = y.magnitude - q := by
      rw [abs_sub_comm, abs_of_nonneg (by linarith)]
    have hx : |q - x.magnitude| ≤ y.magnitude - q := abs_le.2 ⟨by linarith, by linarith⟩
    refine ⟨hy.symm ▸ hx, fun _ htie => h.even (.inr ?_)⟩
    rw [hy] at htie
    unfold middleAbove
    rcases abs_choice (q - x.magnitude) with hc | hc <;> rw [hc] at htie <;> linarith
  · rw [heq]
    exact ⟨le_rfl, fun hne => absurd rfl hne⟩
  · have hnext := add_quartersBelow_le_of_lt hgt
    unfold middleBelow at hbelow
    unfold middleAbove at habove
    have hy : |q - y.magnitude| = q - y.magnitude := abs_of_nonneg (by linarith)
    have hx : |q - x.magnitude| ≤ q - y.magnitude := abs_le.2 ⟨by linarith, by linarith⟩
    refine ⟨hy.symm ▸ hx, fun _ htie => h.even (.inl ?_)⟩
    rw [hy] at htie
    unfold middleBelow
    rcases abs_choice (q - x.magnitude) with hc | hc <;> rw [hc] at htie <;> linarith

end Distance

/-- No finite number is nearer to `q` than `x`, and `x` has an even significand if another one is
equally near. -/
structure IsRounding (x : Binary64) (q : ℚ) : Prop where
  isFinite : x.isFinite = true
  near (y : Binary64) : y.isFinite = true → |q - x.value| ≤ |q - y.value|
  even (y : Binary64) : y.isFinite = true → y.value ≠ x.value →
    |q - y.value| = |q - x.value| → x.significand % 2 = 0

theorem abs_sub_magnitude_le {q : ℚ} (hq : 0 ≤ q) (y : Binary64) :
    |q - y.magnitude| ≤ |q - y.value| := by
  have hy := y.magnitude_nonneg
  unfold value
  split
  · rw [sub_neg_eq_add, abs_of_nonneg (add_nonneg hq hy)]
    exact abs_le.2 ⟨by linarith, by linarith⟩
  · exact le_rfl

theorem isRounding_of_inReach {x : Binary64} {q : ℚ} (finite : x.isFinite = true)
    (hsign : x.isNegative = false) (hq : 0 ≤ q) (h : x.InReach q) : x.IsRounding q := by
  have hvalue : x.value = x.magnitude := by simp [value, hsign]
  refine ⟨finite, fun y _ => ?_, fun y _ hne htie => ?_⟩
  · rw [hvalue]
    exact (near_of_inReach h y).1.trans (abs_sub_magnitude_le hq y)
  · rw [hvalue] at hne htie
    have hnear := (near_of_inReach h y).1
    have hle := abs_sub_magnitude_le hq y
    by_cases hmagnitude : y.magnitude = x.magnitude
    · -- the other sign is equally near only if `q` is zero
      have hopposite : y.value = -x.magnitude := by
        unfold value at hne ⊢
        split at hne
        · rename_i hneg
          rw [if_pos hneg, hmagnitude]
        · exact absurd hmagnitude hne
      have hx := x.magnitude_nonneg
      rw [hopposite, sub_neg_eq_add, abs_of_nonneg (add_nonneg hq hx)] at htie
      have hsmall : x.magnitude ≤ x.unit / 2 := by
        have hbelow := h.bounds.1
        have hquarters : x.quartersBelow / 4 * x.unit ≤ 1 / 2 * x.unit := by
          have : (x.quartersBelow : ℚ) ≤ 2 := by exact_mod_cast x.quartersBelow_le
          exact mul_le_mul_of_nonneg_right (by linarith) x.unit_pos.le
        unfold middleBelow at hbelow
        rcases abs_choice (q - x.magnitude) with hc | hc <;> rw [hc] at htie <;>
          linarith [x.unit_pos]
      rw [significand_eq_zero (by linarith [x.unit_pos])]
    · exact (near_of_inReach h y).2 hmagnitude (by linarith)

/-! ## The other sign -/

/-- The number with the other sign. -/
def neg (x : Binary64) : Binary64 := ofWord (!x.isNegative) (x.bits.toNat % signBit)

theorem isNegative_neg (x : Binary64) : x.neg.isNegative = !x.isNegative :=
  isNegative_ofWord (Nat.mod_lt _ (by decide))

theorem biased_neg (x : Binary64) : x.neg.biased = x.biased := by
  rw [neg, biased_ofWord (Nat.mod_lt _ (by decide)), biased]
  unfold signBit hidden
  omega

theorem fraction_neg (x : Binary64) : x.neg.fraction = x.fraction := by
  rw [neg, fraction_ofWord (Nat.mod_lt _ (by decide)), fraction]
  unfold signBit hidden
  omega

theorem isFinite_neg (x : Binary64) : x.neg.isFinite = x.isFinite := by
  rw [isFinite, isFinite, biased_neg]

theorem significand_neg (x : Binary64) : x.neg.significand = x.significand := by
  rw [significand, significand, biased_neg, fraction_neg]

theorem magnitude_neg (x : Binary64) : x.neg.magnitude = x.magnitude := by
  rw [magnitude, magnitude, significand_neg, unit, unit, exponent, exponent, biased_neg]

theorem value_neg (x : Binary64) : x.neg.value = -x.value := by
  rw [value, value, isNegative_neg, magnitude_neg]
  cases x.isNegative <;> simp

theorem neg_ofWord {word : ℕ} (h : word < signBit) : (ofWord false word).neg = ofWord true word := by
  rw [neg, isNegative_ofWord h, toNat_bits_ofWord h, if_neg (by decide), Nat.zero_add,
    Nat.mod_eq_of_lt h]
  rfl

theorem IsRounding.neg {x : Binary64} {q : ℚ} (h : x.IsRounding q) : x.neg.IsRounding (-q) := by
  have hdistance (y : Binary64) : |-q - y.value| = |q - y.neg.value| := by
    rw [value_neg, ← abs_neg]
    congr 1
    ring
  have hself : |-q - x.neg.value| = |q - x.value| := by
    rw [value_neg, neg_sub_neg, abs_sub_comm]
  refine ⟨by rw [isFinite_neg, h.isFinite], fun y hy => ?_, fun y hy hne htie => ?_⟩
  · rw [hself, hdistance]
    exact h.near y.neg (by rwa [isFinite_neg])
  · rw [hself, hdistance] at htie
    rw [significand_neg]
    refine h.even y.neg (by rwa [isFinite_neg]) (fun heq => hne ?_) htie
    rw [value_neg] at heq ⊢
    rw [← heq, neg_neg]

end Binary64

end MessageTemplate
