/-!
# Binary floating point numbers of 64 bits

A number is held as its bits: a sign, 11 bits of exponent and 52 bits of fraction. A finite one has
the magnitude `significand * 2 ^ exponent`, an exact rational.

* `Binary64.significand`, `Binary64.exponent`, `Binary64.magnitude`, `Binary64.value`.
* `Binary64.isNegative_ofWord`, `Binary64.biased_ofWord`, `Binary64.fraction_ofWord`: the parts of a
  number that is put together from them.
* `Binary64.magnitude_eq`: the magnitude is `numerator / denominator`, with which programs compute.
* `Binary64.abs`: the number without its sign. It has the same magnitude.
* `Binary64.RoundsTo`: the rationals whose nearest number has a given magnitude; of two equally near
  numbers the one with the even significand counts as nearest. `Binary64.RoundsTo.bounds`: they are at
  most half a unit away. `Binary64.roundsTo_self`: the magnitude is one of them.
* `Binary32.widen`: the number of 64 bits with the value of a number of 32 bits.
-/

namespace MessageTemplate

/-- The 64 bits of a number. -/
structure Binary64 where
  bits : UInt64
  deriving Repr, DecidableEq

namespace Binary64

/-- The weight of the bit above the fraction, `2 ^ 52`. -/
def hidden : Nat := 0x10000000000000

/-- The number up to which every whole number is a binary number, `2 ^ 53`. -/
def wholeLimit : Nat := 0x20000000000000

/-- The weight of the sign bit, `2 ^ 63`. -/
def signBit : Nat := 0x8000000000000000

/-- The bits of infinity below the sign: all bits of the exponent and none of the fraction. -/
def infinityWord : Nat := 0x7FF0000000000000

/-- The number with a sign and the bits below the sign. -/
def ofWord (negative : Bool) (word : Nat) : Binary64 :=
  ⟨UInt64.ofNat (if negative then signBit + word else word)⟩

/-- A number that is none, in its usual bits. -/
def nan : Binary64 := ofWord false 0x7FF8000000000000

/-- Infinity with a sign. -/
def infinity (negative : Bool) : Binary64 := ofWord negative infinityWord

/-- The sign bit; a zero has one too. -/
def isNegative (x : Binary64) : Bool := signBit ≤ x.bits.toNat

/-- The exponent field. -/
def biased (x : Binary64) : Nat := x.bits.toNat / hidden % 0x800

/-- The bits below the exponent field. -/
def fraction (x : Binary64) : Nat := x.bits.toNat % hidden

/-- The numbers whose exponent field is not full. -/
def isFinite (x : Binary64) : Bool := x.biased < 0x7FF

/-- The exponent field is full, as for infinity, but there are bits below it. -/
def isNaN (x : Binary64) : Bool := !x.isFinite && x.fraction != 0

/-- The digits of a finite number as a whole number. -/
def significand (x : Binary64) : Nat :=
  if x.biased = 0 then x.fraction else hidden + x.fraction

/-- The power of two that the significand counts. -/
def exponent (x : Binary64) : Int := if x.biased = 0 then -1074 else (x.biased : Int) - 1075

/-- The distance to the next number. -/
def unit (x : Binary64) : Rat := (2 : Rat) ^ x.exponent

/-- The absolute value of a finite number. -/
def magnitude (x : Binary64) : Rat := x.significand * x.unit

/-- The magnitude as a fraction: what stands above. -/
def numerator (x : Binary64) : Nat := x.significand <<< x.exponent.toNat

/-- The magnitude as a fraction: what stands below. -/
def denominator (x : Binary64) : Nat := 1 <<< (-x.exponent).toNat

section OfWord

variable {negative : Bool} {word : Nat}

theorem toNat_bits_ofWord (h : word < signBit) :
    (ofWord negative word).bits.toNat = (if negative then signBit else 0) + word := by
  have hword : (if negative then signBit + word else word) < UInt64.size := by
    unfold signBit UInt64.size at *
    split <;> omega
  unfold ofWord
  rw [UInt64.toNat_ofNat_of_lt' hword]
  cases negative <;> simp

theorem isNegative_ofWord (h : word < signBit) : (ofWord negative word).isNegative = negative := by
  rw [isNegative, toNat_bits_ofWord h]
  cases negative with
  | false => simpa using h
  | true => simp

theorem biased_ofWord (h : word < signBit) : (ofWord negative word).biased = word / hidden := by
  rw [biased, toNat_bits_ofWord h]
  unfold signBit hidden at *
  split <;> omega

theorem fraction_ofWord (h : word < signBit) : (ofWord negative word).fraction = word % hidden := by
  rw [fraction, toNat_bits_ofWord h]
  unfold signBit hidden at *
  split <;> omega

end OfWord

theorem magnitude_eq (x : Binary64) : x.magnitude = (x.numerator : Rat) / (x.denominator : Rat) := by
  unfold magnitude unit numerator denominator
  generalize x.exponent = e
  rw [Nat.shiftLeft_eq, Nat.shiftLeft_eq]
  obtain ⟨n, rfl | rfl⟩ := Int.eq_nat_or_neg e
  · have h : (1 : Rat)⁻¹ = 1 := by rw [← Rat.one_mul 1⁻¹, Rat.mul_inv_cancel 1 (by decide)]
    simp only [Rat.zpow_natCast, Int.toNat_natCast, Rat.natCast_mul, Rat.natCast_pow,
      Rat.natCast_ofNat, Int.toNat_neg_natCast, Nat.pow_zero, Nat.mul_one, Rat.div_def, h,
      Rat.mul_one]
  · simp only [Rat.zpow_neg, Rat.zpow_natCast, Int.toNat_neg_natCast, Nat.pow_zero, Nat.mul_one,
      Int.neg_neg, Int.toNat_natCast, Nat.one_mul, Rat.natCast_pow, Rat.natCast_ofNat, Rat.div_def]

theorem denominator_pos (x : Binary64) : 0 < x.denominator := by
  rw [denominator, Nat.shiftLeft_eq, Nat.one_mul]
  exact Nat.two_pow_pos _

/-- The number without its sign. -/
def abs (x : Binary64) : Binary64 := ofWord false (x.bits.toNat % signBit)

theorem isNegative_abs (x : Binary64) : x.abs.isNegative = false :=
  isNegative_ofWord (Nat.mod_lt _ (by decide))

theorem biased_abs (x : Binary64) : x.abs.biased = x.biased := by
  rw [abs, biased_ofWord (Nat.mod_lt _ (by decide)), biased]
  unfold signBit hidden
  omega

theorem fraction_abs (x : Binary64) : x.abs.fraction = x.fraction := by
  rw [abs, fraction_ofWord (Nat.mod_lt _ (by decide)), fraction]
  unfold signBit hidden
  omega

theorem significand_abs (x : Binary64) : x.abs.significand = x.significand := by
  rw [significand, biased_abs, fraction_abs, significand]

theorem exponent_abs (x : Binary64) : x.abs.exponent = x.exponent := by
  rw [exponent, biased_abs, exponent]

theorem numerator_abs (x : Binary64) : x.abs.numerator = x.numerator := by
  rw [numerator, significand_abs, exponent_abs, numerator]

theorem denominator_abs (x : Binary64) : x.abs.denominator = x.denominator := by
  rw [denominator, exponent_abs, denominator]

/-- The value of a finite number; both zeros have the value zero. -/
def value (x : Binary64) : Rat := if x.isNegative then -x.magnitude else x.magnitude

/-- The distance to the middle between a finite number and the one below it, in quarters of a unit.
Below a power of two the numbers are twice as dense, except for the smallest ones. -/
def quartersBelow (x : Binary64) : Nat := if x.fraction = 0 ∧ 1 < x.biased then 1 else 2

/-- `n / d` is a rational for which no number is nearer than one of the magnitude of `x`. A rational
half way between two numbers belongs to the one with the even significand. Both sides count quarters
of a unit of `x`, which are `2 ^ (exponent - 2)`. -/
def RoundsTo (x : Binary64) (n d : Nat) : Prop :=
  let point := n <<< (2 - x.exponent).toNat
  let quarter := d <<< (x.exponent - 2).toNat
  if x.significand % 2 = 0 then
    (4 * x.significand - x.quartersBelow) * quarter ≤ point ∧
      point ≤ (4 * x.significand + 2) * quarter
  else
    (4 * x.significand - x.quartersBelow) * quarter < point ∧
      point < (4 * x.significand + 2) * quarter

instance (x : Binary64) (n d : Nat) : Decidable (x.RoundsTo n d) := by
  unfold RoundsTo
  infer_instance

theorem one_le_quartersBelow (x : Binary64) : 1 ≤ x.quartersBelow := by
  unfold quartersBelow
  split <;> omega

theorem quartersBelow_le (x : Binary64) : x.quartersBelow ≤ 2 := by
  unfold quartersBelow
  split <;> omega

/-- What rounds to a number is at most half a unit away from it. -/
theorem RoundsTo.bounds {x : Binary64} {n d : Nat} (h : x.RoundsTo n d) :
    4 * x.significand * d <<< (x.exponent - 2).toNat ≤
        n <<< (2 - x.exponent).toNat + 2 * d <<< (x.exponent - 2).toNat ∧
      n <<< (2 - x.exponent).toNat ≤
        4 * x.significand * d <<< (x.exponent - 2).toNat + 2 * d <<< (x.exponent - 2).toNat := by
  unfold RoundsTo at h
  generalize n <<< (2 - x.exponent).toNat = point at h ⊢
  generalize d <<< (x.exponent - 2).toNat = quarter at h ⊢
  have hbelow := Nat.mul_le_mul_right quarter x.quartersBelow_le
  simp only [Nat.sub_mul, Nat.add_mul] at h
  split at h <;> omega

theorem roundsTo_mul_iff (x : Binary64) {n d c : Nat} (hc : 0 < c) :
    x.RoundsTo (n * c) (d * c) ↔ x.RoundsTo n d := by
  have hshift (m k : Nat) : (m * c) <<< k = m <<< k * c := by
    rw [Nat.shiftLeft_eq, Nat.shiftLeft_eq, Nat.mul_right_comm]
  unfold RoundsTo
  simp only [hshift, ← Nat.mul_assoc, Nat.mul_le_mul_right_iff hc, Nat.mul_lt_mul_right hc]

theorem roundsTo_self (x : Binary64) : x.RoundsTo x.numerator x.denominator := by
  have hpoint : x.numerator <<< (2 - x.exponent).toNat =
      4 * x.significand * x.denominator <<< (x.exponent - 2).toNat := by
    have hweights : 2 ^ x.exponent.toNat * 2 ^ (2 - x.exponent).toNat =
        4 * (2 ^ (-x.exponent).toNat * 2 ^ (x.exponent - 2).toNat) := by
      rw [show 4 = 2 ^ 2 from rfl, ← Nat.pow_add, ← Nat.pow_add, ← Nat.pow_add]
      congr 1
      omega
    simp only [numerator, denominator, Nat.shiftLeft_eq, Nat.one_mul]
    rw [Nat.mul_assoc, hweights, Nat.mul_left_comm, Nat.mul_assoc]
  have hquarter : 0 < x.denominator <<< (x.exponent - 2).toNat := by
    rw [Nat.shiftLeft_eq]
    exact Nat.mul_pos x.denominator_pos (Nat.two_pow_pos _)
  unfold RoundsTo
  rw [hpoint]
  generalize x.denominator <<< (x.exponent - 2).toNat = quarter at hquarter
  have hbelow := Nat.mul_le_mul_right quarter x.one_le_quartersBelow
  simp only [Nat.sub_mul, Nat.add_mul]
  split
  · omega
  · rename_i hodd
    have hs : 1 * quarter ≤ x.significand * quarter := Nat.mul_le_mul_right _ (by omega)
    rw [Nat.mul_assoc]
    omega

end Binary64

/-- A number of 32 bits: a sign, 8 bits of exponent and 23 bits of fraction. -/
structure Binary32 where
  bits : UInt32
  deriving Repr, DecidableEq

namespace Binary32

/-- The bits of the number of 64 bits with the value of `fraction * 2 ^ -149`: its leading digit
moves up to the place of the hidden bit. -/
def widenSubnormal (fraction : Nat) : Nat :=
  if fraction = 0 then 0
  else
    let shift := 52 - fraction.log2
    (926 - shift) * Binary64.hidden + (fraction <<< shift - Binary64.hidden)

/-- The number of 64 bits with the same value. -/
def widen (x : Binary32) : Binary64 :=
  let word := x.bits.toNat
  let biased := word / 0x800000 % 0x100
  let fraction := word % 0x800000
  Binary64.ofWord (0x80000000 ≤ word) <|
    if biased = 0 then widenSubnormal fraction
    else if biased = 0xFF then Binary64.infinityWord + fraction <<< 29
    else (biased + 896) * Binary64.hidden + fraction <<< 29

end Binary32

end MessageTemplate
