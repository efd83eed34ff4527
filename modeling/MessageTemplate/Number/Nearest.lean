import MessageTemplate.Number.Binary64
import MessageTemplate.Number.Decimal
import MessageTemplate.Number.Rounding

/-!
# The nearest binary number

* `Nearest.binaryExponent`: the power of two at or below a positive quotient.
* `Nearest.word`: the bits of the number nearest a quotient. Of two equally near numbers the one with
  the even significand is taken, and a quotient beyond the largest number by half a unit or more goes
  to infinity.
* `Decimal.nearest`: the number nearest a decimal. A decimal far too large or far too small for a
  finite number is recognised by bounds on its digits, whatever its exponent.
* `Binary64.ofInt`: the number nearest a whole number.
-/

namespace MessageTemplate

namespace Nearest

/-- The exponent `e` with `2 ^ e ≤ n / d < 2 ^ (e + 1)`. -/
def binaryExponent (n d : Nat) : Int :=
  let e : Int := (n.log2 : Int) - d.log2
  if n <<< (-e).toNat < d <<< e.toNat then e - 1 else e

/-- The bits of the number nearest `n / d`. The significand counts units of `2 ^ q`, and as the bits
of exponent and fraction stand side by side, a significand that is rounded up to the next power of
two carries into the exponent. -/
def word (n d : Nat) : Nat :=
  if n = 0 then 0
  else
    let q := max (binaryExponent n d - 52) (-1074)
    let significand := roundQuotient (n <<< (-q).toNat) (d <<< q.toNat)
    min ((q + 1074).toNat * Binary64.hidden + significand) Binary64.infinityWord

theorem word_lt (n d : Nat) : word n d < Binary64.signBit := by
  unfold word
  split
  · decide
  · exact Nat.lt_of_le_of_lt (Nat.min_le_right _ _) (by decide)

end Nearest

namespace Decimal

/-- A power of ten at or below a positive number: `1000 < 2 ^ 10`. -/
def lowerPower (n : Nat) : Nat := 3 * n.log2 / 10

/-- A power of ten above a number: `2 ^ 10 < 10000`. -/
def upperPower (n : Nat) : Nat := 4 * (n.log2 / 10 + 1)

/-- The number nearest a decimal, with a sign. -/
def nearest (negative : Bool) (d : Decimal) : Binary64 :=
  if d.digits = 0 ∨ upperPower d.digits + d.exponent < -330 then Binary64.ofWord negative 0
  else if 310 < lowerPower d.digits + d.exponent then Binary64.infinity negative
  else Binary64.ofWord negative (Nearest.word d.numerator d.denominator)

end Decimal

/-- The number nearest a whole number. -/
def Binary64.ofInt (v : Int) : Binary64 := Decimal.nearest (v < 0) ⟨v.natAbs, 0⟩

end MessageTemplate
