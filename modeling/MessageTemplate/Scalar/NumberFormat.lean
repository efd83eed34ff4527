import MessageTemplate.Number.Shortest
import MessageTemplate.Number.Rounding

/-!
# Number formats

A format tells how a number is written.

* `x` or `X` and a count: at least so many hexadecimal digits, in lower or upper case. A negative
  number shows the 64 bits of its two's complement.
* `d` or `D` and a count: at least so many decimal digits.
* `f`, `F`, `n` or `N` and a count: so many decimal places, two if there is no count.
* Zeros: at least so many digits. Zeros, a point and zeros: at least so many digits before the
  separator and exactly so many after it.
* Anything else: as short as possible.

A count has any number of digits and is at most 99; no digits at all count as zero.

* `NumberFormat.ofText`: reading a format.
* `NumberFormat.integer`, `NumberFormat.float`: writing a number.
* `NumberFormat.exceeds`: a binary number in more places than the system writes.
-/

namespace MessageTemplate

/-- How a number is written. -/
inductive NumberFormat where
  | general
  /-- In hexadecimal, with at least `count` digits. -/
  | hexadecimal (upper : Bool) (count : Nat)
  /-- In decimal, with at least `count` digits. -/
  | digits (count : Nat)
  /-- In decimal, with at least `whole` digits before the separator and `places` after it. -/
  | fixed (whole places : Nat)
  deriving Repr, DecidableEq

namespace NumberFormat

/-- The largest count that has an effect. -/
def maxCount : Nat := 99

/-- The count after the letter of a format, or `none` if it is malformed. -/
def count? (t : Text) : Option Nat :=
  if t.all Char.isDigit then some (min (Numeral.valueUntil maxCount t) maxCount) else none

/-- There is nothing but zeros, and perhaps not even these. -/
def allZeros (t : Text) : Bool := t.all (· == '0')

/-- Read a format of zeros with at most one point between them. -/
def ofZeros (t : Text) : NumberFormat :=
  match Text.splitFirst '.' t with
  | (whole, none) => if allZeros whole then digits whole.length else general
  | (whole, some places) =>
    if allZeros whole && allZeros places && !places.isEmpty then
      fixed whole.length places.length
    else general

/-- Read a format; one that is not recognised is as good as none. -/
def ofText : Text → NumberFormat
  | [] => general
  | c :: t =>
    if c = 'x' ∨ c = 'X' then ((count? t).map (hexadecimal (c = 'X'))).getD general
    else if c = 'd' ∨ c = 'D' then ((count? t).map digits).getD general
    else if c = 'f' ∨ c = 'F' ∨ c = 'n' ∨ c = 'N' then
      if t.isEmpty then fixed 1 2 else ((count? t).map (fixed 1)).getD general
    else if c = '0' then ofZeros (c :: t)
    else general

/-- A minus sign if one is called for. -/
def minus (negative : Bool) : Text := if negative then ['-'] else []

/-- The number of 64 bits that has the same bits as `v`. -/
def twosComplement (v : Int) : Nat := (v % 0x10000000000000000).toNat

/-- The separator and the decimal places of a whole number, if there are any. -/
def zeroPlaces (separator : Char) (places : Nat) : Text :=
  if places = 0 then [] else separator :: List.replicate places '0'

/-- Write a whole number. It has zeros for decimal places. -/
def integer (separator : Char) (v : Int) : NumberFormat → Text
  | general => minus (v < 0) ++ Numeral.decimal v.natAbs
  | hexadecimal upper n => Numeral.padLeft n (Numeral.hexadecimal upper (twosComplement v))
  | digits n => minus (v < 0) ++ Numeral.padLeft n (Numeral.decimal v.natAbs)
  | fixed whole places =>
    minus (v < 0) ++ Numeral.padLeft whole (Numeral.decimal v.natAbs) ++ zeroPlaces separator places

/-- Write a number that is not finite. -/
def nonFinite (x : Binary64) : Text :=
  if x.isNaN then "NaN".toList else minus x.isNegative ++ "inf".toList

/-- Write a finite number with as few digits as read back. A negative zero keeps its sign. -/
def shortest (separator : Char) (x : Binary64) : Text :=
  minus x.isNegative ++ x.shortest.positional separator

/-- Beyond this many places there are only zeros: every finite number is a whole multiple of
`2 ^ -1074`, and so of `10 ^ -1074`. -/
def exactPlaces : Nat := 1074

/-- Write a finite number with a fixed number of places, a half going to the even neighbour. A
number that is rounded to zero has no sign. The system itself stops at `maxPlaces` places, see
`exceeds`. -/
def rounded (separator : Char) (whole places : Nat) (x : Binary64) : Text :=
  let exact := min places exactPlaces
  let n := roundQuotient (x.numerator * Nat.pow 10 exact) x.denominator
  minus (x.isNegative && n != 0) ++ Decimal.fixed separator whole exact n ++
    List.replicate (places - exact) '0'

/-- Write a binary number. One that is not finite is written the same in every format, and one in a
hexadecimal format as short as possible. -/
def float (separator : Char) (x : Binary64) (f : NumberFormat) : Text :=
  if !x.isFinite then nonFinite x
  else match f with
    | general | hexadecimal .. => shortest separator x
    | digits n => rounded separator n 0 x
    | fixed whole places => rounded separator whole places x

/-- The most decimal places in which the system writes a binary number. It counts them in 16 bits. -/
def maxPlaces : Nat := 65535

/-- The decimal places that a format fixes. -/
def places : NumberFormat → Nat
  | fixed _ places => places
  | general | hexadecimal .. | digits _ => 0

/-- Whether a binary number is asked for in more places than the system writes. A program that comes
to such a number does not go on. -/
def exceeds (x : Binary64) (f : NumberFormat) : Bool := x.isFinite && maxPlaces < f.places

end NumberFormat

end MessageTemplate
