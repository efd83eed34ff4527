import MessageTemplate.Text.Numeral

/-!
# Alignments

An alignment pads a text with spaces to a width counted in characters. It is written as the
width, with `-` before it when the text stands on the left.

* `Alignment.ofText?`: reading an alignment.
* `Alignment.padding`: how many spaces a text needs; a text that is already wide enough needs
  none. `Alignment.place`: the text with its spaces. `Alignment.length_place`: its width.
-/

namespace MessageTemplate

/-- The side of the column on which the text stands. -/
inductive Side where
  | left
  | right
  deriving Repr, DecidableEq

/-- A column that a text is padded to. -/
structure Alignment where
  /-- Where the text stands; the spaces are on the other side. -/
  side : Side
  /-- The width of the column in characters. -/
  width : Nat
  deriving Repr, DecidableEq

namespace Alignment

/-- The widest column, `2 ^ 31 - 1`. -/
def maxWidth : Nat := 2147483647

/-- A width is a positive number, up to the widest column. -/
def width? (ds : Text) : Option Nat := (Numeral.readUpTo? maxWidth ds).filter (0 < ·)

/-- Read `width` as right alignment and `-width` as left alignment. -/
def ofText? : Text → Option Alignment
  | '-' :: ds => (width? ds).map (⟨.left, ·⟩)
  | ds => (width? ds).map (⟨.right, ·⟩)

/-- The number of spaces that a text of `n` characters needs. -/
def padding (a : Alignment) (n : Nat) : Nat := a.width - n

/-- A text in its column. -/
def place (a : Alignment) (t : Text) : Text :=
  match a.side with
  | .left => t ++ List.replicate (a.padding t.length) ' '
  | .right => List.replicate (a.padding t.length) ' ' ++ t

/-- A text in its column has the width of the column, or its own length if that is greater. -/
theorem length_place (a : Alignment) (t : Text) : (a.place t).length = max a.width t.length := by
  unfold place
  cases a.side <;> simp [padding] <;> omega

end Alignment

end MessageTemplate
