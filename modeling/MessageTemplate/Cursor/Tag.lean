import MessageTemplate.Number.Notation
import MessageTemplate.Tag
import MessageTemplate.Text.Offset

/-!
# Reading tags by offsets

The content of a tag is taken apart at the offsets of its first comma and its first colon, whichever
comes first, and its parts are checked one after another.

* `Cursor.splitContent`: the parts, unless a format or an alignment would be empty.
* `Cursor.takeHint`, `Cursor.readAlignment`: the hint at the front of a name, and an alignment.
* `Cursor.readParts`, `Cursor.readTag`: the tag, if its parts pass.
-/

namespace MessageTemplate.Cursor

/-- The parts of the content of a tag, before they are checked. -/
structure Parts where
  name : Text
  format : Option Text
  alignment : Option Text
  deriving Repr, DecidableEq

/-- A part that may not be empty. -/
def segment (t : Text) : Option Text := if t.isEmpty then none else some t

/-- The parts, if everything after the colon is the format. -/
def splitAtColon (content : Text) (colon : Nat) : Except BadOffset (Option Parts) := do
  let name ← content.slice 0 colon
  let format ← content.sliceFrom (colon + 1)
  return (segment format).map fun format => ⟨name, some format, none⟩

/-- The parts, if everything after the comma is the alignment. -/
def splitAtComma (content : Text) (comma : Nat) : Except BadOffset (Option Parts) := do
  let name ← content.slice 0 comma
  let alignment ← content.sliceFrom (comma + 1)
  return (segment alignment).map fun alignment => ⟨name, none, some alignment⟩

/-- The parts, if the alignment stands before the format. -/
def splitAtBoth (content : Text) (comma colon : Nat) : Except BadOffset (Option Parts) := do
  let name ← content.slice 0 comma
  let format ← content.sliceFrom (colon + 1)
  let alignment ← content.slice (comma + 1) colon
  return (segment format).bind fun format =>
    (segment alignment).map fun alignment => ⟨name, some format, some alignment⟩

/-- Take the content of a tag apart. A comma after the first colon belongs to the format. -/
def splitContent (content : Text) : Except BadOffset (Option Parts) :=
  match content.firstOffset? (· == ','), content.firstOffset? (· == ':') with
  | none, none => return some ⟨content, none, none⟩
  | none, some colon => splitAtColon content colon
  | some comma, none => splitAtComma content comma
  | some comma, some colon =>
    if colon < comma then splitAtColon content colon else splitAtBoth content comma colon

/-- The way of capturing that a mark stands for. -/
def captureOf? : Char → Option Capture
  | '@' => some .destructure
  | '$' => some .stringify
  | _ => none

/-- Take off the hint in front of a name. -/
def takeHint (name : Text) : Except BadOffset (Capture × Text) :=
  match name.head?.bind captureOf? with
  | some capture => do return (capture, ← name.sliceFrom 1)
  | none => return (.default, name)

/-- Read a whole number of 32 bits with an optional sign. -/
def int32? (t : Text) : Option Int :=
  ((Numeral.read? (Written.sign t).2).map (Written.signed (Written.sign t).1)).filter fun n =>
    -2147483648 ≤ n ∧ n ≤ 2147483647

/-- A column of a positive width. -/
def column? (side : Side) (digits : Text) : Option Alignment :=
  ((int32? digits).filter (0 < ·)).map fun n => ⟨side, n.toNat⟩

/-- Read an alignment: the one `-` that it may hold stands in front. -/
def readAlignment (t : Text) : Except BadOffset (Option Alignment) :=
  if t.all CharClass.isAlignment then
    match t.lastOffset? (· == '-') with
    | none => return column? .right t
    | some 0 => do return column? .left (← t.sliceFrom 1)
    | some (_ + 1) => return none
  else return none

/-- Read an alignment, if there is one. It is a failure if there is one that cannot be read. -/
def readAlignment? : Option Text → Except BadOffset (Option (Option Alignment))
  | none => return some none
  | some t => do return (← readAlignment t).map some

/-- Check the parts of a tag that is written as `written`, one after another. -/
def readParts (written : Text) (parts : Parts) : Except BadOffset (Option Tag) := do
  let (capture, name) ← takeHint parts.name
  if name.isEmpty || !name.all CharClass.isName then return none
  else if parts.format.any fun f => !f.all CharClass.isFormat then return none
  else
    match ← readAlignment? parts.alignment with
    | none => return none
    | some alignment => return some ⟨name, capture, alignment, parts.format, written⟩

/-- Read the content of a tag that is written as `written`; anything that is no tag is refused. -/
def readTag (written content : Text) : Except BadOffset (Option Tag) :=
  if content.isEmpty then return none
  else do
    match ← splitContent content with
    | none => return none
    | some parts => readParts written parts

end MessageTemplate.Cursor
