import MessageTemplate.Scalar.NumberFormat
import MessageTemplate.Tag
import MessageTemplate.Text.Quoted

/-!
# Scalars

The plain values of properties, and how they are written.

* `Scalar.display`: a scalar without any format.
* `Culture`: the decimal separator, and a way to write some scalars differently altogether.
* `Scalar.write`: a scalar in a format. A text and a character are quoted unless the format holds
  the letter `l`. `Scalar.write_eq_format`: what only the separator of a culture has a part in.
* `Scalar.exceeds`: a scalar that the system does not write in a format.
* `Scalar.capture`: the scalar that a hint makes of a scalar.
* `ToScalar`: the scalars of the usual types.
-/

namespace MessageTemplate

/-- Values without parts. -/
inductive Scalar where
  | null
  | bool (b : Bool)
  | int (v : Int64)
  | uint (v : UInt64)
  | float (x : Binary64)
  | char (c : Char)
  | text (t : Text)
  deriving Repr, DecidableEq

/-- The conventions of a place or of a program. -/
structure Culture where
  /-- What stands between the whole digits and the decimal places. -/
  separator : Char := '.'
  /-- The text of a scalar in a format, for the scalars that are written in a way of their own. -/
  override : Scalar → Option Text → Option Text := fun _ _ => none

/-- The conventions of no place in particular. -/
def Culture.invariant : Culture := {}

namespace Scalar

/-- A scalar without any format. -/
def display : Scalar → Text
  | null => "null".toList
  | bool b => if b then "true".toList else "false".toList
  | int v => NumberFormat.integer '.' v.toInt .general
  | uint v => NumberFormat.integer '.' v.toNat .general
  | float x => NumberFormat.float '.' x .general
  | char c => [c]
  | text t => t

/-- Whether a format asks for a text as it is. -/
def literal (format : Option Text) : Bool := (format.getD []).contains 'l'

/-- A scalar in a format, with a decimal separator. -/
def format (separator : Char) (format : Option Text) : Scalar → Text
  | text t => if literal format then t else Quoted.encode '"' t
  | char c => if literal format then [c] else Quoted.encode '\'' [c]
  | int v => NumberFormat.integer separator v.toInt (.ofText (format.getD []))
  | uint v => NumberFormat.integer separator v.toNat (.ofText (format.getD []))
  | float x => NumberFormat.float separator x (.ofText (format.getD []))
  | s => s.display

/-- A scalar in a format, by the conventions of a culture. -/
def write (fmt : Option Text) (culture : Option Culture) (s : Scalar) : Text :=
  match culture with
  | none => s.format '.' fmt
  | some c => (c.override s fmt).getD (s.format c.separator fmt)

theorem write_eq_format {fmt : Option Text} {culture : Option Culture} {s : Scalar}
    (plain : ∀ c ∈ culture, c.override s fmt = none) :
    s.write fmt culture = s.format (culture.elim '.' Culture.separator) fmt := by
  cases culture with
  | none => rfl
  | some c => rw [write, plain c rfl, Option.getD_none, Option.elim_some]

/-- Whether a scalar is a binary number that a format asks for in more places than the system
writes. -/
def exceeds (format : Option Text) : Scalar → Bool
  | float x => NumberFormat.exceeds x (.ofText (format.getD []))
  | null | bool _ | int _ | uint _ | char _ | text _ => false

theorem exceeds_iff {s : Scalar} {format : Option Text} :
    s.exceeds format = true ↔ ∃ x, s = .float x ∧ x.isFinite = true ∧
      NumberFormat.maxPlaces < (NumberFormat.ofText (format.getD [])).places := by
  cases s <;> simp [exceeds, NumberFormat.exceeds]

/-- A scalar is captured as it is, or as the text that displays it. -/
def capture : Capture → Scalar → Scalar
  | .stringify, s => text s.display
  | _, s => s

end Scalar

/-! ## Conversions -/

/-- The types whose values are scalars. -/
class ToScalar (α : Type) where
  toScalar : α → Scalar

export ToScalar (toScalar)

instance : ToScalar Scalar := ⟨id⟩
instance : ToScalar Bool := ⟨.bool⟩
instance : ToScalar Int8 := ⟨fun v => .int v.toInt64⟩
instance : ToScalar Int16 := ⟨fun v => .int v.toInt64⟩
instance : ToScalar Int32 := ⟨fun v => .int v.toInt64⟩
instance : ToScalar Int64 := ⟨.int⟩
instance : ToScalar ISize := ⟨fun v => .int v.toInt64⟩
instance : ToScalar UInt8 := ⟨fun v => .uint v.toUInt64⟩
instance : ToScalar UInt16 := ⟨fun v => .uint v.toUInt64⟩
instance : ToScalar UInt32 := ⟨fun v => .uint v.toUInt64⟩
instance : ToScalar UInt64 := ⟨.uint⟩
instance : ToScalar USize := ⟨fun v => .uint v.toUInt64⟩
instance : ToScalar Binary32 := ⟨fun x => .float x.widen⟩
instance : ToScalar Binary64 := ⟨.float⟩
instance : ToScalar Char := ⟨.char⟩
instance : ToScalar Text := ⟨.text⟩
instance : ToScalar String := ⟨fun s => .text s.toList⟩

/-- A value that is missing is null. -/
instance {α : Type} [ToScalar α] : ToScalar (Option α) := ⟨fun o => (o.map toScalar).getD .null⟩

end MessageTemplate
