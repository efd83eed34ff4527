import MessageTemplate.Error
import MessageTemplate.Number.Notation
import MessageTemplate.Scalar

/-!
# Properties on the command line

A property is given as `NAME=VALUE`. The first `=` ends the name, which is not empty. The value is a
whole number of 64 bits if it can be read as one, otherwise a binary number if it can be read as
one, otherwise one of the words `true`, `false` and `null`, and otherwise a text.

* `Scalar.ofArgument`: the scalar for a value.
* `Assignment.read`: the name and the value of an argument. `Assignment.read_eq_ok_iff`,
  `Assignment.read_eq_error_iff`: the arguments that are read, and the error for any other.
* `Assignment.last?`: the value that a name has in the end.
-/

namespace MessageTemplate

/-- The scalar for the text of a value. -/
def Scalar.ofArgument (t : Text) : Scalar :=
  match Written.integer? t, Written.binary64? t with
  | some v, _ => int v
  | none, some x => float x
  | none, none =>
    if t = "true".toList then bool true
    else if t = "false".toList then bool false
    else if t = "null".toList then null
    else text t

/-- A name and its value. -/
structure Assignment where
  name : Text
  value : Scalar
  deriving Repr, DecidableEq

/-- Read an argument of the form `NAME=VALUE`. -/
def Assignment.read (argument : Text) : Except Error Assignment :=
  match Text.splitFirst '=' argument with
  | (c :: name, some value) => .ok ⟨c :: name, .ofArgument value⟩
  | _ => .error (.malformedProperty argument)

namespace Assignment

/-- The scalar that the last assignment to a name gives it. -/
def last? (as : List Assignment) (name : Text) : Option Scalar :=
  (as.reverse.find? (·.name == name)).map (·.value)

/-- The argument is a name that is not empty, the first equals sign and the text of a value. -/
def IsGivenBy (a : Assignment) (argument : Text) : Prop :=
  a.name ≠ [] ∧ '=' ∉ a.name ∧
    ∃ value, argument = a.name ++ '=' :: value ∧ a.value = .ofArgument value

theorem read_eq_ok_iff {argument : Text} {a : Assignment} :
    read argument = .ok a ↔ a.IsGivenBy argument := by
  constructor
  · intro h
    unfold read at h
    split at h
    · rename_i c name value hsplit
      obtain ⟨hargument, hname⟩ := Text.splitFirst_some hsplit
      cases h
      exact ⟨List.cons_ne_nil c name, hname, value, hargument, rfl⟩
    · cases h
  · obtain ⟨name, v⟩ := a
    rintro ⟨hne, hname, value, rfl, hvalue⟩
    obtain ⟨c, name, rfl⟩ := List.exists_cons_of_ne_nil hne
    simp only at hname hvalue
    rw [read, Text.splitFirst_append_cons hname, hvalue]

theorem read_eq_error_iff {argument : Text} {e : Error} :
    read argument = .error e ↔ e = .malformedProperty argument ∧ ∀ a, ¬IsGivenBy a argument := by
  constructor
  · intro h
    refine ⟨?_, fun a ha => ?_⟩
    · unfold read at h
      split at h
      · cases h
      · exact (Except.error.inj h).symm
    · rw [read_eq_ok_iff.2 ha] at h
      cases h
  · rintro ⟨rfl, hnone⟩
    unfold read
    split
    · rename_i c name value hsplit
      obtain ⟨hargument, hname⟩ := Text.splitFirst_some hsplit
      exact absurd ⟨List.cons_ne_nil c name, hname, value, hargument, rfl⟩
        (hnone ⟨c :: name, .ofArgument value⟩)
    · rfl

end Assignment

end MessageTemplate
