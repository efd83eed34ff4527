import MessageTemplate.Alignment
import MessageTemplate.CharClass

/-!
# Tags

A tag stands for a property. Between its braces it holds an optional hint `@` or `$`, a name,
optionally `,` and an alignment, and optionally `:` and a format, in this order. The first `:`
begins the format, so a format may hold commas and further colons.

* `Capture`: how a value is captured for the property.
* `Tag`: the parts of a tag, together with the way it is written.
* `Tag.ofContent?`: reading what stands between the braces.
* `Tag.position`: the position that a name in ASCII digits stands for.
-/

namespace MessageTemplate

/-- How a value is captured for a property. -/
inductive Capture where
  | default
  /-- With its structure: the hint `@`. -/
  | destructure
  /-- As the text that displays it: the hint `$`. -/
  | stringify
  deriving Repr, DecidableEq

namespace Capture

/-- The hint at the front of a text, and what follows it. -/
def ofHint : Text → Capture × Text
  | '@' :: t => (destructure, t)
  | '$' :: t => (stringify, t)
  | t => (default, t)

/-- The word for a way of capturing. -/
def label : Capture → String
  | default => "default"
  | destructure => "destructure"
  | stringify => "stringify"

end Capture

/-- The parts of a tag, together with the way it is written. -/
structure Tag where
  name : Text
  /-- How its value is captured. -/
  capture : Capture
  /-- The column that its value is padded to. -/
  alignment : Option Alignment
  /-- The format that its value is written in. -/
  format : Option Text
  /-- The tag as it is written, braces included. -/
  written : Text
  deriving Repr

namespace Tag

/-- Put braces around the content of a tag. -/
def enclose (content : Text) : Text := '{' :: (content ++ ['}'])

/-- One or more characters of the class `name`. -/
def IsName (t : Text) : Prop := t ≠ [] ∧ ∀ c ∈ t, CharClass.isName c = true

/-- One or more characters of the class `format`. -/
def IsFormat (t : Text) : Prop := t ≠ [] ∧ ∀ c ∈ t, CharClass.isFormat c = true

instance (t : Text) : Decidable (IsName t) :=
  decidable_of_iff (t ≠ [] ∧ t.all CharClass.isName = true) (and_congr_right' List.all_eq_true)

instance (t : Text) : Decidable (IsFormat t) :=
  decidable_of_iff (t ≠ [] ∧ t.all CharClass.isFormat = true) (and_congr_right' List.all_eq_true)

/-- The alignment after a comma: none if there is no comma, and a failure if it is malformed. -/
def alignment? : Option Text → Option (Option Alignment)
  | none => some none
  | some t => (Alignment.ofText? t).map some

/-- The format after a colon: none if there is no colon, and a failure if it is malformed. -/
def format? : Option Text → Option (Option Text)
  | none => some none
  | some t => if IsFormat t then some (some t) else none

/-- Read the content of a tag; anything that is no tag is refused. -/
def ofContent? (content : Text) : Option Tag := do
  let (head, afterColon) := Text.splitFirst ':' content
  let (hinted, afterComma) := Text.splitFirst ',' head
  let (capture, name) := Capture.ofHint hinted
  let format ← format? afterColon
  let alignment ← alignment? afterComma
  if IsName name then some ⟨name, capture, alignment, format, enclose content⟩ else none

theorem written_of_ofContent? {content : Text} {t : Tag} (h : ofContent? content = some t) :
    t.written = enclose content := by
  simp only [ofContent?, Option.bind_eq_bind, Option.bind_eq_some_iff] at h
  obtain ⟨_, _, _, _, h⟩ := h
  split at h
  · exact (Option.some.inj h) ▸ rfl
  · cases h

/-- The largest position, `2 ^ 31 - 1`. -/
def maxPosition : Nat := 2147483647

/-- The position that the name stands for, if it consists of ASCII digits only. -/
def position (t : Tag) : Option Nat := Numeral.readUpTo? maxPosition t.name

/-- Two tags are the same when they are written alike and agree in name, format and capture. -/
instance : BEq Tag where
  beq s t := s.capture == t.capture && s.format == t.format && s.name == t.name &&
    s.written == t.written

end Tag

end MessageTemplate
