import MessageTemplate.Error
import MessageTemplate.Template
import MessageTemplate.Value

/-!
# Rendering templates

A template is rendered token by token. A text shows what it stands for, a tag shows the value that
its name is bound to, and a tag whose name is not bound shows itself.

* `Tag.render`, `Token.render`, `Template.render`.
* `Template.renderToText`: the whole text, or an error if a value fails.
  **`Template.renderToText_eq`**: it is the text of the rendering.
* `Template.exceeds`: a template that comes to a number which the system does not write.
-/

namespace MessageTemplate

/-- A tag with a value: the value in the format of the tag, padded to its column. -/
def Tag.renderValue (t : Tag) (value : Value) (culture : Option Culture) : Rendering :=
  match t.alignment with
  | none => value.render t.format culture
  | some a => (value.render t.format culture).align a

/-- A tag shows its value, and itself if it has none. -/
def Tag.render (t : Tag) (source : Source) (culture : Option Culture) : Rendering :=
  match source t.name with
  | some value => t.renderValue value culture
  | none => .ofText t.written

/-- A text shows what it stands for, and a tag its value or itself. -/
def Token.render (source : Source) (culture : Option Culture) : Token → Rendering
  | text meaning _ => .ofText meaning
  | tag t => t.render source culture

/-- The text of a rendering, or an error if it fails. -/
def Rendering.toText (r : Rendering) : Except Error Text :=
  match r.text? with
  | some s => .ok s
  | none => .error .rejectedWrite

namespace Template

/-- The renderings of the tokens, one after another. -/
def render (t : Template) (source : Source) (culture : Option Culture) : Rendering :=
  .concat (t.tokens.map (Token.render source culture))

/-- The text of a rendering that does not fail. No token after a failing one is rendered. -/
def renderToText (t : Template) (source : Source) (culture : Option Culture) : Except Error Text :=
  match Rendering.concatText? (Token.render source culture) t.tokens with
  | some s => .ok s
  | none => .error .rejectedWrite

/-- Whether one of the tags has a scalar that the system does not write in the format of the tag. -/
def exceeds (t : Template) (values : Text → Option Scalar) : Bool :=
  t.tokens.any fun
    | .text .. => false
    | .tag tag => (values tag.name).any (·.exceeds tag.format)

theorem exceeds_iff {t : Template} {values : Text → Option Scalar} :
    t.exceeds values = true ↔ ∃ tag x, .tag tag ∈ t.tokens ∧ values tag.name = some (.float x) ∧
      x.isFinite = true ∧
      NumberFormat.maxPlaces < (NumberFormat.ofText (tag.format.getD [])).places := by
  rw [exceeds, List.any_eq_true]
  constructor
  · rintro ⟨_ | tag, htag, h⟩
    · cases h
    · obtain ⟨s, hs, hexceeds⟩ := (Option.any_eq_true _ _).1 h
      obtain ⟨x, rfl, hx⟩ := Scalar.exceeds_iff.1 hexceeds
      exact ⟨tag, x, htag, hs, hx⟩
  · rintro ⟨tag, x, htag, hvalue, hx⟩
    exact ⟨.tag tag, htag, (Option.any_eq_true _ _).2 ⟨_, hvalue, Scalar.exceeds_iff.2 ⟨x, rfl, hx⟩⟩⟩

/-- **The text is that of the rendering as a whole.** -/
theorem renderToText_eq (t : Template) (source : Source) (culture : Option Culture) :
    t.renderToText source culture = (t.render source culture).toText := by
  unfold renderToText
  rw [Rendering.concatText?_eq]
  rfl

end Template

end MessageTemplate
