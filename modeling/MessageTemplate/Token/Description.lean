import MessageTemplate.Json
import MessageTemplate.Template

/-!
# Descriptions of tokens

A token described as a JSON object: a text by what it stands for, a tag by its parts. The members of
every object are in alphabetical order, and a part that is absent is null.

* `Token.describe`, `Template.describe`: the description of a token, and of all tokens in order.
-/

namespace MessageTemplate

namespace Side

/-- The word for a side. -/
def label : Side → String
  | left => "left"
  | right => "right"

end Side

/-- The direction and the width of a column. -/
def Alignment.describe (a : Alignment) : Json :=
  .object [("direction".toList, .text a.side.label.toList), ("width".toList, .number a.width)]

/-- All parts of a tag. Those that are absent are null. -/
def Tag.describe (t : Tag) : Json :=
  .object [
    ("alignment".toList, (t.alignment.map Alignment.describe).getD .null),
    ("destructuring".toList, .text t.capture.label.toList),
    ("format".toList, (t.format.map Json.text).getD .null),
    ("position".toList, (t.position.map Json.number).getD .null),
    ("property".toList, .text t.name),
    ("raw".toList, .text t.written)]

/-- A text by what it stands for, and a tag by its parts. -/
def Token.describe : Token → Json
  | text m _ => .object [("text".toList, .text m)]
  | tag t => t.describe

/-- The descriptions of the tokens in order. -/
def Template.describe (t : Template) : Json := .array (t.tokens.map Token.describe)

end MessageTemplate
