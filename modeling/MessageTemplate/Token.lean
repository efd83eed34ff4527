import MessageTemplate.Literal
import MessageTemplate.Tag

/-!
# Tokens

A template is a sequence of tokens: texts, and tags. A token knows how it is written.

* `Token.literal`, `Token.verbatim`: a text whose doubled braces stand for one, and a text that
  stands for itself.
* `Token.ofContent`: a tag if the content between the braces is one, and otherwise a text.
* `Token.keptForm`: the written form of a text, as far as it is kept and compared.
* `Token.key`: what tokens are told apart by before they are compared.
-/

namespace MessageTemplate

/-- A piece of a template. -/
inductive Token where
  /-- The text `meaning`, written as `written`. -/
  | text (meaning written : Text)
  | tag (tag : Tag)
  deriving Repr

namespace Token

/-- The written form of a text, kept only if it differs from what the text stands for. -/
def keptForm (meaning written : Text) : Option Text :=
  if meaning = written then none else some written

/-- Texts are the same when they stand for the same and keep the same written form. -/
instance : BEq Token where
  beq
    | text m w, text m' w' => m == m' && keptForm m w == keptForm m' w'
    | tag t, tag t' => t == t'
    | _, _ => false

/-- A text with doubled braces. -/
def literal (written : Text) : Token := text (Literal.unescape written) written

/-- A text that stands for itself, whatever braces it holds. -/
def verbatim (t : Text) : Token := text t t

/-- The token for the content between two braces. -/
def ofContent (content : Text) : Token :=
  match Tag.ofContent? content with
  | some t => tag t
  | none => verbatim (Tag.enclose content)

/-- The token as it is written in the template. -/
def written : Token → Text
  | text _ w => w
  | tag t => t.written

theorem written_ofContent (content : Text) :
    (ofContent content).written = Tag.enclose content := by
  unfold ofContent
  split
  · rename_i t h
    exact Tag.written_of_ofContent? h
  · rfl

/-- The tag, if the token is one. -/
def tag? : Token → Option Tag
  | text .. => none
  | tag t => some t

/-- What a token is looked up by. -/
inductive Key where
  /-- A text is looked up by what it stands for, and by its written form if that differs. -/
  | text (meaning : Text) (written : Option Text)
  /-- A tag is looked up by its name alone. -/
  | name (name : Text)
  deriving Repr, DecidableEq

/-- The key of a token. Equal tokens have equal keys. -/
def key : Token → Key
  | text m w => .text m (keptForm m w)
  | tag t => .name t.name

end Token

end MessageTemplate
