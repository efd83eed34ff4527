import MessageTemplate.Text.Letter
import MessageTemplate.Text.DecimalDigit
import MessageTemplate.Text.Punctuation

/-!
# Character classes

What a character may be part of inside a tag.

* `CharClass.name`: letters and decimal digits of every script, and `_`.
* `CharClass.format`: these, punctuation and the space, but never the closing brace.
* `CharClass.alignment`: ASCII digits and `-`.
* `CharClass.hint`: `@` and `$`.
* `CharClass.tag`: the members of the other classes, and `:`.
* **`CharClass.not_tag_closing`**: the closing brace belongs to no class, so it ends every tag.
-/

namespace MessageTemplate

/-- The roles that a character can play in a tag. -/
inductive CharClass where
  | name
  | format
  | alignment
  | hint
  | tag
  deriving Repr, DecidableEq

namespace CharClass

/-- Letters, decimal digits and the underscore. -/
def isName (c : Char) : Bool := isLetter c || isDecimalDigit c || c == '_'

/-- Letters, decimal digits, punctuation and the space, without the closing brace. -/
def isFormat (c : Char) : Bool := c != '}' && (isName c || isPunctuation c || c == ' ')

/-- The digits of a width and the sign in front of it. Digits of other scripts do not count. -/
def isAlignment (c : Char) : Bool := c.isDigit || c == '-'

/-- The marks that tell how a value is captured. -/
def isHint (c : Char) : Bool := c == '@' || c == '$'

/-- Everything that may stand between the braces of a tag. -/
def isTag (c : Char) : Bool := isFormat c || isAlignment c || isHint c || c == ':'

/-- Whether a character may play a role. -/
def contains : CharClass → Char → Bool
  | name => isName
  | format => isFormat
  | alignment => isAlignment
  | hint => isHint
  | tag => isTag

/-- The classes in the order in which they are listed. -/
def all : List CharClass := [name, format, alignment, hint, tag]

/-- The roles that a character may play, in order. -/
def of (c : Char) : List CharClass := all.filter (·.contains c)

theorem mem_of {k : CharClass} {c : Char} : k ∈ of c ↔ k.contains c = true := by
  cases k <;> simp [of, all]

/-- **The closing brace belongs to no class.** -/
theorem not_tag_closing : isTag '}' = false := by decide +kernel

theorem isFormat_of_isName {c : Char} (h : isName c = true) : isFormat c = true := by
  have hc : c ≠ '}' := by rintro rfl; exact absurd h (by decide +kernel)
  simp [isFormat, h, hc]

theorem isTag_of_isFormat {c : Char} (h : isFormat c = true) : isTag c = true := by
  simp [isTag, h]

end CharClass

end MessageTemplate
