import MessageTemplate.Text.Basic
import MessageTemplate.Text.Concealed

/-!
# Texts shown to a reader

A text between quotes, in which everything that does not show by itself is spelled out.

* `Revealed.escapeChar`: a character as it is shown.
* `Revealed.quote`: the text between quotes.
-/

namespace MessageTemplate.Revealed

/-- A short escape if there is one, the code point if the character is concealed, and otherwise the
character itself. -/
def escapeChar (c : Char) : Text :=
  if c = '\x00' then ['\\', '0']
  else if c = '\t' then ['\\', 't']
  else if c = '\r' then ['\\', 'r']
  else if c = '\n' then ['\\', 'n']
  else if c = '"' ∨ c = '\\' then ['\\', c]
  else if isConcealed c then '\\' :: 'u' :: '{' :: (Nat.toDigits 16 c.toNat ++ ['}'])
  else [c]

/-- A text in quotes, in which every character shows. -/
def quote (t : Text) : Text := '"' :: (t.flatMap escapeChar ++ ['"'])

end MessageTemplate.Revealed
