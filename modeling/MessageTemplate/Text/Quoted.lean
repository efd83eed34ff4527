import MessageTemplate.Text.Basic

/-!
# Quoted texts

A quoted text stands between two quotes, and inside it a quote and a backslash have a backslash
before them.

* `Quoted.escape`: the inside of a quoted text.
* `Quoted.encode`: the quoted text.
-/

namespace MessageTemplate.Quoted

/-- Put a backslash before every quote and every backslash. -/
def escape (quote : Char) : Text → Text
  | [] => []
  | c :: t => if c = quote ∨ c = '\\' then '\\' :: c :: escape quote t else c :: escape quote t

/-- A text in quotes. -/
def encode (quote : Char) (t : Text) : Text := quote :: (escape quote t ++ [quote])

end MessageTemplate.Quoted
