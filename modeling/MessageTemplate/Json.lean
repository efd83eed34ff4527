import MessageTemplate.Text.Numeral

/-!
# Writing JSON

The part of JSON that descriptions of templates need, and its writing in a layout.

* `Json`: null, whole numbers, texts, arrays and objects with their members in order.
* `Json.Layout`: the blanks between the parts of a value. `Json.Layout.oneLine`: none.
  `Json.Layout.indented`: every item and every member on a line of its own.
* `Json.escapeChar`: a character inside a quoted text. Quotes, backslashes and control characters
  are escaped, and everything else stands for itself.
* `Json.write`: writing a value in a layout.
-/

namespace MessageTemplate

/-- A value, with the members of an object in order. -/
inductive Json where
  | null
  | number (n : Nat)
  | text (t : Text)
  | array (items : List Json)
  | object (members : List (Text × Json))
  deriving Repr

namespace Json

/-- The characters that make no difference between the parts of a value. -/
def isBlank (c : Char) : Bool := c == ' ' || c == '\t' || c == '\n' || c == '\r'

/-- The blanks between the parts of a value. -/
structure Layout where
  /-- What stands in front of every item and member at a depth, and in front of the end of an array
  or an object in which there are any. -/
  lineBreak : Nat → Text
  /-- What stands behind a colon. -/
  afterColon : Text
  isBlank_lineBreak : ∀ depth, ∀ c ∈ lineBreak depth, isBlank c = true
  isBlank_afterColon : ∀ c ∈ afterColon, isBlank c = true

namespace Layout

/-- No blanks at all. -/
def oneLine : Layout where
  lineBreak _ := []
  afterColon := []
  isBlank_lineBreak _ := nofun
  isBlank_afterColon := nofun

/-- A line for every item and every member, with two more spaces in front at every depth, and a
space behind every colon. -/
def indented : Layout where
  lineBreak depth := '\n' :: List.replicate (2 * depth) ' '
  afterColon := [' ']
  isBlank_lineBreak depth := by simp [isBlank]
  isBlank_afterColon := by simp [isBlank]

@[simp] theorem lineBreak_oneLine (depth : Nat) : oneLine.lineBreak depth = [] := rfl

@[simp] theorem afterColon_oneLine : oneLine.afterColon = [] := rfl

end Layout

/-- Inside quotes: the short escape if there is one, the code of any other control character, and
the character itself otherwise. -/
def escapeChar (c : Char) : Text :=
  if c = '"' then ['\\', '"']
  else if c = '\\' then ['\\', '\\']
  else if c = '\x08' then ['\\', 'b']
  else if c = '\x0c' then ['\\', 'f']
  else if c = '\n' then ['\\', 'n']
  else if c = '\r' then ['\\', 'r']
  else if c = '\t' then ['\\', 't']
  else if c.toNat < 32 then
    '\\' :: 'u' :: Numeral.padLeft 4 (Numeral.hexadecimal false c.toNat)
  else [c]

/-- A text in quotes. -/
def quote (t : Text) : Text := '"' :: (t.flatMap escapeChar ++ ['"'])

mutual

/-- Write a value at a depth. -/
def write (l : Layout) (depth : Nat) : Json → Text
  | null => ['n', 'u', 'l', 'l']
  | number n => Numeral.decimal n
  | text t => quote t
  | array [] => ['[', ']']
  | array (x :: xs) =>
    '[' :: (l.lineBreak (depth + 1) ++ (write l (depth + 1) x ++ moreItems l depth xs))
  | object [] => ['{', '}']
  | object ((k, x) :: ms) =>
    '{' :: (l.lineBreak (depth + 1) ++ (quote k ++
      ':' :: (l.afterColon ++ (write l (depth + 1) x ++ moreMembers l depth ms))))

/-- The items after the first, and the end of the array. -/
def moreItems (l : Layout) (depth : Nat) : List Json → Text
  | [] => l.lineBreak depth ++ [']']
  | x :: xs =>
    ',' :: (l.lineBreak (depth + 1) ++ (write l (depth + 1) x ++ moreItems l depth xs))

/-- The members after the first, and the end of the object. -/
def moreMembers (l : Layout) (depth : Nat) : List (Text × Json) → Text
  | [] => l.lineBreak depth ++ ['}']
  | (k, x) :: ms =>
    ',' :: (l.lineBreak (depth + 1) ++ (quote k ++
      ':' :: (l.afterColon ++ (write l (depth + 1) x ++ moreMembers l depth ms))))

end

end Json

end MessageTemplate
