import MessageTemplate.Text.Numeral

/-!
# Settings texts

A settings text assigns whole numbers to keys, one assignment a line, in the syntax of TOML. There
are blank lines and comments, and lines end with a line feed, with or without a carriage return
before it. A key is bare or quoted. Everything else that TOML has is refused, because no setting is
anything but a whole number.

* `Settings.lines`: the lines of a text.
* `Settings.key?`: a bare key, a key between apostrophes, or one between quotes, with escapes.
* `Settings.integer?`: a decimal number with an optional sign and no leading zeros, or a number in
  hexadecimal, octal or binary digits after `0x`, `0o` or `0b`; there may be an underscore between
  two digits.
* `Settings.read?`: the assignments of a text in order.
-/

namespace MessageTemplate.Settings

/-- The lines of a text, without the characters that end them. -/
def lines : Text → List Text
  | [] => [[]]
  | '\r' :: '\n' :: t => [] :: lines t
  | '\n' :: t => [] :: lines t
  | c :: t =>
    match lines t with
    | [] => [[c]]
    | l :: ls => (c :: l) :: ls

/-- Spaces and tabs. -/
def isBlank (c : Char) : Bool := c == ' ' || c == '\t'

/-- The characters of comments and quoted keys: no control characters but the tab. -/
def isPrintable (c : Char) : Bool := c == '\t' || (32 ≤ c.toNat && c.toNat != 127)

/-- The characters of bare keys. -/
def isBare (c : Char) : Bool := c.isAlphanum || c == '_' || c == '-'

/-- What follows the blanks at the front. -/
def skipBlanks (t : Text) : Text := t.dropWhile isBlank

/-- Whether a line is over, up to blanks and a comment. -/
def isOver (t : Text) : Bool :=
  match skipBlanks t with
  | [] => true
  | c :: t => c == '#' && t.all isPrintable

/-! ## Keys -/

/-- The value of a hexadecimal digit in either case. -/
def digitValue (c : Char) : Nat :=
  if c.isDigit then c.toNat - '0'.toNat else c.toLower.toNat - 'a'.toNat + 10

/-- The digits `0` to `9`, `a` to `f` and `A` to `F`. -/
def isHexDigit (c : Char) : Bool :=
  c.isDigit || ('a' ≤ c && c ≤ 'f') || ('A' ≤ c && c ≤ 'F')

/-- The number that digits denote in a base. -/
def valueIn (base : Nat) (ds : Text) : Nat := ds.foldl (fun n c => base * n + digitValue c) 0

/-- The character with a code in hexadecimal digits. -/
def codePoint? (ds : Text) : Option Char :=
  if ds.all isHexDigit then
    if (valueIn 16 ds).isValidChar then some (Char.ofNat (valueIn 16 ds)) else none
  else none

/-- The character that a backslash and a letter stand for. -/
def escape? : Char → Option Char
  | 'b' => some '\x08'
  | 't' => some '\t'
  | 'n' => some '\n'
  | 'f' => some '\x0c'
  | 'r' => some '\r'
  | 'e' => some '\x1b'
  | '"' => some '"'
  | '\\' => some '\\'
  | _ => none

/-- A character in front of a key, if both were read. -/
def push (c : Option Char) (rest : Option (Text × Text)) : Option (Text × Text) :=
  match c, rest with
  | some c, some (key, left) => some (c :: key, left)
  | _, _ => none

/-- The key up to the closing quote, and what follows the quote. -/
def quotedKey? : Text → Option (Text × Text)
  | '"' :: t => some ([], t)
  | '\\' :: 'x' :: a :: b :: t => push (codePoint? [a, b]) (quotedKey? t)
  | '\\' :: 'u' :: a :: b :: c :: d :: t => push (codePoint? [a, b, c, d]) (quotedKey? t)
  | '\\' :: 'U' :: a :: b :: c :: d :: e :: f :: g :: h :: t =>
    push (codePoint? [a, b, c, d, e, f, g, h]) (quotedKey? t)
  | '\\' :: c :: t => push (escape? c) (quotedKey? t)
  | c :: t => if isPrintable c then push (some c) (quotedKey? t) else none
  | [] => none

/-- The key up to the closing apostrophe, and what follows the apostrophe. -/
def literalKey? (t : Text) : Option (Text × Text) :=
  match Text.splitFirst '\'' t with
  | (key, some left) => if key.all isPrintable then some (key, left) else none
  | (_, none) => none

/-- The key at the front of a line, and what follows it. -/
def key? : Text → Option (Text × Text)
  | '"' :: t => quotedKey? t
  | '\'' :: t => literalKey? t
  | t => if (t.takeWhile isBare).isEmpty then none else some (t.takeWhile isBare, t.dropWhile isBare)

/-! ## Numbers -/

/-- The digits of a number with underscores between them. -/
def digits? (isDigit : Char → Bool) : Text → Option Text
  | [] => none
  | [c] => if isDigit c then some [c] else none
  | c :: '_' :: t => if isDigit c then (digits? isDigit t).map (c :: ·) else none
  | c :: t => if isDigit c then (digits? isDigit t).map (c :: ·) else none

/-- One or more digits of a base, with single underscores between them. -/
def natural? (base : Nat) (isDigit : Char → Bool) (t : Text) : Option Nat :=
  (digits? isDigit t).map (valueIn base)

/-- A decimal number. Only zero itself begins with a zero. -/
def decimal? : Text → Option Nat
  | ['0'] => some 0
  | '0' :: _ => none
  | t => natural? 10 Char.isDigit t

/-- A whole number: hexadecimal, octal or binary after a prefix, otherwise decimal with a sign or
none. -/
def integer? : Text → Option Int
  | '0' :: 'x' :: t => (natural? 16 isHexDigit t).map Int.ofNat
  | '0' :: 'o' :: t => (natural? 8 (fun c => '0' ≤ c && c ≤ '7') t).map Int.ofNat
  | '0' :: 'b' :: t => (natural? 2 (fun c => c == '0' || c == '1') t).map Int.ofNat
  | '-' :: t => (decimal? t).map fun n => -(n : Int)
  | '+' :: t => (decimal? t).map Int.ofNat
  | t => (decimal? t).map Int.ofNat

/-! ## Lines -/

/-- The assignment after the key: an equals sign and a number. -/
def value? (t : Text) : Option Int :=
  match skipBlanks t with
  | '=' :: t =>
    let t := skipBlanks t
    let isEnd := fun c => isBlank c || c == '#'
    if isOver (t.dropWhile (!isEnd ·)) then integer? (t.takeWhile (!isEnd ·)) else none
  | _ => none

/-- The assignments of a line: at most one, and none if the line is blank or a comment. -/
def line? (t : Text) : Option (List (Text × Int)) :=
  if isOver t then some []
  else match key? (skipBlanks t) with
    | some (key, left) => (value? left).map fun v => [(key, v)]
    | none => none

/-- The assignments of lines in order, if every line is one or nothing. -/
def assignments? : List Text → Option (List (Text × Int))
  | [] => some []
  | l :: ls =>
    match line? l, assignments? ls with
    | some a, some as => some (a ++ as)
    | _, _ => none

/-- The assignments of a text in order. A byte order mark at the front counts for nothing. -/
def read? : Text → Option (List (Text × Int))
  | '\uFEFF' :: t => assignments? (lines t)
  | t => assignments? (lines t)

end MessageTemplate.Settings
