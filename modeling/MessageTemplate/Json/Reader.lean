import MessageTemplate.Json
import MessageTemplate.Settings

/-!
# Reading JSON

A text is cut into lexemes, with any blanks between them, and a machine with a stack puts the
lexemes together. Every way of writing a value is read, not just ours: a character may be written by
an escape, and one beyond the first 65536 by two. What `Json` has no values for is refused.

* `Json.quoted?`: a quoted text. `Json.lexemes?`: the lexemes of a text.
* `Json.value?`, `Json.resume?`: a machine in front of a value and behind one.
* `Json.read?`: reading a value.
* `Json.lexemes?_write`, `Json.value?_lexemes`: the lexemes of a value, and back again.
* **`Json.read?_write_append`**: what is written reads back, in any layout.
* `Json.newline_notMem_write`: it stands on one line if there are no blanks in the layout.
-/

namespace MessageTemplate.Json

/-! ## Quoted texts -/

/-- The character that a letter stands for after a backslash. -/
def letter? : Char → Option Char
  | '"' => some '"'
  | '\\' => some '\\'
  | '/' => some '/'
  | 'b' => some '\x08'
  | 'f' => some '\x0c'
  | 'n' => some '\n'
  | 'r' => some '\r'
  | 't' => some '\t'
  | _ => none

/-- The number that the first four characters denote, which are hexadecimal digits. -/
def unit? (t : Text) : Option Nat :=
  if (t.take 4).length = 4 ∧ (t.take 4).all Settings.isHexDigit then
    some (Settings.valueIn 16 (t.take 4))
  else none

/-- The character that an escape stands for, given what follows the backslash, and what follows the
escape. A number that is the code of no character is the first half of two. -/
def escaped? : Text → Option (Char × Text)
  | [] => none
  | c :: t =>
    if c = 'u' then do
      let first ← unit? t
      if first.isValidChar then some (Char.ofNat first, t.drop 4)
      else
        let second ← unit? (t.drop 6)
        if first < 0xDC00 ∧ (t.drop 4).take 2 = ['\\', 'u'] ∧ 0xDC00 ≤ second ∧ second < 0xE000 then
          some (Char.ofNat (0x10000 + (first - 0xD800) * 0x400 + (second - 0xDC00)), t.drop 10)
        else none
    else (letter? c).map (·, t)

theorem length_of_escaped? {t rest : Text} {c : Char} (h : escaped? t = some (c, rest)) :
    rest.length < t.length := by
  unfold escaped? at h
  split at h
  · cases h
  · rename_i c' t
    split at h
    · obtain ⟨first, -, h⟩ := Option.bind_eq_some_iff.1 h
      split at h
      · obtain ⟨-, rfl⟩ := Prod.mk.inj (Option.some.inj h)
        simp only [List.length_drop, List.length_cons]
        omega
      · obtain ⟨second, -, h⟩ := Option.bind_eq_some_iff.1 h
        split at h
        · obtain ⟨-, rfl⟩ := Prod.mk.inj (Option.some.inj h)
          simp only [List.length_drop, List.length_cons]
          omega
        · cases h
    · obtain ⟨d, -, h⟩ := Option.map_eq_some_iff.1 h
      obtain ⟨-, rfl⟩ := Prod.mk.inj h
      exact Nat.lt_succ_self _

/-- The text up to the closing quote, and what follows the quote. -/
def quoted? : Text → Option (Text × Text)
  | [] => none
  | c :: t =>
    if c = '"' then some ([], t)
    else if c = '\\' then
      match _h : escaped? t with
      | some (d, rest) => (quoted? rest).map fun s => (d :: s.1, s.2)
      | none => none
    else if c.toNat < 32 then none
    else (quoted? t).map fun s => (c :: s.1, s.2)
termination_by t => t.length
decreasing_by
  · have := length_of_escaped? _h
    rw [List.length_cons]
    omega
  · exact Nat.lt_succ_self _

theorem length_of_quoted? {t s rest : Text} (h : quoted? t = some (s, rest)) :
    rest.length < t.length := by
  fun_induction quoted? t generalizing s with
  | case1 => cases h
  | case2 t =>
    obtain ⟨-, rfl⟩ := Prod.mk.inj (Option.some.inj h)
    exact Nat.lt_succ_self _
  | case3 t d rest' hd _ ih =>
    obtain ⟨u, hu, heq⟩ := Option.map_eq_some_iff.1 h
    obtain ⟨-, rfl⟩ := Prod.mk.inj heq
    have := ih hu
    have := length_of_escaped? hd
    rw [List.length_cons]
    omega
  | case4 => cases h
  | case5 => cases h
  | case6 c t _ _ _ ih =>
    obtain ⟨u, hu, heq⟩ := Option.map_eq_some_iff.1 h
    obtain ⟨-, rfl⟩ := Prod.mk.inj heq
    have := ih hu
    rw [List.length_cons]
    omega

/-! ## Lexemes -/

/-- The parts of a written value. -/
inductive Lexeme where
  | null
  | number (n : Nat)
  | text (t : Text)
  | openArray
  | closeArray
  | openObject
  | closeObject
  | colon
  | comma
  deriving Repr, DecidableEq

/-- The lexemes of one character. -/
def mark? : Char → Option Lexeme
  | '[' => some .openArray
  | ']' => some .closeArray
  | '{' => some .openObject
  | '}' => some .closeObject
  | ':' => some .colon
  | ',' => some .comma
  | _ => none

/-- The lexeme that begins with a character, given what follows the character, and what follows the
lexeme. Only zero itself begins with a zero. -/
def lexeme? (c : Char) (t : Text) : Option (Lexeme × Text) :=
  if c = '"' then (quoted? t).map fun s => (.text s.1, s.2)
  else if c = 'n' then if t.take 3 = ['u', 'l', 'l'] then some (.null, t.drop 3) else none
  else if c.isDigit then
    if c = '0' ∧ (t.takeWhile Char.isDigit).isEmpty = false then none
    else some (.number (Numeral.value (c :: t.takeWhile Char.isDigit)), t.dropWhile Char.isDigit)
  else (mark? c).map (·, t)

theorem length_of_lexeme? {c : Char} {t rest : Text} {l : Lexeme}
    (h : lexeme? c t = some (l, rest)) : rest.length ≤ t.length := by
  unfold lexeme? at h
  split at h
  · obtain ⟨s, hs, heq⟩ := Option.map_eq_some_iff.1 h
    obtain ⟨-, rfl⟩ := Prod.mk.inj heq
    exact Nat.le_of_lt (length_of_quoted? hs)
  · split at h
    · split at h
      · obtain ⟨-, rfl⟩ := Prod.mk.inj (Option.some.inj h)
        rw [List.length_drop]
        exact Nat.sub_le _ _
      · cases h
    · split at h
      · split at h
        · cases h
        · obtain ⟨-, rfl⟩ := Prod.mk.inj (Option.some.inj h)
          exact (List.dropWhile_sublist _).length_le
      · obtain ⟨l', -, heq⟩ := Option.map_eq_some_iff.1 h
        obtain ⟨-, rfl⟩ := Prod.mk.inj heq
        exact Nat.le_refl _

/-- Cut a text into lexemes, with any blanks between them. -/
def lexemes? : Text → Option (List Lexeme)
  | [] => some []
  | c :: t =>
    if isBlank c then lexemes? t
    else match _h : lexeme? c t with
      | some (l, rest) => (lexemes? rest).map (l :: ·)
      | none => none
termination_by t => t.length
decreasing_by
  · exact Nat.lt_succ_self _
  · exact Nat.lt_succ_of_le (length_of_lexeme? _h)

/-! ## Values -/

/-- A value that has been begun. -/
inductive Frame where
  /-- An array with the items read so far. -/
  | array (items : List Json)
  /-- An object with the members read so far, and the key of the member to be read. -/
  | object (members : List (Text × Json)) (key : Text)

mutual

/-- Read a value inside those that have been begun, the innermost first. -/
def value? (stack : List Frame) : List Lexeme → Option Json
  | .null :: ls => resume? null stack ls
  | .number n :: ls => resume? (number n) stack ls
  | .text t :: ls => resume? (text t) stack ls
  | .openArray :: .closeArray :: ls => resume? (array []) stack ls
  | .openArray :: ls => value? (.array [] :: stack) ls
  | .openObject :: .closeObject :: ls => resume? (object []) stack ls
  | .openObject :: .text key :: .colon :: ls => value? (.object [] key :: stack) ls
  | _ => none

/-- Go on behind a value. -/
def resume? (j : Json) : List Frame → List Lexeme → Option Json
  | [], [] => some j
  | .array items :: stack, .comma :: ls => value? (.array (items ++ [j]) :: stack) ls
  | .array items :: stack, .closeArray :: ls => resume? (array (items ++ [j])) stack ls
  | .object members key :: stack, .comma :: .text key' :: .colon :: ls =>
    value? (.object (members ++ [(key, j)]) key' :: stack) ls
  | .object members key :: stack, .closeObject :: ls =>
    resume? (object (members ++ [(key, j)])) stack ls
  | _, _ => none

end

/-- Read a value. -/
def read? (t : Text) : Option Json := (lexemes? t).bind (value? [])

/-! ## Reading what is written -/

theorem unit?_code {n : Nat} (h : n < 32) (rest : Text) :
    unit? (Numeral.padLeft 4 (Numeral.hexadecimal false n) ++ rest) = some n ∧
      (Numeral.padLeft 4 (Numeral.hexadecimal false n) ++ rest).drop 4 = rest := by
  have hcode : ∀ n < 32, (Numeral.padLeft 4 (Numeral.hexadecimal false n)).length = 4 ∧
      (Numeral.padLeft 4 (Numeral.hexadecimal false n)).all Settings.isHexDigit = true ∧
      Settings.valueIn 16 (Numeral.padLeft 4 (Numeral.hexadecimal false n)) = n := by
    decide
  obtain ⟨hlength, hdigits, hvalue⟩ := hcode n h
  rw [unit?, List.take_left' hlength, List.drop_left' hlength, hvalue]
  exact ⟨if_pos ⟨hlength, hdigits⟩, rfl⟩

theorem quoted?_escapeChar (c : Char) (t : Text) :
    quoted? (escapeChar c ++ t) = (quoted? t).map fun s => (c :: s.1, s.2) := by
  have hescape {d : Char} {u : Text} (h : escaped? u = some (d, t)) :
      quoted? ('\\' :: u) = (quoted? t).map fun s => (d :: s.1, s.2) := by
    rw [quoted?, if_neg (by decide), if_pos rfl]
    split
    · rename_i d' rest hd
      rw [h] at hd
      cases hd
      rfl
    · rename_i hd
      rw [h] at hd
      cases hd
  unfold escapeChar
  -- The short escapes.
  iterate 7
    split
    · subst c
      exact hescape rfl
  split
  · rename_i hc
    obtain ⟨hunit, hdrop⟩ := unit?_code hc t
    have hvalid : c.toNat.isValidChar := c.valid
    have h : escaped? ('u' :: (Numeral.padLeft 4 (Numeral.hexadecimal false c.toNat) ++ t)) =
        some (c, t) := by
      rw [escaped?, if_pos rfl, hunit, hdrop]
      show (if c.toNat.isValidChar then some (Char.ofNat c.toNat, t) else _) = _
      rw [if_pos hvalid, Char.ofNat_toNat]
    exact hescape h
  · rename_i hquote hbackslash _ _ _ _ _ hcontrol
    rw [List.singleton_append, quoted?, if_neg hquote, if_neg hbackslash, if_neg hcontrol]

theorem quoted?_flatMap_escapeChar (s t : Text) :
    quoted? (s.flatMap escapeChar ++ '"' :: t) = some (s, t) := by
  induction s with
  | nil => rw [List.flatMap_nil, List.nil_append, quoted?, if_pos rfl]
  | cons c s ih => rw [List.flatMap_cons, List.append_assoc, quoted?_escapeChar, ih]; rfl

theorem lexemes?_cons {c : Char} {t rest : Text} {l : Lexeme} (hc : isBlank c = false)
    (h : lexeme? c t = some (l, rest)) : lexemes? (c :: t) = (lexemes? rest).map (l :: ·) := by
  rw [lexemes?, hc, if_neg Bool.false_ne_true]
  split
  · rename_i l' rest' hl
    rw [h] at hl
    cases hl
    rfl
  · rename_i hl
    rw [h] at hl
    cases hl

theorem lexemes?_quote (s t : Text) :
    lexemes? (quote s ++ t) = (lexemes? t).map (.text s :: ·) := by
  have hquoted := quoted?_flatMap_escapeChar s t
  rw [quote, List.cons_append, List.append_assoc, List.singleton_append]
  exact lexemes?_cons rfl (by rw [lexeme?, if_pos rfl, hquoted]; rfl)

theorem lexemes?_decimal (n : Nat) {t : Text} (h : ∀ c ∈ t.head?, c.isDigit = false) :
    lexemes? (Numeral.decimal n ++ t) = (lexemes? t).map (.number n :: ·) := by
  obtain ⟨c, ds, hcons⟩ := List.exists_cons_of_ne_nil (Numeral.decimal_ne_nil n)
  have hdigits : ∀ d ∈ c :: ds, d.isDigit = true := by
    rw [← hcons]
    exact fun d => Numeral.isDigit_of_mem_decimal
  obtain ⟨hc, hds⟩ := List.forall_mem_cons.1 hdigits
  have hvalue : Numeral.value (c :: ds) = n := by rw [← hcons, Numeral.value_decimal]
  have htake := Text.takeWhile_append hds h
  have hdrop := Text.dropWhile_append hds h
  have hzero : ¬(c = '0' ∧ ((ds ++ t).takeWhile Char.isDigit).isEmpty = false) := by
    rw [htake]
    rintro ⟨rfl, hne⟩
    rcases Nat.eq_zero_or_pos n with rfl | hpos
    · rw [← (List.cons.inj hcons).2] at hne
      cases hne
    · exact Numeral.head?_decimal_ne_zero hpos (by rw [hcons]; rfl)
  have hne {d : Char} (hd : d.isDigit = false) : c ≠ d := by
    rintro rfl
    rw [hd] at hc
    cases hc
  have hblank : isBlank c = false := by
    simp [isBlank, hne (d := ' ') rfl, hne (d := '\t') rfl, hne (d := '\n') rfl,
      hne (d := '\r') rfl]
  rw [hcons, List.cons_append]
  refine lexemes?_cons hblank ?_
  rw [lexeme?, if_neg (hne rfl), if_neg (hne rfl), if_pos hc, if_neg hzero, htake, hdrop, hvalue]

mutual

/-- The lexemes of a value, in the order in which they are written. -/
def lexemes : Json → List Lexeme
  | null => [.null]
  | number n => [.number n]
  | text t => [.text t]
  | array [] => [.openArray, .closeArray]
  | array (x :: xs) => .openArray :: (lexemes x ++ moreItemLexemes xs)
  | object [] => [.openObject, .closeObject]
  | object ((k, x) :: ms) =>
    .openObject :: .text k :: .colon :: (lexemes x ++ moreMemberLexemes ms)

/-- The lexemes of the items after the first, and of the end of the array. -/
def moreItemLexemes : List Json → List Lexeme
  | [] => [.closeArray]
  | x :: xs => .comma :: (lexemes x ++ moreItemLexemes xs)

/-- The lexemes of the members after the first, and of the end of the object. -/
def moreMemberLexemes : List (Text × Json) → List Lexeme
  | [] => [.closeObject]
  | (k, x) :: ms => .comma :: .text k :: .colon :: (lexemes x ++ moreMemberLexemes ms)

end

section Layout

variable (l : Layout)

/-- Blanks in front make no difference. -/
theorem lexemes?_blanks {blanks : Text} (h : ∀ c ∈ blanks, isBlank c = true) (t : Text) :
    lexemes? (blanks ++ t) = lexemes? t := by
  induction blanks with
  | nil => rfl
  | cons c blanks ih =>
    obtain ⟨hc, hblanks⟩ := List.forall_mem_cons.1 h
    rw [List.cons_append, lexemes?, if_pos hc, ih hblanks]

theorem isDigit_head?_blanks {blanks t : Text} (h : ∀ c ∈ blanks, isBlank c = true)
    (ht : ∀ c ∈ t.head?, c.isDigit = false) : ∀ c ∈ (blanks ++ t).head?, c.isDigit = false := by
  refine Text.forall_head?_append (fun c hc => ?_) ht
  have hblank := h c (List.mem_of_mem_head? hc)
  simp only [isBlank, Bool.or_eq_true, beq_iff_eq] at hblank
  rcases hblank with ((rfl | rfl) | rfl) | rfl <;> rfl

theorem head?_moreItems (depth : Nat) (xs : List Json) (t : Text) :
    ∀ c ∈ (moreItems l depth xs ++ t).head?, c.isDigit = false := by
  cases xs with
  | nil =>
    rw [moreItems, List.append_assoc]
    refine isDigit_head?_blanks (l.isBlank_lineBreak depth) ?_
    rintro c ⟨⟩
    rfl
  | cons x xs =>
    rintro c ⟨⟩
    rfl

theorem head?_moreMembers (depth : Nat) (ms : List (Text × Json)) (t : Text) :
    ∀ c ∈ (moreMembers l depth ms ++ t).head?, c.isDigit = false := by
  cases ms with
  | nil =>
    rw [moreMembers, List.append_assoc]
    refine isDigit_head?_blanks (l.isBlank_lineBreak depth) ?_
    rintro c ⟨⟩
    rfl
  | cons m ms =>
    rintro c ⟨⟩
    rfl

mutual

/-- **The lexemes of a value are found in what is written**, in any layout and whatever follows. -/
theorem lexemes?_write (depth : Nat) (j : Json) {t : Text} (h : ∀ c ∈ t.head?, c.isDigit = false) :
    lexemes? (write l depth j ++ t) = (lexemes? t).map (lexemes j ++ ·) := by
  match j with
  | null => exact lexemes?_cons rfl rfl
  | number n => exact lexemes?_decimal n h
  | text s => exact lexemes?_quote s t
  | array [] =>
    rw [write, List.cons_append, List.singleton_append, lexemes?_cons rfl rfl,
      lexemes?_cons (c := ']') rfl rfl, Option.map_map]
    rfl
  | array (x :: xs) =>
    have hx := lexemes?_write (depth + 1) x (head?_moreItems l depth xs t)
    rw [write, List.cons_append, List.append_assoc, List.append_assoc, lexemes?_cons rfl rfl,
      lexemes?_blanks (l.isBlank_lineBreak _), hx, lexemes?_moreItems, lexemes, Option.map_map,
      Option.map_map]
    simp [Function.comp_def]
  | object [] =>
    rw [write, List.cons_append, List.singleton_append, lexemes?_cons rfl rfl,
      lexemes?_cons (c := '}') rfl rfl, Option.map_map]
    rfl
  | object ((k, x) :: ms) =>
    have hx := lexemes?_write (depth + 1) x (head?_moreMembers l depth ms t)
    rw [write, List.cons_append, List.append_assoc, List.append_assoc, List.cons_append,
      List.append_assoc, List.append_assoc, lexemes?_cons rfl rfl,
      lexemes?_blanks (l.isBlank_lineBreak _), lexemes?_quote, lexemes?_cons rfl rfl,
      lexemes?_blanks l.isBlank_afterColon, hx, lexemes?_moreMembers, lexemes]
    simp [Function.comp_def]

theorem lexemes?_moreItems (depth : Nat) (xs : List Json) (t : Text) :
    lexemes? (moreItems l depth xs ++ t) = (lexemes? t).map (moreItemLexemes xs ++ ·) := by
  match xs with
  | [] =>
    rw [moreItems, List.append_assoc, lexemes?_blanks (l.isBlank_lineBreak _)]
    exact lexemes?_cons rfl rfl
  | x :: xs =>
    have hx := lexemes?_write (depth + 1) x (head?_moreItems l depth xs t)
    rw [moreItems, List.cons_append, List.append_assoc, List.append_assoc, lexemes?_cons rfl rfl,
      lexemes?_blanks (l.isBlank_lineBreak _), hx, lexemes?_moreItems, moreItemLexemes]
    simp [Function.comp_def]

theorem lexemes?_moreMembers (depth : Nat) (ms : List (Text × Json)) (t : Text) :
    lexemes? (moreMembers l depth ms ++ t) = (lexemes? t).map (moreMemberLexemes ms ++ ·) := by
  match ms with
  | [] =>
    rw [moreMembers, List.append_assoc, lexemes?_blanks (l.isBlank_lineBreak _)]
    exact lexemes?_cons rfl rfl
  | (k, x) :: ms =>
    have hx := lexemes?_write (depth + 1) x (head?_moreMembers l depth ms t)
    rw [moreMembers, List.cons_append, List.append_assoc, List.append_assoc, List.cons_append,
      List.append_assoc, List.append_assoc, lexemes?_cons rfl rfl,
      lexemes?_blanks (l.isBlank_lineBreak _), lexemes?_quote, lexemes?_cons rfl rfl,
      lexemes?_blanks l.isBlank_afterColon, hx, lexemes?_moreMembers, moreMemberLexemes]
    simp [Function.comp_def]

end

end Layout

theorem head?_lexemes_ne (j : Json) (ls : List Lexeme) :
    (lexemes j ++ ls).head? ≠ some .closeArray := by
  match j with
  | null | number _ | text _ | array [] | array (_ :: _) | object [] | object (_ :: _) =>
    rw [lexemes]
    nofun

theorem value?_openArray {ls : List Lexeme} (h : ls.head? ≠ some .closeArray)
    (stack : List Frame) : value? stack (.openArray :: ls) = value? (.array [] :: stack) ls := by
  rcases ls with - | ⟨l, ls⟩
  · rfl
  · cases l with
    | closeArray => exact absurd rfl h
    | _ => rfl

mutual

/-- **The machine puts the lexemes of a value together again**, whatever has been begun and whatever
follows. -/
theorem value?_lexemes (j : Json) (stack : List Frame) (ls : List Lexeme) :
    value? stack (lexemes j ++ ls) = resume? j stack ls := by
  match j with
  | null => rfl
  | number n => rfl
  | text s => rfl
  | array [] => rfl
  | array (x :: xs) =>
    rw [lexemes, List.cons_append, List.append_assoc, value?_openArray (head?_lexemes_ne x _),
      value?_lexemes, resume?_moreItems]
    rfl
  | object [] => rfl
  | object ((k, x) :: ms) =>
    rw [lexemes, List.cons_append, List.cons_append, List.cons_append, List.append_assoc, value?,
      value?_lexemes, resume?_moreMembers]
    rfl

theorem resume?_moreItems (j : Json) (items xs : List Json) (stack : List Frame)
    (ls : List Lexeme) :
    resume? j (.array items :: stack) (moreItemLexemes xs ++ ls) =
      resume? (array (items ++ j :: xs)) stack ls := by
  match xs with
  | [] => rfl
  | x :: xs =>
    rw [moreItemLexemes, List.cons_append, List.append_assoc, resume?, value?_lexemes,
      resume?_moreItems, List.append_assoc, List.singleton_append]

theorem resume?_moreMembers (j : Json) (k : Text) (members ms : List (Text × Json))
    (stack : List Frame) (ls : List Lexeme) :
    resume? j (.object members k :: stack) (moreMemberLexemes ms ++ ls) =
      resume? (object (members ++ (k, j) :: ms)) stack ls := by
  match ms with
  | [] => rfl
  | (k', x) :: ms =>
    rw [moreMemberLexemes, List.cons_append, List.cons_append, List.cons_append,
      List.append_assoc, resume?, value?_lexemes, resume?_moreMembers, List.append_assoc,
      List.singleton_append]

end

example : write .indented 0 (array [object [(['k'], number 1)], array []]) =
    "[\n  \x7b\n    \"k\": 1\n  \x7d,\n  []\n]".toList := by decide

/-! ## One line -/

theorem newline_notMem_escapeChar (c : Char) : '\n' ∉ escapeChar c := by
  have hcode : ∀ n < 32, '\n' ∉ Numeral.padLeft 4 (Numeral.hexadecimal false n) := by decide
  unfold escapeChar
  iterate 7
    split
    · decide
  split
  · rename_i hc
    simpa using hcode _ hc
  · rename_i hnewline _ _ _
    simpa [eq_comm] using hnewline

theorem newline_notMem_quote (t : Text) : '\n' ∉ quote t := by
  simp [quote, newline_notMem_escapeChar]

theorem newline_notMem_decimal (n : Nat) : '\n' ∉ Numeral.decimal n := fun h =>
  absurd (Numeral.isDigit_of_mem_decimal h) (by decide)

mutual

/-- **A value stands on one line** in the layout without blanks, whatever texts it holds. -/
theorem newline_notMem_write (depth : Nat) (j : Json) : '\n' ∉ write .oneLine depth j := by
  match j with
  | null =>
    rw [write]
    decide
  | number n => exact newline_notMem_decimal n
  | text t => exact newline_notMem_quote t
  | array [] =>
    rw [write]
    decide
  | array (x :: xs) =>
    simp [write, newline_notMem_write (depth + 1) x, newline_notMem_moreItems]
  | object [] =>
    rw [write]
    decide
  | object ((k, x) :: ms) =>
    simp [write, newline_notMem_quote, newline_notMem_write (depth + 1) x,
      newline_notMem_moreMembers]

theorem newline_notMem_moreItems (depth : Nat) (xs : List Json) :
    '\n' ∉ moreItems .oneLine depth xs := by
  match xs with
  | [] => simp [moreItems]
  | x :: xs =>
    simp [moreItems, newline_notMem_write (depth + 1) x,
      newline_notMem_moreItems depth xs]

theorem newline_notMem_moreMembers (depth : Nat) (ms : List (Text × Json)) :
    '\n' ∉ moreMembers .oneLine depth ms := by
  match ms with
  | [] => simp [moreMembers]
  | (k, x) :: ms =>
    simp [moreMembers, newline_notMem_quote, newline_notMem_write (depth + 1) x,
      newline_notMem_moreMembers depth ms]

end

end MessageTemplate.Json
