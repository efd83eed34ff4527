import MessageTemplate.Cursor.Tag
import MessageTemplate.Token

/-!
# Reading templates by offsets

A template read through a cursor that jumps from brace to brace among the bytes of its UTF-8 form,
and cuts the tokens out of the text at byte offsets.

* `Cursor.nextBrace?`: the next brace. `Cursor.nextBrace?_bounds`: it lies between the cursor and
  the end.
* `Cursor.readText`, `Cursor.nextText`: literal text up to a single opening brace.
* `Cursor.nextTag`: the token that an opening brace begins.
* `Cursor.le_of_nextText`, **`Cursor.lt_of_nextTag`**: the cursor never goes back, and a tag moves
  it forward.
* `Cursor.tokens`: the tokens of a text.
-/

namespace MessageTemplate.Cursor

/-- The opening brace in UTF-8. -/
def openingByte : UInt8 := 0x7B

/-- The closing brace in UTF-8. -/
def closingByte : UInt8 := 0x7D

/-- A brace of either kind. No longer character has such a byte in its UTF-8 form. -/
def isBraceByte (b : UInt8) : Bool := b == openingByte || b == closingByte

/-- Where the next brace of either kind is, from an offset on. -/
def nextBrace? (t : Text) (pos : Nat) : Option Nat :=
  (((Text.utf8 t).drop pos).findIdx? isBraceByte).map (pos + ·)

theorem nextBrace?_bounds {t : Text} {pos brace : Nat} (h : nextBrace? t pos = some brace) :
    pos ≤ brace ∧ brace < t.byteLength := by
  obtain ⟨offset, ho, rfl⟩ := Option.map_eq_some_iff.1 h
  have hlt := (List.findIdx?_eq_some_iff_findIdx_eq.1 ho).1
  rw [List.length_drop] at hlt
  have : t.byteLength = (Text.utf8 t).length := rfl
  omega

/-- Read literal text from `pos` on. The result is what it stands for, after `text`, and where it
ends. The characters from `runStart` on are still to be copied. -/
def readText (t : Text) (pos runStart : Nat) (text : Text) : Except BadOffset (Text × Nat) :=
  match _h : nextBrace? t pos with
  | none => do return (text ++ (← t.sliceFrom runStart), t.byteLength)
  | some brace => do
    let run ← t.slice runStart brace
    match t.byteAt? brace with
    | none => .error ⟨brace⟩
    | some byte =>
      if t.byteAt? (brace + 1) = some byte then
        readText t (brace + 2) (brace + 2) (text ++ run ++ [Char.ofNat byte.toNat])
      else if byte = openingByte then return (text ++ run, brace)
      else readText t (brace + 1) (brace + 1) (text ++ run ++ [Char.ofNat byte.toNat])
termination_by t.byteLength - pos
decreasing_by all_goals have := nextBrace?_bounds _h; omega

/-- A text that keeps its written form if it has to. -/
def textToken (meaning written : Text) : Token :=
  .text meaning ((Token.keptForm meaning written).getD meaning)

/-- Read literal text. There may be none, and then there is no token. -/
def nextText (t : Text) (start : Nat) : Except BadOffset (Option Token × Nat) := do
  let (text, pos) ← readText t start start []
  if pos = start then return (none, pos)
  else return (some (textToken text (← t.slice start pos)), pos)

/-- Read what an opening brace begins. -/
def nextTag (t : Text) (first : Nat) : Except BadOffset (Token × Nat) := do
  let rest ← t.sliceFrom (first + 1)
  let scanned := ((rest.firstOffset? (!CharClass.isTag ·)).map (first + 1 + ·)).getD t.byteLength
  if t.byteAt? scanned = some closingByte then
    let written ← t.slice first (scanned + 1)
    let content ← t.slice (first + 1) scanned
    match ← readTag written content with
    | some tag => return (.tag tag, scanned + 1)
    | none => return (.verbatim written, scanned + 1)
  else return (.verbatim (← t.slice first scanned), scanned)

/-! ## Progress -/

theorem le_of_readText {t m text : Text} {pos runStart q : Nat}
    (h : readText t pos runStart text = .ok (m, q)) (hp : pos ≤ t.byteLength) :
    pos ≤ q ∧ q ≤ t.byteLength := by
  fun_induction readText t pos runStart text with
  | case1 pos runStart text hb =>
    obtain ⟨_, _, h⟩ := bind_eq_ok_iff.1 h
    cases h
    exact ⟨hp, Nat.le_refl _⟩
  | case2 pos runStart text brace hb ih₂ ih₁ =>
    have hbrace := nextBrace?_bounds hb
    obtain ⟨run, _, h⟩ := bind_eq_ok_iff.1 h
    split at h
    · cases h
    · split at h
      · -- the second brace of a doubled one also lies before the end
        rename_i hd
        have hlt := Text.lt_of_byteAt? hd
        have := ih₂ _ _ h (by omega)
        omega
      · split at h
        · cases h
          omega
        · have := ih₁ _ _ h (by omega)
          omega

theorem le_of_nextText {t : Text} {start q : Nat} {token : Option Token}
    (h : nextText t start = .ok (token, q)) (hs : start ≤ t.byteLength) :
    start ≤ q ∧ q ≤ t.byteLength := by
  obtain ⟨⟨m, p⟩, hread, h⟩ := bind_eq_ok_iff.1 h
  have hp := le_of_readText hread hs
  dsimp only at h
  split at h
  · cases h
    exact hp
  · obtain ⟨_, _, h⟩ := bind_eq_ok_iff.1 h
    cases h
    exact hp

/-- **A tag moves the cursor forward.** -/
theorem lt_of_nextTag {t : Text} {first q : Nat} {token : Token}
    (h : nextTag t first = .ok (token, q)) : first < q := by
  obtain ⟨rest, hrest, h⟩ := bind_eq_ok_iff.1 h
  have hfirst : first + 1 ≤ t.byteLength := Text.le_of_slice hrest
  have hscanned : first + 1 ≤
      ((rest.firstOffset? (!CharClass.isTag ·)).map (first + 1 + ·)).getD t.byteLength := by
    cases rest.firstOffset? (!CharClass.isTag ·) with
    | none => exact hfirst
    | some offset => exact Nat.le_add_right _ _
  revert h
  generalize ((rest.firstOffset? (!CharClass.isTag ·)).map (first + 1 + ·)).getD t.byteLength =
    scanned at hscanned
  intro h
  dsimp only at h
  split at h
  · obtain ⟨_, _, h⟩ := bind_eq_ok_iff.1 h
    obtain ⟨_, _, h⟩ := bind_eq_ok_iff.1 h
    obtain ⟨tag?, _, h⟩ := bind_eq_ok_iff.1 h
    cases tag? <;> cases h <;> omega
  · obtain ⟨_, _, h⟩ := bind_eq_ok_iff.1 h
    cases h
    omega

/-! ## All tokens -/

/-- Read text and tags in turn, from an offset to the end. -/
def tokensFrom (t : Text) (pos : Nat) : Except BadOffset (List Token) :=
  if _hpos : pos < t.byteLength then
    match _htext : nextText t pos with
    | .error e => .error e
    | .ok (text?, middle) =>
      if t.byteLength ≤ middle then return text?.toList
      else
        match _htag : nextTag t middle with
        | .error e => .error e
        | .ok (token, next) => do return text?.toList ++ token :: (← tokensFrom t next)
  else return []
termination_by t.byteLength - pos
decreasing_by
  have := le_of_nextText _htext (Nat.le_of_lt _hpos)
  have := lt_of_nextTag _htag
  omega

/-- The tokens of a text; the empty text is one token. -/
def tokens (t : Text) : Except BadOffset (List Token) :=
  if t.isEmpty then return [.verbatim []] else tokensFrom t 0

end MessageTemplate.Cursor
