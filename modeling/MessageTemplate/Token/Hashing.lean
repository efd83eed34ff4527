import Mathlib.Data.List.Basic
import MessageTemplate.Text.Offset
import MessageTemplate.Token

/-!
# Hashing tokens

What a hasher is fed with for a token. Every alternative is fed as a number and every text as its
bytes with a byte behind them that occurs in no text, so the key of a token can be read off what is
fed.

* `HashInput`: what a hasher takes. `Text.fed`, `Text.fed?`, `Token.Key.fed`, `Token.fed`: what it is
  fed with.
* `Text.fed_append_inj`: where a text ends.
* **`Token.Key.fed_injective`**: different keys are fed differently.
-/

namespace MessageTemplate

/-- What a hasher takes. -/
inductive HashInput where
  /-- The number of an alternative. -/
  | alternative (n : Nat)
  | byte (b : UInt8)
  deriving Repr, DecidableEq

namespace Text

/-- The byte behind a text. -/
def terminator : HashInput := .byte 0xFF

/-- A text is fed as its bytes and the terminator. -/
def fed (t : Text) : List HashInput := (utf8 t).map .byte ++ [terminator]

theorem terminator_notMem (t : Text) : terminator ∉ (utf8 t).map .byte := by
  intro h
  obtain ⟨b, hb, heq⟩ := List.mem_map.1 h
  cases heq
  exact last_notMem_utf8 t hb

theorem fed_append_inj {a b : Text} {r s : List HashInput} (h : fed a ++ r = fed b ++ s) :
    a = b ∧ r = s := by
  rw [fed, fed, List.append_assoc, List.append_assoc] at h
  have hlength := congrArg (List.idxOf terminator) h
  rw [List.idxOf_append_of_notMem (terminator_notMem a),
    List.idxOf_append_of_notMem (terminator_notMem b)] at hlength
  simp only [List.singleton_append, List.idxOf_cons_self, Nat.add_zero] at hlength
  obtain ⟨hbytes, hrest⟩ := List.append_inj h hlength
  have hutf8 := List.map_inj_right (fun _ _ => HashInput.byte.inj) |>.1 hbytes
  exact ⟨utf8_injective hutf8, (List.cons.inj hrest).2⟩

theorem fed_injective {a b : Text} (h : fed a = fed b) : a = b :=
  (fed_append_inj (congrArg (· ++ []) h)).1

/-- A text that there need not be. The two cases are numbered. -/
def fed? : Option Text → List HashInput
  | none => [.alternative 0]
  | some t => .alternative 1 :: fed t

theorem fed?_injective {a b : Option Text} (h : fed? a = fed? b) : a = b := by
  cases a with
  | none =>
    cases b with
    | none => rfl
    | some t => cases h
  | some s =>
    cases b with
    | none => cases h
    | some t => rw [fed_injective (List.cons.inj h).2]

end Text

namespace Token

/-- Texts and tags are numbered. -/
def Key.fed : Key → List HashInput
  | .text m w => .alternative 0 :: (Text.fed m ++ Text.fed? w)
  | .name n => .alternative 1 :: Text.fed n

/-- What a hasher is fed with for a token. -/
def fed (t : Token) : List HashInput := t.key.fed

/-- **Different keys are fed differently.** -/
theorem Key.fed_injective {k l : Key} (h : k.fed = l.fed) : k = l := by
  cases k with
  | text m w =>
    cases l with
    | text m' w' =>
      obtain ⟨rfl, hw⟩ := Text.fed_append_inj (List.cons.inj h).2
      rw [Text.fed?_injective hw]
    | name n' => cases (List.cons.inj h).1
  | name n =>
    cases l with
    | text m' w' => cases (List.cons.inj h).1
    | name n' => rw [Text.fed_injective (List.cons.inj h).2]

end Token

end MessageTemplate
