import MessageTemplate.Alignment
import MessageTemplate.Text.Basic

/-!
# Renderings

A rendering is what is sent to a sink: the writes in order, up to the end or up to a failure.

* `Write`: a text, or a run of one character, which goes to a sink in pieces.
* `Rendering.append`: one rendering after another; nothing follows a failure.
* `Rendering.content`: the text that a sink without limits receives.
* `Rendering.concat`: renderings one after another. **`Rendering.concatText?_eq`**: their text can be
  had without making all of them at once. `Rendering.concat_append_cons`: nothing follows a failure.
* `Rendering.pad`: a text padded to a column. `Rendering.content_pad`: it stands in its column.
* `Rendering.align`: a rendering padded to a column. A failure is then found before anything is
  written.
-/

namespace MessageTemplate

/-- One request to a sink. -/
inductive Write where
  /-- A text. -/
  | text (t : Text)
  /-- The character `c`, `n` times. -/
  | fill (c : Char) (n : Nat)
  deriving Repr, DecidableEq

namespace Write

/-- The length of the pieces of a run, in characters. -/
def pieceLength : Nat := 32

/-- The text of a request. -/
def content : Write → Text
  | text t => t
  | fill c n => List.replicate n c

/-- The number of bytes that a request asks for. -/
def byteLength : Write → Nat
  | text t => t.byteLength
  | fill c n => n * c.utf8Size

theorem byteLength_content (w : Write) : Text.byteLength w.content = w.byteLength := by
  cases w with
  | text t => rfl
  | fill c n => exact Text.byteLength_replicate n c

end Write

/-- Writes in order, and whether they went through to the end. -/
structure Rendering where
  writes : List Write
  complete : Bool
  deriving Repr, DecidableEq

namespace Rendering

/-- Nothing at all. -/
def empty : Rendering := ⟨[], true⟩

/-- A single text. -/
def ofText (t : Text) : Rendering := ⟨[.text t], true⟩

/-- A single character. -/
def ofChar (c : Char) : Rendering := ofText [c]

/-- A failure before anything is written. -/
def failure : Rendering := ⟨[], false⟩

/-- One rendering after another, unless the first one fails. -/
def append (r s : Rendering) : Rendering :=
  if r.complete then ⟨r.writes ++ s.writes, s.complete⟩ else r

instance : Append Rendering := ⟨append⟩

/-- The text that is written. -/
def content (r : Rendering) : Text := r.writes.flatMap Write.content

/-- The text that is written, unless there is a failure. -/
def text? (r : Rendering) : Option Text := if r.complete then some r.content else none

/-- Pad a text to a column. -/
def pad (a : Alignment) (t : Text) : Rendering :=
  match a.side with
  | .left => ⟨[.text t, .fill ' ' (a.padding t.length)], true⟩
  | .right => ⟨[.fill ' ' (a.padding t.length), .text t], true⟩

/-- Pad what is written to a column; if there is a failure, write nothing. -/
def align (a : Alignment) (r : Rendering) : Rendering :=
  match r.text? with
  | some t => pad a t
  | none => failure

/-- Renderings one after another, up to the first failure. -/
def concat (rs : List Rendering) : Rendering := rs.foldr (· ++ ·) empty

/-- The text of renderings one after another, unless one of them fails. None that follows a failure
is made. -/
def concatText? {α : Type} (render : α → Rendering) (as : List α) : Option Text :=
  (as.mapM fun a => (render a).text?).map List.flatten

theorem append_def (r s : Rendering) :
    r ++ s = if r.complete then ⟨r.writes ++ s.writes, s.complete⟩ else r := rfl

@[simp] theorem content_empty : empty.content = [] := rfl

@[simp] theorem content_ofText (t : Text) : (ofText t).content = t := by
  simp [ofText, content, Write.content]

theorem content_append (r s : Rendering) :
    (r ++ s).content = if r.complete then r.content ++ s.content else r.content := by
  rw [append_def]
  split <;> simp [content]

theorem complete_append (r s : Rendering) :
    (r ++ s).complete = (r.complete && s.complete) := by
  rw [append_def]
  split <;> simp_all

theorem text?_append (r s : Rendering) :
    (r ++ s).text? = r.text?.bind fun t => s.text?.map (t ++ ·) := by
  unfold text?
  rw [complete_append, content_append]
  cases r.complete <;> cases s.complete <;> rfl

theorem text?_ofText (t : Text) : (ofText t).text? = some t :=
  congrArg some (content_ofText t)

theorem text?_ofChar (c : Char) : (ofChar c).text? = some [c] := rfl

theorem text?_append_eq_some {r s : Rendering} {a b : Text} (hr : r.text? = some a)
    (hs : s.text? = some b) : (r ++ s).text? = some (a ++ b) := by
  rw [text?_append, hr, hs]
  rfl

theorem concat_cons (r : Rendering) (rs : List Rendering) : concat (r :: rs) = r ++ concat rs := rfl

/-- **Renderings that are made one by one have the text of one that is made as a whole.** -/
theorem concatText?_eq {α : Type} (render : α → Rendering) (as : List α) :
    concatText? render as = (concat (as.map render)).text? := by
  induction as with
  | nil => rfl
  | cons a as ih =>
    rw [List.map_cons, concat_cons, text?_append, ← ih, concatText?, concatText?, List.mapM_cons]
    cases (render a).text? with
    | none => rfl
    | some t => cases as.mapM fun a => (render a).text? <;> rfl

theorem complete_concat (rs : List Rendering) : (concat rs).complete = rs.all (·.complete) := by
  induction rs with
  | nil => rfl
  | cons r rs ih => rw [concat_cons, complete_append, ih, List.all_cons]

theorem text?_concat_map {α : Type} {render : α → Rendering} {text : α → Text}
    (h : ∀ a, (render a).text? = some (text a)) (as : List α) :
    (concat (as.map render)).text? = some (as.flatMap text) := by
  induction as with
  | nil => rfl
  | cons a as ih => exact text?_append_eq_some (h a) ih

/-- **Nothing follows a failure.** -/
theorem concat_append_cons {r : Rendering} (h : r.complete = false) (rs ss : List Rendering) :
    concat (rs ++ r :: ss) = concat (rs ++ [r]) := by
  induction rs with
  | nil => simp [concat_cons, append_def, h]
  | cons r' rs ih => rw [List.cons_append, List.cons_append, concat_cons, concat_cons, ih]

theorem content_concat {rs : List Rendering} (h : ∀ r ∈ rs, r.complete = true) :
    (concat rs).content = rs.flatMap content := by
  induction rs with
  | nil => rfl
  | cons r rs ih =>
    rw [concat_cons, content_append, h r List.mem_cons_self,
      ih fun r' hr' => h r' (List.mem_cons_of_mem _ hr')]
    rfl

theorem content_pad (a : Alignment) (t : Text) : (pad a t).content = a.place t := by
  unfold pad Alignment.place
  cases a.side <;> simp [content, Write.content]

end Rendering

end MessageTemplate
