import MessageTemplate.Error
import MessageTemplate.Rendering

/-!
# Writers

A writer is offered one text after another, and may refuse any of them. A rendering is written up to
the first text that is refused.

* `TextWriter`: whatever takes or refuses a text.
* `TextWriter.put`: a request; a run of one character is written in pieces.
* `TextWriter.receive`: a rendering, up to the first text that is refused.
* `TextWriter.receiveEach`: renderings one after another, none of which is made before it is due.
  **`TextWriter.receiveEach_eq`**: that is as good as making them all at once.
* `TextWriter.Composes`: a relation that holds of a text in parts if it holds of the parts.
  **`TextWriter.Composes.putAll`**: it then holds of a text in any division.
* `TextWriter.Forwards`: a map that carries on what is offered.
  **`TextWriter.Forwards.receiveEach`**: it carries on what is received.
* `AnyWriter`: a writer of whatever type. `AnyWriter.forwards_of`: its type makes no difference.
* `Recorder`: a writer with what it has taken. **`Recorder.exists_prefix_receive`**: that is always
  the front of a rendering.
-/

namespace MessageTemplate

universe u v

/-- What texts can be written to. -/
class TextWriter (σ : Type u) where
  /-- Take the text of a request as a whole, or refuse it. -/
  offer : σ → Write → σ × Bool

namespace TextWriter

variable {σ : Type u} [TextWriter σ]

/-- The character `c`, `n` times, in pieces that are not too long. -/
def putRun (s : σ) (c : Char) (n : Nat) : σ × Bool :=
  if n = 0 then (s, true)
  else match offer s (.fill c (min n Write.pieceLength)) with
    | (s, true) => putRun s c (n - min n Write.pieceLength)
    | refused => refused
termination_by n
decreasing_by
  simp only [Write.pieceLength]
  omega

/-- Write a request, a run of one character in pieces. -/
def put (s : σ) : Write → σ × Bool
  | .text t => offer s (.text t)
  | .fill c n => putRun s c n

/-- The texts of requests, up to the first one that is refused. -/
def putAll (s : σ) : List Write → σ × Bool
  | [] => (s, true)
  | w :: ws =>
    match put s w with
    | (s, true) => putAll s ws
    | refused => refused

/-- Take a rendering. It is an error if a text is refused or if a value fails. -/
def receive (s : σ) (r : Rendering) : σ × Except Error Unit :=
  let (s, taken) := putAll s r.writes
  (s, if taken && r.complete then .ok () else .error .rejectedWrite)

/-- Take the renderings of the members of a list, up to the first error. -/
def receiveEach {α : Type} (render : α → Rendering) (s : σ) : List α → σ × Except Error Unit
  | [] => (s, .ok ())
  | a :: as =>
    match receive s (render a) with
    | (s, .ok ()) => receiveEach render s as
    | failed => failed

theorem putAll_append (s : σ) (vs ws : List Write) :
    putAll s (vs ++ ws) =
      match putAll s vs with
      | (s, true) => putAll s ws
      | refused => refused := by
  induction vs generalizing s with
  | nil => rfl
  | cons v vs ih =>
    rw [List.cons_append, putAll, putAll]
    rcases put s v with ⟨s', _ | _⟩
    · rfl
    · exact ih s'

theorem receive_append (s : σ) (r r' : Rendering) :
    receive s (r ++ r') =
      match receive s r with
      | (s, .ok ()) => receive s r'
      | failed => failed := by
  rw [Rendering.append_def]
  unfold receive
  cases hc : r.complete
  · simp [hc]
  · simp only [if_true, putAll_append]
    rcases putAll s r.writes with ⟨s', _ | _⟩ <;> simp

/-- **Renderings that are made one by one are received like one that is made as a whole.** -/
theorem receiveEach_eq {α : Type} (render : α → Rendering) (s : σ) (as : List α) :
    receiveEach render s as = receive s (.concat (as.map render)) := by
  induction as generalizing s with
  | nil => rfl
  | cons a as ih =>
    rw [receiveEach, List.map_cons, Rendering.concat_cons, receive_append]
    split
    · exact ih _
    · rfl

theorem receive_eq_ok_iff {s : σ} {r : Rendering} :
    (receive s r).2 = .ok () ↔ (putAll s r.writes).2 = true ∧ r.complete = true := by
  rw [← Bool.and_eq_true]
  show (if (putAll s r.writes).2 && r.complete then _ else _) = _ ↔ _
  split <;> simp_all

theorem eq_rejectedWrite_of_receive {s : σ} {r : Rendering} {e : Error}
    (h : (receive s r).2 = .error e) : e = .rejectedWrite := by
  simp only [receive] at h
  split at h
  · cases h
  · exact (Except.error.inj h).symm

/-! ## Texts in parts -/

/-- A relation between a writer, a text and what comes of writing it that follows the parts of the
text. The second part is due only if the first one was taken. -/
structure Composes (P : σ → Text → σ × Bool → Prop) : Prop where
  nil : ∀ s, P s [] (s, true)
  offer : ∀ s w, P s w.content (offer s w)
  append : ∀ {s s' a b r}, P s a (s', true) → P s' b r → P s (a ++ b) r
  refused : ∀ {s s' a} b, P s a (s', false) → P s (a ++ b) (s', false)

namespace Composes

variable {P : σ → Text → σ × Bool → Prop}

theorem putRun (h : Composes P) (s : σ) (c : Char) (n : Nat) :
    P s (List.replicate n c) (putRun s c n) := by
  have hpieces (n : Nat) : List.replicate n c =
      List.replicate (min n Write.pieceLength) c ++
        List.replicate (n - min n Write.pieceLength) c := by
    rw [List.replicate_append_replicate, Nat.add_sub_cancel' (Nat.min_le_left _ _)]
  fun_induction TextWriter.putRun s c n with
  | case1 s => exact h.nil s
  | case2 s n hn s' hpiece ih =>
    have hfirst := h.offer s (.fill c (min n Write.pieceLength))
    rw [hpiece] at hfirst
    rw [hpieces n]
    exact h.append hfirst ih
  | case3 s n hn hpiece =>
    have hfirst := h.offer s (.fill c (min n Write.pieceLength))
    rcases ho : TextWriter.offer s (.fill c (min n Write.pieceLength)) with ⟨s', _ | _⟩
    · rw [ho] at hfirst
      rw [hpieces n]
      exact h.refused _ hfirst
    · exact absurd ho (hpiece s')

theorem put (h : Composes P) (s : σ) (w : Write) : P s w.content (put s w) := by
  cases w with
  | text t => exact h.offer s (.text t)
  | fill c n => exact h.putRun s c n

/-- **How a text is divided into requests makes no difference.** -/
theorem putAll (h : Composes P) (s : σ) (ws : List Write) :
    P s (ws.flatMap Write.content) (putAll s ws) := by
  induction ws generalizing s with
  | nil => exact h.nil s
  | cons w ws ih =>
    have hfirst := h.put s w
    rw [TextWriter.putAll, List.flatMap_cons]
    rcases hput : TextWriter.put s w with ⟨s', _ | _⟩ <;> rw [hput] at hfirst
    · exact h.refused _ hfirst
    · exact h.append hfirst (ih s')

theorem writes (h : Composes P) (s : σ) (r : Rendering) :
    P s r.content (TextWriter.putAll s r.writes) :=
  h.putAll s r.writes

end Composes

/-! ## Maps between writers -/

variable {τ : Type v} [TextWriter τ]

/-- What is offered to `f s` is decided upon by `s`. -/
def Forwards (f : σ → τ) : Prop := ∀ s w, offer (f s) w = Prod.map f id (offer s w)

namespace Forwards

variable {f : σ → τ}

theorem putRun (h : Forwards f) (s : σ) (c : Char) (n : Nat) :
    putRun (f s) c n = Prod.map f id (putRun s c n) := by
  fun_induction TextWriter.putRun s c n with
  | case1 s => rw [TextWriter.putRun, if_pos rfl]; rfl
  | case2 s n hn s' hpiece ih =>
    rw [TextWriter.putRun, if_neg hn, h, hpiece]
    exact ih
  | case3 s n hn hpiece =>
    rw [TextWriter.putRun, if_neg hn, h]
    rcases ho : offer s (.fill c (min n Write.pieceLength)) with ⟨s', _ | _⟩
    · rfl
    · exact absurd ho (hpiece s')

theorem put (h : Forwards f) (s : σ) (w : Write) : put (f s) w = Prod.map f id (put s w) := by
  cases w with
  | text t => exact h s (.text t)
  | fill c n => exact h.putRun s c n

theorem putAll (h : Forwards f) (s : σ) (ws : List Write) :
    putAll (f s) ws = Prod.map f id (putAll s ws) := by
  induction ws generalizing s with
  | nil => rfl
  | cons w ws ih =>
    rw [TextWriter.putAll, TextWriter.putAll, h.put]
    rcases TextWriter.put s w with ⟨s', _ | _⟩
    · rfl
    · exact ih s'

theorem receive (h : Forwards f) (s : σ) (r : Rendering) :
    receive (f s) r = Prod.map f id (receive s r) := by
  rw [TextWriter.receive, h.putAll]
  rfl

/-- **Whoever carries on what is offered carries on what is received.** -/
theorem receiveEach {α : Type} (h : Forwards f) (render : α → Rendering) (s : σ) (as : List α) :
    receiveEach render (f s) as = Prod.map f id (receiveEach render s as) := by
  rw [receiveEach_eq, receiveEach_eq, h.receive]

end Forwards

end TextWriter

open TextWriter

/-! ## Writers of any type -/

/-- A writer of which only the way it decides is known. -/
structure AnyWriter where
  {State : Type}
  [writer : TextWriter State]
  state : State

namespace AnyWriter

/-- A writer with its type concealed. -/
def of {σ : Type} [TextWriter σ] (s : σ) : AnyWriter := ⟨s⟩

instance : TextWriter AnyWriter where
  offer s w := Prod.map (@AnyWriter.mk s.State s.writer) id (s.writer.offer s.state w)

theorem forwards_of {σ : Type} [TextWriter σ] : Forwards (@of σ _) := fun _ _ => rfl

end AnyWriter

/-! ## Recorders -/

/-- A writer with what it has taken. -/
structure Recorder (σ : Type u) where
  writer : σ
  text : Text := []

namespace Recorder

variable {σ : Type u} [TextWriter σ]

instance : TextWriter (Recorder σ) where
  offer s w :=
    let (writer, taken) := offer s.writer w
    (⟨writer, if taken then s.text ++ w.content else s.text⟩, taken)

theorem forwards_writer : Forwards fun s : Recorder σ => s.writer := fun _ _ => rfl

/-- The writer has taken the front of the text `a`, and all of it unless a part was refused. -/
def Gains (s : Recorder σ) (a : Text) (r : Recorder σ × Bool) : Prop :=
  ∃ g, g <+: a ∧ r.1.text = s.text ++ g ∧ (r.2 = true → g = a)

theorem composes_gains : Composes (@Gains σ) where
  nil s := ⟨[], List.prefix_rfl, (List.append_nil _).symm, fun _ => rfl⟩
  offer s w := by
    simp only [Gains, TextWriter.offer]
    cases (TextWriter.offer s.writer w).2
    · exact ⟨[], List.nil_prefix, (List.append_nil _).symm, nofun⟩
    · exact ⟨w.content, List.prefix_rfl, rfl, fun _ => rfl⟩
  append := by
    rintro s s' a b r ⟨g, -, htext, hall⟩ ⟨g', hprefix, htext', hall'⟩
    obtain rfl := hall rfl
    refine ⟨g ++ g', (List.prefix_append_right_inj g).2 hprefix, ?_, fun hr => by rw [hall' hr]⟩
    rw [htext', ← List.append_assoc]
    exact congrArg (· ++ g') htext
  refused := by
    rintro s s' a b ⟨g, hprefix, htext, -⟩
    exact ⟨g, hprefix.trans (List.prefix_append a b), htext, nofun⟩

/-- **What a writer takes of a rendering is the front of it**, and it is all of it if the rendering
goes through. -/
theorem exists_prefix_receive (s : Recorder σ) (r : Rendering) :
    ∃ g, g <+: r.content ∧ (receive s r).1.text = s.text ++ g ∧
      ((putAll s r.writes).2 = true → g = r.content) :=
  composes_gains.writes s r

end Recorder

end MessageTemplate
