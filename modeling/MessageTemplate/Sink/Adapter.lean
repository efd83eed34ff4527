import MessageTemplate.Sink.Bytes

/-!
# Byte sinks for renderings

Whoever writes texts only learns whether they were taken. An adapter writes texts to a byte sink and
puts the failure of the sink aside, so that it can still be told from the failure of a value when
all is done.

* `Adapter.put`, `Adapter.putAll`, `Adapter.receive`, `Adapter.receiveEach`: a request, requests, a
  rendering, and renderings one after another. Each says whether all went well.
* `Adapter.outcome`: what went wrong.
* **`Adapter.outcome_receiveEach`**: the failure that was put aside is the right one.
-/

namespace MessageTemplate

/-- A byte sink, and its failure if there was one. -/
structure Adapter where
  sink : ByteSink
  failure : Option SystemError := none
  deriving Repr, DecidableEq

namespace Adapter

/-- Write a request. A failure of the sink is put aside. -/
def put (a : Adapter) (w : Write) : Adapter × Bool :=
  match a.sink.put w with
  | (s, .ok ()) => ({ a with sink := s }, true)
  | (s, .error e) => ({ sink := s, failure := some e }, false)

/-- Write requests, up to the first failure. -/
def putAll (a : Adapter) : List Write → Adapter × Bool
  | [] => (a, true)
  | w :: ws =>
    match a.put w with
    | (a, true) => putAll a ws
    | failed => failed

/-- Write a rendering. A value that fails looks the same as a sink that fails. -/
def receive (a : Adapter) (r : Rendering) : Adapter × Bool :=
  let (a, taken) := a.putAll r.writes
  (a, taken && r.complete)

/-- Write the renderings of the members of a list, up to the first failure. -/
def receiveEach {α : Type} (render : α → Rendering) (a : Adapter) : List α → Adapter × Bool
  | [] => (a, true)
  | x :: xs =>
    match a.receive (render x) with
    | (a, true) => receiveEach render a xs
    | failed => failed

/-- What went wrong: a failure that was put aside, or else a value. -/
def outcome (a : Adapter) (done : Bool) : Except Error Unit :=
  if done then .ok ()
  else match a.failure with
    | some e => .error (.system e)
    | none => .error .rejectedWrite

theorem putAll_eq (s : ByteSink) (ws : List Write) :
    putAll { sink := s } ws =
      match s.putAll ws with
      | (s, .ok ()) => ({ sink := s }, true)
      | (s, .error e) => ({ sink := s, failure := some e }, false) := by
  induction ws generalizing s with
  | nil => rfl
  | cons w ws ih =>
    rw [putAll, put, ByteSink.putAll]
    rcases s.put w with ⟨s', _ | ⟨⟩⟩
    · rfl
    · exact ih s'

theorem receive_eq (s : ByteSink) (r : Rendering) :
    receive { sink := s } r =
      match s.putAll r.writes with
      | (s, .ok ()) => ({ sink := s }, r.complete)
      | (s, .error e) => ({ sink := s, failure := some e }, false) := by
  rw [receive, putAll_eq]
  rcases s.putAll r.writes with ⟨s', _ | ⟨⟩⟩
  · rfl
  · simp

/-- **What was put aside tells the failures apart.** -/
theorem outcome_receiveEach {α : Type} (render : α → Rendering) (s : ByteSink) (xs : List α) :
    ((receiveEach render { sink := s } xs).1.sink,
      (receiveEach render { sink := s } xs).1.outcome (receiveEach render { sink := s } xs).2) =
      s.receiveEach render xs := by
  induction xs generalizing s with
  | nil => rfl
  | cons x xs ih =>
    rw [receiveEach, ByteSink.receiveEach, receive_eq, ByteSink.receive]
    rcases s.putAll (render x).writes with ⟨s', e | ⟨⟩⟩
    · rfl
    · -- nothing is put aside as long as the sink takes everything
      cases (render x).complete
      · rfl
      · exact ih s'

end Adapter

end MessageTemplate
