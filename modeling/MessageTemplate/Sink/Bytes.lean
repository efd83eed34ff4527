import MessageTemplate.Error
import MessageTemplate.Rendering

/-!
# Byte sinks

A byte sink takes some of the bytes that it is given, and the rest has to be given again. It never
holds more bytes than its limit; once it is full it fails, or takes none.

* `ByteSink.offer`: one call, with the bytes that are taken and those that are left.
* `ByteSink.writeAll`: call after call until nothing is left. `ByteSink.put`: a request; a run of one
  character is written in pieces.
* `ByteSink.receive`: a rendering. A failing value and a failing sink are told apart.
* `ByteSink.receiveEach`: renderings one after another, none of which is made before it is due.
  **`ByteSink.receiveEach_eq`**: that is as good as making them all at once.
-/

namespace MessageTemplate

/-- What a full byte sink does with bytes. -/
inductive WhenFull where
  /-- It fails with an error of its own. -/
  | fail (e : SystemError := .sinkFull)
  | takeNone
  deriving Repr, DecidableEq

/-- A sink for bytes, which may take a few at a time and has an end. -/
structure ByteSink where
  /-- The number of bytes that it takes at once, if that is limited. -/
  step : Option Nat
  /-- The number of bytes that it holds at most, if it is limited. -/
  limit : Option Nat
  /-- What it does once it is full. -/
  whenFull : WhenFull
  held : Array UInt8 := #[]
  deriving Repr, DecidableEq

namespace ByteSink

/-- The first bytes up to a number, if there is one, and the others. -/
def splitAt (n : Option Nat) (bytes : List UInt8) : List UInt8 × List UInt8 :=
  match n with
  | none => (bytes, [])
  | some n => (bytes.take n, bytes.drop n)

/-- The number of bytes that one call takes at most. -/
def room (s : ByteSink) : Option Nat :=
  match s.step, s.limit with
  | step, none => step
  | none, some l => some (l - s.held.size)
  | some n, some l => some (min n (l - s.held.size))

/-- One call with bytes: those that are taken and those that are left. -/
def offer (s : ByteSink) (bytes : List UInt8) : Except SystemError (List UInt8 × List UInt8) :=
  match s.room, s.whenFull with
  | some 0, .fail e => .error e
  | n, _ => .ok (splitAt n bytes)

theorem append_of_offer {s : ByteSink} {bytes taken left : List UInt8}
    (h : s.offer bytes = .ok (taken, left)) : taken ++ left = bytes := by
  unfold offer at h
  split at h
  · simp at h
  · simp only [splitAt, Except.ok.injEq] at h
    split at h <;> cases h <;> simp

/-- Call after call until all bytes are taken, a call fails or a call takes nothing. -/
def writeAll (s : ByteSink) (bytes : List UInt8) : ByteSink × Except SystemError Unit :=
  if bytes.isEmpty then (s, .ok ())
  else match _h : s.offer bytes with
    | .error e => (s, .error e)
    | .ok ([], _) => (s, .error .nothingWritten)
    | .ok (b :: taken, left) => writeAll { s with held := s.held ++ (b :: taken) } left
termination_by bytes.length
decreasing_by
  have := congrArg List.length (append_of_offer _h)
  simp only [List.length_append, List.length_cons] at this
  omega

/-- The character `c`, `n` times, in pieces that are not too long. -/
def writeRun (s : ByteSink) (c : Char) (n : Nat) : ByteSink × Except SystemError Unit :=
  if n = 0 then (s, .ok ())
  else match s.writeAll (Text.utf8 (List.replicate (min n Write.pieceLength) c)) with
    | (s, .ok ()) => writeRun s c (n - min n Write.pieceLength)
    | failed => failed
termination_by n
decreasing_by
  simp only [Write.pieceLength]
  omega

/-- Write the bytes of a request. -/
def put (s : ByteSink) : Write → ByteSink × Except SystemError Unit
  | .text t => s.writeAll (Text.utf8 t)
  | .fill c n => s.writeRun c n

/-- The bytes of requests, up to the first failure. -/
def putAll (s : ByteSink) : List Write → ByteSink × Except SystemError Unit
  | [] => (s, .ok ())
  | w :: ws =>
    match s.put w with
    | (s, .ok ()) => putAll s ws
    | failed => failed

/-- Take a rendering. A failure of the sink is reported as such, and if the sink takes everything up
to a value that fails, the failure of the value is reported. -/
def receive (s : ByteSink) (r : Rendering) : ByteSink × Except Error Unit :=
  match s.putAll r.writes with
  | (s, .error e) => (s, .error (.system e))
  | (s, .ok ()) => (s, if r.complete then .ok () else .error .rejectedWrite)

/-- Take the renderings of the members of a list, up to the first failure. -/
def receiveEach {α : Type} (render : α → Rendering) (s : ByteSink) :
    List α → ByteSink × Except Error Unit
  | [] => (s, .ok ())
  | a :: as =>
    match s.receive (render a) with
    | (s, .ok ()) => receiveEach render s as
    | failed => failed

theorem putAll_append (s : ByteSink) (vs ws : List Write) :
    s.putAll (vs ++ ws) =
      match s.putAll vs with
      | (s, .ok ()) => s.putAll ws
      | failed => failed := by
  induction vs generalizing s with
  | nil => rfl
  | cons v vs ih =>
    rw [List.cons_append, putAll, putAll]
    rcases s.put v with ⟨s', _ | ⟨⟩⟩
    · rfl
    · exact ih s'

theorem receive_append (s : ByteSink) (r r' : Rendering) :
    s.receive (r ++ r') =
      match s.receive r with
      | (s, .ok ()) => s.receive r'
      | failed => failed := by
  rw [Rendering.append_def]
  unfold receive
  cases hc : r.complete
  · rcases h : s.putAll r.writes with ⟨s', _ | ⟨⟩⟩ <;> simp [h, hc]
  · simp only [if_true, putAll_append]
    rcases h : s.putAll r.writes with ⟨s', _ | ⟨⟩⟩ <;> simp

/-- **Renderings that are made one by one are received like one that is made as a whole.** -/
theorem receiveEach_eq {α : Type} (render : α → Rendering) (s : ByteSink) (as : List α) :
    s.receiveEach render as = s.receive (.concat (as.map render)) := by
  induction as generalizing s with
  | nil => rfl
  | cons a as ih =>
    rw [receiveEach, List.map_cons, Rendering.concat_cons, receive_append]
    split
    · exact ih _
    · rfl

end ByteSink

end MessageTemplate
