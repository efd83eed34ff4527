import MessageTemplate.Sink.Writer

/-!
# Text sinks

A text sink takes texts until the next one would exceed its limit in bytes. A text that is refused
leaves the sink as it is. What the sink gains of a rendering may depend on how the rendering is
divided into texts, but whether it gains all of it does not.

* `TextSink.hasRoom`: whether a text of so many bytes is taken.
* `TextSink.Fills`: how a text in any division fills a sink.
* **`TextSink.receive_eq_ok_iff`**: when a rendering is taken.
* **`TextSink.exists_prefix_receive`**: what a sink gains of a rendering.
-/

namespace MessageTemplate

/-- A sink for texts, which takes a text as a whole or not at all. -/
structure TextSink where
  /-- The number of bytes that it holds at most, if it is limited. -/
  limit : Option Nat
  /-- The requests that it has taken. -/
  held : Array Write := #[]
  size : Nat := 0
  deriving Repr, DecidableEq

namespace TextSink

open TextWriter

/-- All text that the sink has taken. -/
def text (s : TextSink) : Text := s.held.toList.flatMap Write.content

/-- Whether there is room for a number of bytes. -/
def hasRoom (s : TextSink) (n : Nat) : Bool := s.limit.all (s.size + n ≤ ·)

/-- The sink with more text. -/
def hold (s : TextSink) (w : Write) : TextSink :=
  { s with held := s.held.push w, size := s.size + w.byteLength }

instance : TextWriter TextSink where
  offer s w := if s.hasRoom w.byteLength then (s.hold w, true) else (s, false)

theorem offer_def (s : TextSink) (w : Write) :
    offer s w = if s.hasRoom w.byteLength then (s.hold w, true) else (s, false) := rfl

variable {s : TextSink}

theorem hasRoom_iff {n : Nat} : s.hasRoom n = true ↔ ∀ l, s.limit = some l → s.size + n ≤ l := by
  simp [hasRoom, Option.all_eq_true]

theorem hasRoom_of_limit_eq_none (h : s.limit = none) (n : Nat) : s.hasRoom n = true := by
  simp [hasRoom, h]

theorem hasRoom_mono {m n : Nat} (h : m ≤ n) (hn : s.hasRoom n = true) : s.hasRoom m = true := by
  rw [hasRoom_iff] at *
  intro l hl
  have := hn l hl
  omega

theorem text_hold (s : TextSink) (w : Write) : (s.hold w).text = s.text ++ w.content := by
  simp [hold, text]

/-! ## Whether a text is taken -/

/-- A sink within its limit takes the text `a` exactly if there is room for it, and then it has so
much less room. -/
structure Fills (s : TextSink) (a : Text) (r : TextSink × Bool) : Prop where
  limit_eq : r.1.limit = s.limit
  size_eq : r.2 = true → r.1.size = s.size + Text.byteLength a
  taken_iff : s.hasRoom 0 = true → (r.2 = true ↔ s.hasRoom (Text.byteLength a) = true)

theorem Fills.hasRoom_eq {s' : TextSink} {a : Text} (h : s.Fills a (s', true)) (n : Nat) :
    s'.hasRoom n = s.hasRoom (Text.byteLength a + n) := by
  have hlimit : s'.limit = s.limit := h.limit_eq
  have hsize : s'.size = s.size + Text.byteLength a := h.size_eq rfl
  rw [hasRoom, hasRoom, hlimit, hsize, Nat.add_assoc]

theorem composes_fills : Composes Fills where
  nil s := ⟨rfl, fun _ => rfl, fun h => ⟨fun _ => h, fun _ => rfl⟩⟩
  offer s w := by
    rw [offer_def, ← w.byteLength_content]
    split
    · rename_i hroom
      refine ⟨rfl, fun _ => ?_, fun _ => ⟨fun _ => hroom, fun _ => rfl⟩⟩
      rw [w.byteLength_content]
      rfl
    · rename_i hroom
      exact ⟨rfl, nofun, fun _ => ⟨nofun, fun h => absurd h hroom⟩⟩
  append {s s' a b r} h h' := by
    refine ⟨h'.limit_eq.trans h.limit_eq, fun hr => ?_, fun hwithin => ?_⟩
    · rw [h'.size_eq hr, h.size_eq rfl, Text.byteLength_append, Nat.add_assoc]
    · have hroom : s'.hasRoom 0 = true := by
        rw [h.hasRoom_eq, Nat.add_zero]
        exact (h.taken_iff hwithin).1 rfl
      rw [h'.taken_iff hroom, h.hasRoom_eq, Text.byteLength_append]
  refused {s s' a} b h := by
    refine ⟨h.limit_eq, nofun, fun hwithin => ⟨nofun, fun hroom => ?_⟩⟩
    refine (h.taken_iff hwithin).2 (hasRoom_mono ?_ hroom)
    rw [Text.byteLength_append]
    exact Nat.le_add_right _ _

/-- **A rendering is taken exactly if it is complete and there is room for all of it.** -/
theorem receive_eq_ok_iff (h : s.hasRoom 0 = true) (r : Rendering) :
    (receive s r).2 = .ok () ↔
      r.complete = true ∧ s.hasRoom (Text.byteLength r.content) = true := by
  rw [TextWriter.receive_eq_ok_iff, (composes_fills.writes s r).taken_iff h, and_comm]

/-! ## What is taken -/

theorem forwards_recorder : Forwards fun s : TextSink => Recorder.mk s s.text := by
  intro s w
  simp only [TextWriter.offer]
  split
  · rw [if_pos rfl, ← text_hold]
    rfl
  · rfl

/-- **What a sink gains of a rendering is the front of it.** It is all of it if the rendering is
taken, and also if the sink has no limit. -/
theorem exists_prefix_receive (s : TextSink) (r : Rendering) :
    ∃ g, g <+: r.content ∧ (receive s r).1.text = s.text ++ g ∧
      ((receive s r).2 = .ok () → g = r.content) ∧ (s.limit = none → g = r.content) := by
  obtain ⟨g, hprefix, htext, hall⟩ := Recorder.exists_prefix_receive ⟨s, s.text⟩ r
  rw [forwards_recorder.receive] at htext
  rw [forwards_recorder.putAll] at hall
  refine ⟨g, hprefix, htext, fun hok => hall (TextWriter.receive_eq_ok_iff.1 hok).1,
    fun hlimit => hall ?_⟩
  have hroom := hasRoom_of_limit_eq_none hlimit
  exact ((composes_fills.writes s r).taken_iff (hroom 0)).2 (hroom _)

end TextSink

end MessageTemplate
