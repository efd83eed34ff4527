import MessageTemplate.Sink.Bytes

/-!
# What a byte sink takes

A byte sink that takes at least one byte at a time takes everything for which it has room. How many
bytes it takes at once makes no difference, nor how the bytes are divided into requests.

* `ByteSink.Moves`: no call takes nothing as long as there is room.
* `ByteSink.space`, `ByteSink.hasRoom`: how many bytes there is room for, and whether there is room
  for all of some bytes.
* `ByteSink.accept`: taking as many bytes as there is room for. `ByteSink.accept_append`: bytes in
  two parts.
* `ByteSink.writeAll_eq`, `ByteSink.putAll_eq`: what comes of call after call, and of request after
  request.
* **`ByteSink.receive_eq`**: what comes of a rendering.
* `ByteSink.receive_of_not_moves`: a sink that takes nothing at a time.
* **`ByteSink.exists_prefix_receive`**: what a sink gains of a rendering.
-/

namespace MessageTemplate

/-- What is reported if a full sink is given more bytes. -/
def WhenFull.cause : WhenFull → SystemError
  | fail e => e
  | takeNone => .nothingWritten

namespace ByteSink

/-- The sink takes at least one byte at a time. -/
def Moves (s : ByteSink) : Prop := ∀ n, s.step = some n → 0 < n

/-- The number of bytes for which there is room, if that is limited. -/
def space (s : ByteSink) : Option Nat := s.limit.map (· - s.held.size)

/-- Whether there is room for all of some bytes. -/
def hasRoom (s : ByteSink) (bytes : List UInt8) : Bool := s.space.all (bytes.length ≤ ·)

/-- The sink with more bytes. -/
def hold (s : ByteSink) (bytes : List UInt8) : ByteSink := { s with held := s.held ++ bytes }

/-- Take as many bytes as there is room for. -/
def accept (s : ByteSink) (bytes : List UInt8) : ByteSink × Except SystemError Unit :=
  (s.hold (splitAt s.space bytes).1,
    if s.hasRoom bytes then .ok () else .error s.whenFull.cause)

variable {s : ByteSink} {bytes taken left : List UInt8}

theorem hasRoom_iff : s.hasRoom bytes = true ↔ ∀ l, s.space = some l → bytes.length ≤ l := by
  simp [hasRoom, Option.all_eq_true]

theorem toList_held_hold (s : ByteSink) (bytes : List UInt8) :
    (s.hold bytes).held.toList = s.held.toList ++ bytes := Array.toList_appendList

theorem hold_nil (s : ByteSink) : s.hold [] = s := by
  simp [hold]

theorem hold_append (s : ByteSink) (a b : List UInt8) : s.hold (a ++ b) = (s.hold a).hold b := by
  have hheld : (s.hold (a ++ b)).held = ((s.hold a).hold b).held := by
    apply Array.toList_inj.1
    simp only [toList_held_hold, List.append_assoc]
  exact congrArg (fun held => { s with held }) hheld

theorem space_hold (s : ByteSink) (bytes : List UInt8) :
    (s.hold bytes).space = s.space.map (· - bytes.length) := by
  have hsize : (s.hold bytes).held.size = s.held.size + bytes.length := by
    rw [← Array.length_toList, toList_held_hold, List.length_append, Array.length_toList]
  rw [space, space, hsize, Option.map_map]
  congr 1
  funext l
  exact (Nat.sub_sub l s.held.size bytes.length).symm

theorem Moves.hold (h : s.Moves) (bytes : List UInt8) : (s.hold bytes).Moves := h

theorem Moves.accept (h : s.Moves) (bytes : List UInt8) : (s.accept bytes).1.Moves := h

/-! ## Taking what there is room for -/

theorem accept_of_hasRoom (h : s.hasRoom bytes = true) :
    s.accept bytes = (s.hold bytes, .ok ()) := by
  rw [accept, if_pos h]
  rw [hasRoom_iff] at h
  cases hs : s.space with
  | none => rfl
  | some l => rw [splitAt, List.take_of_length_le (h l hs)]

theorem accept_of_lt {l : Nat} (hs : s.space = some l) (h : l < bytes.length) :
    s.accept bytes = (s.hold (bytes.take l), .error s.whenFull.cause) := by
  have hroom : ¬s.hasRoom bytes = true := by
    simpa [hasRoom, hs] using h
  rw [accept, if_neg hroom, hs]
  rfl

theorem accept_nil (s : ByteSink) : s.accept [] = (s, .ok ()) := by
  rw [accept_of_hasRoom, hold_nil]
  simp [hasRoom_iff]

theorem accept_of_full (h : s.space = some 0) (hne : bytes ≠ []) :
    s.accept bytes = (s, .error s.whenFull.cause) := by
  rw [accept_of_lt h (List.length_pos_iff.2 hne), List.take_zero, hold_nil]

theorem accept_append_of_hasRoom {a : List UInt8} (h : s.hasRoom a = true) (b : List UInt8) :
    s.accept (a ++ b) = (s.hold a).accept b := by
  rw [hasRoom_iff] at h
  have hspace := space_hold s a
  cases hs : s.space with
  | none =>
    rw [hs, Option.map_none] at hspace
    rw [accept_of_hasRoom (by simp [hasRoom, hs]), accept_of_hasRoom (by simp [hasRoom, hspace]),
      hold_append]
  | some l =>
    have hle := h l hs
    rw [hs, Option.map_some] at hspace
    by_cases hlt : l < (a ++ b).length
    · have hlt' : l - a.length < b.length := by
        rw [List.length_append] at hlt
        omega
      rw [accept_of_lt hs hlt, accept_of_lt hspace hlt', List.take_append,
        List.take_of_length_le hle, hold_append]
      rfl
    · have hle' : (a ++ b).length ≤ l := Nat.le_of_not_lt hlt
      rw [accept_of_hasRoom (by simpa [hasRoom, hs] using hle'), accept_of_hasRoom, hold_append]
      rw [List.length_append] at hle'
      simp only [hasRoom, hspace, Option.all_some, decide_eq_true_iff]
      omega

/-- **Bytes in two parts.** The second part is taken if there was room for all of the first. -/
theorem accept_append (s : ByteSink) (a b : List UInt8) :
    s.accept (a ++ b) =
      match s.accept a with
      | (s, .ok ()) => s.accept b
      | failed => failed := by
  by_cases h : s.hasRoom a = true
  · rw [accept_of_hasRoom h, accept_append_of_hasRoom h]
  · cases hs : s.space with
    | none => simp [hasRoom, hs] at h
    | some l =>
      have hlt : l < a.length := by
        simpa [hasRoom, hs] using h
      have hlt' : l < (a ++ b).length := by
        rw [List.length_append]
        omega
      rw [accept_of_lt hs hlt, accept_of_lt hs hlt',
        List.take_append_of_le_length (Nat.le_of_lt hlt)]

/-! ## Call after call -/

/-- One call takes at most what there is room for, and something if there is room. -/
theorem room_of_space {l : Nat} (h : s.Moves) (hl : s.space = some l) :
    ∃ n, s.room = some n ∧ n ≤ l ∧ (n = 0 → l = 0) := by
  unfold space at hl
  unfold room
  cases hlimit : s.limit with
  | none => simp [hlimit] at hl
  | some m =>
    simp only [hlimit, Option.map_some, Option.some.injEq] at hl
    subst hl
    cases hstep : s.step with
    | none => exact ⟨_, rfl, Nat.le_refl _, id⟩
    | some k =>
      have hk := h k hstep
      exact ⟨_, rfl, Nat.min_le_right _ _, by omega⟩

theorem space_of_room (h : s.Moves) (hroom : s.room = some 0) : s.space = some 0 := by
  cases hs : s.space with
  | none =>
    have hlimit : s.limit = none := by
      simpa [space] using hs
    have hstep : s.step = some 0 := by
      simpa [room, hlimit] using hroom
    exact absurd (h 0 hstep) (Nat.lt_irrefl 0)
  | some l =>
    obtain ⟨n, hn, -, hl⟩ := room_of_space h hs
    rw [hl (Option.some.inj (hn.symm.trans hroom))]

theorem full_of_offer_eq_error (h : s.Moves) {e : SystemError} (ho : s.offer bytes = .error e) :
    s.space = some 0 ∧ s.whenFull.cause = e := by
  unfold offer at ho
  split at ho
  · rename_i hroom hfull
    cases ho
    exact ⟨space_of_room h hroom, congrArg WhenFull.cause hfull⟩
  · cases ho

theorem full_of_offer_eq_nil (h : s.Moves) (hne : bytes ≠ [])
    (ho : s.offer bytes = .ok ([], left)) :
    s.space = some 0 ∧ s.whenFull.cause = .nothingWritten := by
  unfold offer at ho
  split at ho
  · cases ho
  · rename_i hfull
    have htaken := congrArg Prod.fst (Except.ok.inj ho)
    have hroom : s.room = some 0 := by
      cases hroom : s.room with
      | none => simp [hroom, splitAt, hne] at htaken
      | some n => simpa [hroom, splitAt, hne] using htaken
    refine ⟨space_of_room h hroom, ?_⟩
    cases hw : s.whenFull with
    | fail e => exact absurd hw (hfull e hroom)
    | takeNone => rfl

theorem hasRoom_of_offer (h : s.Moves) (ho : s.offer bytes = .ok (taken, left)) :
    s.hasRoom taken = true := by
  rw [hasRoom_iff]
  intro l hl
  obtain ⟨n, hn, hle, -⟩ := room_of_space h hl
  unfold offer at ho
  split at ho
  · cases ho
  · have htaken := congrArg Prod.fst (Except.ok.inj ho)
    simp only [hn, splitAt] at htaken
    rw [← htaken, List.length_take]
    omega

/-- **Call after call takes what there is room for.** -/
theorem writeAll_eq (h : s.Moves) (bytes : List UInt8) : s.writeAll bytes = s.accept bytes := by
  fun_induction writeAll s bytes with
  | case1 s bytes hb => rw [List.isEmpty_iff.1 hb, accept_nil]
  | case2 s bytes hb e ho =>
    obtain ⟨hs, hw⟩ := full_of_offer_eq_error h ho
    rw [accept_of_full hs (by simpa using hb), hw]
  | case3 s bytes hb left ho =>
    obtain ⟨hs, hw⟩ := full_of_offer_eq_nil h (by simpa using hb) ho
    rw [accept_of_full hs (by simpa using hb), hw]
  | case4 s bytes hb b taken left ho ih =>
    rw [← append_of_offer ho, accept_append_of_hasRoom (hasRoom_of_offer h ho)]
    exact ih (h.hold (b :: taken))

theorem utf8_replicate (c : Char) {m n : Nat} (h : m ≤ n) :
    Text.utf8 (List.replicate n c) =
      Text.utf8 (List.replicate m c) ++ Text.utf8 (List.replicate (n - m) c) := by
  rw [← Text.utf8_append, List.replicate_append_replicate, Nat.add_sub_cancel' h]

theorem writeRun_eq (h : s.Moves) (c : Char) (n : Nat) :
    s.writeRun c n = s.accept (Text.utf8 (List.replicate n c)) := by
  -- the first piece is taken or not, and then the rest is a shorter run
  fun_induction writeRun s c n with
  | case1 s => exact (accept_nil s).symm
  | case2 s n hn s' hpiece ih =>
    rw [writeAll_eq h] at hpiece
    have hmoves := h.accept (Text.utf8 (List.replicate (min n Write.pieceLength) c))
    rw [hpiece] at hmoves
    rw [utf8_replicate c (Nat.min_le_left n Write.pieceLength), accept_append, hpiece]
    exact ih hmoves
  | case3 s n hn hpiece =>
    rw [utf8_replicate c (Nat.min_le_left n Write.pieceLength), accept_append, ← writeAll_eq h]
    split
    · exact absurd ‹_› (hpiece _)
    · rfl

theorem put_eq (h : s.Moves) (w : Write) : s.put w = s.accept (Text.utf8 w.content) := by
  cases w with
  | text t => exact writeAll_eq h _
  | fill c n => exact writeRun_eq h c n

/-- **How bytes are divided into requests makes no difference.** -/
theorem putAll_eq (h : s.Moves) (ws : List Write) :
    s.putAll ws = s.accept (Text.utf8 (ws.flatMap Write.content)) := by
  induction ws generalizing s with
  | nil => exact (accept_nil s).symm
  | cons w ws ih =>
    rw [putAll, put_eq h, List.flatMap_cons, Text.utf8_append, accept_append]
    have hmoves := h.accept (Text.utf8 w.content)
    rcases ha : s.accept (Text.utf8 w.content) with ⟨s', _ | ⟨⟩⟩
    · rfl
    · rw [ha] at hmoves
      exact ih hmoves

/-- **What comes of a rendering.** If there is not room for all of it the sink is at fault, and
otherwise the value that fails, if there is one. -/
theorem receive_eq (h : s.Moves) (r : Rendering) :
    s.receive r =
      ((s.accept (Text.utf8 r.content)).1,
        if s.hasRoom (Text.utf8 r.content) then
          if r.complete then .ok () else .error .rejectedWrite
        else .error (.system s.whenFull.cause)) := by
  have hcontent : r.writes.flatMap Write.content = r.content := rfl
  rw [receive, putAll_eq h, hcontent, accept]
  cases s.hasRoom (Text.utf8 r.content) <;> rfl

/-! ## Taking nothing at a time -/

theorem writeAll_of_not_moves (h : ¬s.Moves) (bytes : List UInt8) : (s.writeAll bytes).1 = s := by
  have hroom : s.room = some 0 := by
    obtain ⟨n, hn⟩ := Classical.not_forall.1 h
    obtain ⟨hstep, hpos⟩ := Classical.not_imp.1 hn
    rw [room, hstep, Nat.eq_zero_of_not_pos hpos]
    cases s.limit <;> simp
  unfold writeAll offer
  rw [hroom]
  cases s.whenFull <;> cases bytes <;> rfl

theorem writeRun_of_not_moves (h : ¬s.Moves) (c : Char) (n : Nat) : (s.writeRun c n).1 = s := by
  fun_induction writeRun s c n with
  | case1 s => rfl
  | case2 s n hn s' hpiece ih =>
    have hs := writeAll_of_not_moves h (Text.utf8 (List.replicate (min n Write.pieceLength) c))
    rw [hpiece] at hs
    obtain rfl : s' = s := hs
    exact ih h
  | case3 s n hn hpiece => exact writeAll_of_not_moves h _

theorem put_of_not_moves (h : ¬s.Moves) (w : Write) : (s.put w).1 = s := by
  cases w with
  | text t => exact writeAll_of_not_moves h _
  | fill c n => exact writeRun_of_not_moves h c n

theorem putAll_of_not_moves (h : ¬s.Moves) (ws : List Write) : (s.putAll ws).1 = s := by
  induction ws with
  | nil => rfl
  | cons w ws ih =>
    have hs := put_of_not_moves h w
    rw [putAll]
    rcases hput : s.put w with ⟨s', _ | ⟨⟩⟩ <;> rw [hput] at hs <;> obtain rfl : s' = s := hs
    · rfl
    · exact ih

/-- A sink that takes nothing at a time stays as it is. -/
theorem receive_of_not_moves (h : ¬s.Moves) (r : Rendering) : (s.receive r).1 = s := by
  have hs := putAll_of_not_moves h r.writes
  rw [receive]
  rcases hput : s.putAll r.writes with ⟨s', _ | ⟨⟩⟩ <;> rw [hput] at hs <;> exact hs

/-- **What a sink gains of a rendering is the front of it**, and as much of it as there is room for
unless the sink takes nothing at a time. -/
theorem exists_prefix_receive (s : ByteSink) (r : Rendering) :
    ∃ g, g <+: Text.utf8 r.content ∧ (s.receive r).1.held.toList = s.held.toList ++ g ∧
      (s.Moves → (s.limit = none → g = Text.utf8 r.content) ∧
        ∀ n, s.limit = some n → g = (Text.utf8 r.content).take (n - s.held.size)) := by
  by_cases h : s.Moves
  · refine ⟨(splitAt s.space (Text.utf8 r.content)).1, ?_, ?_, fun _ => ⟨?_, ?_⟩⟩
    · cases s.space with
      | none => exact List.prefix_rfl
      | some l => exact List.take_prefix l _
    · rw [receive_eq h, accept, toList_held_hold]
    · intro hlimit
      rw [space, hlimit]
      rfl
    · intro n hlimit
      rw [space, hlimit]
      rfl
  · refine ⟨[], List.nil_prefix, ?_, fun hmoves => absurd hmoves h⟩
    rw [receive_of_not_moves h, List.append_nil]

end ByteSink

end MessageTemplate
