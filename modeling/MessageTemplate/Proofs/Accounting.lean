import Mathlib.Algebra.GroupWithZero.Nat
import MessageTemplate.Proofs.Epoch

/-!
# What a cache gains and loses

A cache gains an instance when a text that is not too long is looked up and not found, and it loses
all of them when it is cleared or flushed. What it reports tells how many a flush has forgotten, so
the books of a run balance: each instance that was gained is kept, was flushed or was cleared.

* `Cache.Step`, `Cache.steps`: the requests of a run, with the cache before and after each.
  `Cache.Step.Missed`: a new instance was needed. `Cache.Step.evicted`, `Cache.Step.cleared`: how
  many were forgotten.
* `Cache.Step.Outcome`: what a step may come to. **`Cache.outcome_step`**: it comes to nothing else.
* `Cache.Step.Reports`: when a step is to report what. `Cache.Step.Outcome.reports`,
  `Cache.Step.Outcome.balance`: each outcome is reported so, and its gains and losses make up for
  the size of the cache.
* **`Cache.balance_steps`**: so they do over a whole run.
* **`Cache.run_accounts`**: the reports and the balance of every run of an empty cache.
-/

namespace MessageTemplate.Cache

/-! ## Steps -/

/-- A call with the cache before and after it. -/
structure Step where
  before : Cache
  call : Call
  after : Cache

/-- The step that a request takes. -/
def step (c : Cache) (r : Request) : Step := ⟨c, (c.serve r).1, (c.serve r).2⟩

/-- The steps of a run. -/
def steps (c : Cache) : List Request → List Step
  | [] => []
  | r :: rs => c.step r :: steps (c.step r).after rs

theorem map_call_steps (c : Cache) (rs : List Request) :
    (c.steps rs).map Step.call = (c.run rs).1 := by
  induction rs generalizing c with
  | nil => rfl
  | cons r rs ih => exact congrArg _ (ih _)

theorem exists_of_mem_steps {c : Cache} {rs : List Request} {s : Step} (h : s ∈ c.steps rs) :
    ∃ earlier r later, rs = earlier ++ r :: later ∧ s = (c.run earlier).2.step r := by
  induction rs generalizing c with
  | nil => cases h
  | cons r rs ih =>
    rcases List.mem_cons.1 h with rfl | h
    · exact ⟨[], r, rs, rfl, rfl⟩
    · obtain ⟨earlier, r', later, rfl, rfl⟩ := ih h
      exact ⟨r :: earlier, r', later, rfl, rfl⟩

/-! ## Gains and losses -/

/-- A request finds no instance of a text that is not too long. -/
def Misses (c : Cache) : Request → Prop
  | .getOrParse t => t.length ≤ c.limits.maxTemplateLength ∧ c.get? t = none
  | _ => False

instance (c : Cache) : DecidablePred c.Misses
  | .getOrParse _ => inferInstanceAs (Decidable (_ ∧ _))
  | .get _ => inferInstanceAs (Decidable False)
  | .clear => inferInstanceAs (Decidable False)

/-- How many instances the cache reported to have forgotten. -/
def Event.evicted : Event → Nat
  | tooLong _ => 0
  | flushed n _ => n

namespace Step

/-- The request of the step finds no instance of a text that is not too long. -/
def Missed (s : Step) : Prop := s.before.Misses s.call.request

instance : DecidablePred Missed := fun s => inferInstanceAs (Decidable (s.before.Misses _))

/-- How many instances were forgotten to make room, as it was reported. -/
def evicted (s : Step) : Nat := (s.call.events.map Event.evicted).sum

/-- How many instances were forgotten because this was asked for. -/
def cleared (s : Step) : Nat := if s.call.request = .clear then s.before.size else 0

/-- What a step may come to: the request, what is reported, and the size of the cache. -/
inductive Outcome (s : Step) : Prop where
  | tooLong (t : Text) (request : s.call.request = .getOrParse t)
    (long : s.before.limits.maxTemplateLength < t.length)
    (events : s.call.events = [.tooLong (Text.byteLength t)])
    (size : s.after.size = s.before.size)
  /-- A lookup that finds an instance, or one that makes none. -/
  | same (missed : ¬s.Missed) (cleared : s.call.request ≠ .clear)
    (short : ∀ t, s.call.request = .getOrParse t → t.length ≤ s.before.limits.maxTemplateLength)
    (events : s.call.events = []) (size : s.after.size = s.before.size)
  | gain (missed : s.Missed) (room : s.before.size < s.before.limits.maxItems)
    (events : s.call.events = []) (size : s.after.size = s.before.size + 1)
  | flush (missed : s.Missed) (full : s.before.limits.maxItems ≤ s.before.size)
    (events : s.call.events = [.flushed s.before.size s.before.limits.maxItems])
    (size : s.after.size = 1)
  | clear (request : s.call.request = .clear) (events : s.call.events = [])
    (size : s.after.size = 0)

/-- When a step is to report what. -/
structure Reports (l : Limits) (s : Step) : Prop where
  length_events : s.call.events.length ≤ 1
  tooLong_iff : ∀ n, .tooLong n ∈ s.call.events ↔ ∃ t, s.call.request = .getOrParse t ∧
    l.maxTemplateLength < t.length ∧ n = Text.byteLength t
  flushed_iff : ∀ n m, .flushed n m ∈ s.call.events ↔
    s.Missed ∧ l.maxItems ≤ s.before.size ∧ n = s.before.size ∧ m = l.maxItems
  size_after : ∀ n m, .flushed n m ∈ s.call.events → s.after.size = 1
  /-- How many a flush forgets. -/
  evicted : ∀ n m, .flushed n m ∈ s.call.events → if l.maxItems = 0 then n ≤ 1 else n = l.maxItems

theorem missed_iff {s : Step} : s.Missed ↔ ∃ t, s.call.request = .getOrParse t ∧
    t.length ≤ s.before.limits.maxTemplateLength ∧ s.before.get? t = none := by
  unfold Missed
  cases s.call.request with
  | getOrParse t => simp [Misses]
  | get t => simp [Misses]
  | clear => simp [Misses]

end Step

/-- **What a step comes to.** -/
theorem outcome_step (c : Cache) (r : Request) : (c.step r).Outcome := by
  cases r with
  | get t => exact .same id Request.noConfusion (fun _ => Request.noConfusion) rfl rfl
  | clear => exact .clear rfl rfl (size_clear c)
  | getOrParse t =>
    have hcall (i : Instance) (d : Cache) (es : List Event) (h : c.getOrParse t = (i, d, es)) :
        c.step (.getOrParse t) = ⟨c, ⟨.getOrParse t, some i, es⟩, d⟩ := by
      rw [step, serve, h]
    rcases c.getOrParse_cases t with ⟨hlong, ht⟩ | ⟨hshort, i, hi, ht⟩ | ⟨hshort, hnone, ht⟩
    · rw [hcall _ _ _ ht]
      exact .tooLong t rfl hlong rfl rfl
    · rw [hcall _ _ _ ht]
      refine .same (fun h => ?_) Request.noConfusion ?_ rfl rfl
      · rw [h.2] at hi
        cases hi
      · rintro u ⟨⟩
        exact hshort
    · rw [hcall _ _ _ ht]
      -- what is reported and what size is left both hang on whether the cache was full
      have hevents := events_keep (c.make t).2 t (c.make t).1
      have hsize := size_keep (c := (c.make t).2) hnone (c.make t).1
      by_cases hfull : c.limits.maxItems ≤ c.size
      · exact .flush ⟨hshort, hnone⟩ hfull (hevents.trans (if_pos hfull))
          (hsize.trans (if_pos hfull))
      · exact .gain ⟨hshort, hnone⟩ (Nat.lt_of_not_le hfull) (hevents.trans (if_neg hfull))
          (hsize.trans (if_neg hfull))

namespace Step

variable {s : Step}

theorem not_missed_of_long {t : Text} (request : s.call.request = .getOrParse t)
    (long : s.before.limits.maxTemplateLength < t.length) : ¬s.Missed := by
  rw [missed_iff]
  rintro ⟨u, hu, hshort, -⟩
  cases request.symm.trans hu
  exact absurd hshort (Nat.not_le_of_lt long)

theorem not_missed_of_clear (request : s.call.request = .clear) : ¬s.Missed := by
  rw [missed_iff]
  rintro ⟨u, hu, -⟩
  cases request.symm.trans hu

namespace Outcome

theorem tooLong_iff (h : s.Outcome) (n : Nat) : .tooLong n ∈ s.call.events ↔
    ∃ t, s.call.request = .getOrParse t ∧ s.before.limits.maxTemplateLength < t.length ∧
      n = Text.byteLength t := by
  have hshort (short : ∀ t, s.call.request = .getOrParse t →
      t.length ≤ s.before.limits.maxTemplateLength) : ¬∃ t, s.call.request = .getOrParse t ∧
        s.before.limits.maxTemplateLength < t.length ∧ n = Text.byteLength t := by
    rintro ⟨t, ht, hlong, -⟩
    exact absurd (short t ht) (Nat.not_le_of_lt hlong)
  have hmissed (missed : s.Missed) (t : Text) (ht : s.call.request = .getOrParse t) :
      t.length ≤ s.before.limits.maxTemplateLength :=
    Nat.not_lt.1 fun hlong => not_missed_of_long ht hlong missed
  cases h with
  | tooLong t request long events =>
    rw [events, List.mem_singleton, Event.tooLong.injEq]
    constructor
    · rintro rfl
      exact ⟨t, request, long, rfl⟩
    · rintro ⟨u, hu, -, rfl⟩
      cases request.symm.trans hu
      rfl
  | same missed cleared short events => exact iff_of_false (by simp [events]) (hshort short)
  | gain missed room events => exact iff_of_false (by simp [events]) (hshort (hmissed missed))
  | flush missed full events => exact iff_of_false (by simp [events]) (hshort (hmissed missed))
  | clear request events => exact iff_of_false (by simp [events]) (by simp [request])

theorem flushed_iff (h : s.Outcome) (n m : Nat) : .flushed n m ∈ s.call.events ↔
    s.Missed ∧ s.before.limits.maxItems ≤ s.before.size ∧ n = s.before.size ∧
      m = s.before.limits.maxItems := by
  cases h with
  | tooLong t request long events =>
    exact iff_of_false (by simp [events]) fun h => not_missed_of_long request long h.1
  | same missed cleared short events => exact iff_of_false (by simp [events]) fun h => missed h.1
  | gain missed room events =>
    exact iff_of_false (by simp [events]) fun h => absurd h.2.1 (Nat.not_le_of_lt room)
  | flush missed full events => simp [events, missed, full]
  | clear request events =>
    exact iff_of_false (by simp [events]) fun h => not_missed_of_clear request h.1

theorem size_after (h : s.Outcome) {n m : Nat} (hflush : .flushed n m ∈ s.call.events) :
    s.after.size = 1 := by
  cases h with
  | flush missed full events size => exact size
  | tooLong _ _ _ events | same _ _ _ events | gain _ _ events | clear _ events =>
    simp [events] at hflush

/-- A cache within its limit reports as the limits say. -/
theorem reports (h : s.Outcome) (hsize : s.before.size ≤ max s.before.limits.maxItems 1) :
    s.Reports s.before.limits where
  length_events := by
    cases h with
    | tooLong _ _ _ events | same _ _ _ events | gain _ _ events | flush _ _ events
    | clear _ events => simp [events]
  tooLong_iff := h.tooLong_iff
  flushed_iff := h.flushed_iff
  size_after _ _ := h.size_after
  evicted n m hflush := by
    obtain ⟨-, hfull, rfl, -⟩ := (h.flushed_iff n m).1 hflush
    split <;> omega

/-- **Gains and losses make up for the size of the cache.** -/
theorem balance (h : s.Outcome) : s.before.size + (if s.Missed then 1 else 0) =
    s.after.size + s.evicted + s.cleared := by
  have hkept (missed : s.Missed) : s.cleared = 0 := if_neg fun h => not_missed_of_clear h missed
  unfold evicted
  cases h with
  | tooLong t request long events size =>
    have hcleared : s.cleared = 0 := if_neg (by simp [request])
    rw [if_neg (not_missed_of_long request long), events, size, hcleared]
    rfl
  | same missed cleared short events size =>
    have hcleared : s.cleared = 0 := if_neg cleared
    rw [if_neg missed, events, size, hcleared]
    rfl
  | gain missed room events size =>
    rw [if_pos missed, events, size, hkept missed]
    rfl
  | flush missed full events size =>
    rw [if_pos missed, events, size, hkept missed]
    exact Nat.add_comm _ _
  | clear request events size =>
    have hcleared : s.cleared = s.before.size := if_pos request
    rw [if_neg (not_missed_of_clear request), events, size, hcleared]
    simp

end Outcome

end Step

/-- **The books of a run balance.** -/
theorem balance_steps (c : Cache) (rs : List Request) :
    c.size + (c.steps rs).countP (·.Missed) = (c.run rs).2.size +
      ((c.steps rs).map Step.evicted).sum + ((c.steps rs).map Step.cleared).sum := by
  induction rs generalizing c with
  | nil => rfl
  | cons r rs ih =>
    have hstep := (outcome_step c r).balance
    have hrest := ih (c.step r).after
    have hrun : (c.run (r :: rs)).2 = ((c.step r).after.run rs).2 := rfl
    have hbefore : (c.step r).before = c := rfl
    rw [hbefore] at hstep
    rw [hrun, steps, List.countP_cons, List.map_cons, List.map_cons, List.sum_cons, List.sum_cons]
    simp only [decide_eq_true_eq]
    omega

/-- **What a cache reports, and what it accounts for.** In every run that starts with an empty
cache, each step reports what it has to and nothing else. The lookups that found no instance of a
text that is not too long are as many as the instances that are kept, those that were reported to be
forgotten, and those that were cleared. -/
theorem run_accounts (l : Limits) (rs : List Request) :
    ((steps { limits := l } rs).map Step.call = (run { limits := l } rs).1 ∧
      ∀ s ∈ steps { limits := l } rs, s.Reports l) ∧
    (steps { limits := l } rs).countP (·.Missed) = (run { limits := l } rs).2.size +
      ((steps { limits := l } rs).map Step.evicted).sum +
        ((steps { limits := l } rs).map Step.cleared).sum := by
  refine ⟨⟨map_call_steps _ rs, fun s hs => ?_⟩, ?_⟩
  · obtain ⟨earlier, r, later, -, rfl⟩ := exists_of_mem_steps hs
    have hsize := size_run_le (c := { limits := l }) (by simp [size]) earlier
    have hlimits := limits_run { limits := l } earlier
    have h := (outcome_step (run { limits := l } earlier).2 r).reports (by rwa [step, hlimits])
    rwa [step, hlimits] at h
  · have h := balance_steps { limits := l } rs
    rwa [show size { limits := l } = 0 from by simp [size], Nat.zero_add] at h

/-- A text that takes the place of another one, a clearing, and a text that is too long. -/
def turbulent : List Request :=
  [.getOrParse ['a'], .getOrParse ['b'], .clear, .getOrParse ['a', 'b', 'c'], .getOrParse ['a']]

theorem accounts_turbulent :
    (∃ s ∈ steps { limits := ⟨1, 2⟩ } turbulent, s.call.request = .getOrParse ['b'] ∧
      .flushed 1 1 ∈ s.call.events ∧ s.call.events.length ≤ 1 ∧ s.after.size = 1) ∧
    (steps { limits := ⟨1, 2⟩ } turbulent).countP (·.Missed) =
      (run { limits := ⟨1, 2⟩ } turbulent).2.size +
        ((steps { limits := ⟨1, 2⟩ } turbulent).map Step.evicted).sum +
          ((steps { limits := ⟨1, 2⟩ } turbulent).map Step.cleared).sum := by
  obtain ⟨⟨-, hreports⟩, hbalance⟩ := run_accounts ⟨1, 2⟩ turbulent
  have h := Tracks.run ⟨1, 2⟩ [.getOrParse ['a']]
  have hsize := h.size_eq.trans (show _ = 1 by decide)
  have hnone := Option.not_isSome_iff_eq_none.1 (mt (h.isSome_get? ['b']).1 (by decide))
  have hshort : ['b'].length ≤
      (run { limits := ⟨1, 2⟩ } [.getOrParse ['a']]).2.limits.maxTemplateLength := by
    rw [limits_run]
    decide
  have hmem : step (run { limits := ⟨1, 2⟩ } [.getOrParse ['a']]).2 (.getOrParse ['b']) ∈
      steps { limits := ⟨1, 2⟩ } turbulent := .tail _ (.head _)
  have hs := hreports _ hmem
  have hflush := (hs.flushed_iff 1 1).2 ⟨⟨hshort, hnone⟩, hsize.ge, hsize.symm, rfl⟩
  exact ⟨⟨_, hmem, rfl, hflush, hs.length_events, hs.size_after _ _ hflush⟩, hbalance⟩

end MessageTemplate.Cache
