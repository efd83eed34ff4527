import Mathlib.Data.Finset.Card
import MessageTemplate.Cache.Run

/-!
# Epochs of a cache

A run of a cache falls into epochs. A new epoch begins when the cache is cleared, and when a new
text is looked up although the epoch has as many texts as the cache may hold. What the cache keeps
can be told from the calls of the current epoch alone.

* `Cache.lookups`: the texts that some calls looked up. `Cache.Begins`: which requests begin an
  epoch.
* `Cache.Entry`, `Cache.chronicle`: the calls of a run with the epochs they fall into.
  `Cache.current`: the calls of the last epoch.
* `Cache.MadeFor`: an instance was made by the first lookup of a text in the last epoch.
  `Cache.Entry.Shares`: two lookups share an instance if they should.
* `Cache.Tracks`: the invariant between a chronicle and a cache. **`Cache.Tracks.serve`**: one
  request preserves it.
* **`Cache.run_epochs`**: what a cache keeps, and which lookups share an instance, after every run.
-/

namespace MessageTemplate.Cache

/-! ## Epochs -/

/-- The text that a request needs an instance for. -/
def Request.lookup? : Request → Option Text
  | getOrParse t => some t
  | _ => none

/-- The texts that some calls looked up, without those that are too long to be kept. -/
def lookups (l : Limits) (calls : List Call) : Finset Text :=
  ((calls.filterMap (·.request.lookup?)).filter (·.length ≤ l.maxTemplateLength)).toFinset

/-- Whether a request finds no room for a new text, given the calls of the epoch so far. -/
def Flushes (l : Limits) (calls : List Call) (t : Text) : Prop :=
  t.length ≤ l.maxTemplateLength ∧ t ∉ lookups l calls ∧ l.maxItems ≤ (lookups l calls).card

/-- Whether a request begins an epoch, given the calls of the epoch so far. -/
def Begins (l : Limits) (calls : List Call) : Request → Prop
  | .getOrParse t => Flushes l calls t
  | .get _ => False
  | .clear => True

instance (l : Limits) (calls : List Call) (t : Text) : Decidable (Flushes l calls t) :=
  inferInstanceAs (Decidable (_ ∧ _ ∧ _))

instance (l : Limits) (calls : List Call) : DecidablePred (Begins l calls)
  | .getOrParse t => inferInstanceAs (Decidable (Flushes l calls t))
  | .get _ => inferInstanceAs (Decidable False)
  | .clear => inferInstanceAs (Decidable True)

/-- A call and the number of its epoch. -/
structure Entry where
  epoch : Nat
  call : Call

/-- The number of the last epoch. -/
def lastEpoch (es : List Entry) : Nat := (es.getLast?.map Entry.epoch).getD 0

/-- The calls of the last epoch. -/
def current (es : List Entry) : List Call :=
  (es.filter (·.epoch = lastEpoch es)).map Entry.call

/-- Enter one more call. -/
def enter (l : Limits) (es : List Entry) (call : Call) : List Entry :=
  es ++ [⟨if Begins l (current es) call.request then lastEpoch es + 1 else lastEpoch es, call⟩]

/-- The calls of a run with the epochs they fall into. -/
def chronicle (l : Limits) (calls : List Call) : List Entry := calls.foldl (enter l) []

/-- The call looked up the text `t` and got the instance `i`. -/
def Call.Gives (call : Call) (t : Text) (i : Instance) : Prop :=
  call.request = .getOrParse t ∧ call.answer = some i

/-- The instance `i` was made by the first lookup of `t` in the last epoch. -/
def MadeFor (es : List Entry) (t : Text) (i : Instance) : Prop :=
  ∃ before e after, es = before ++ e :: after ∧ e.epoch = lastEpoch es ∧ e.call.Gives t i ∧
    (∀ a ∈ before, a.epoch = e.epoch → a.call.request ≠ .getOrParse t) ∧
    ∀ a ∈ before, ∀ j, a.call.answer = some j → j.id ≠ i.id

/-- Two lookups get the same instance exactly if they are for the same text, which is not too long,
and fall into the same epoch. -/
def Entry.Shares (l : Limits) (a b : Entry) : Prop :=
  ∀ t u i j, a.call.Gives t i → b.call.Gives u j →
    (i.id = j.id ↔ t = u ∧ t.length ≤ l.maxTemplateLength ∧ a.epoch = b.epoch)

section Chronicle

variable {l : Limits} {es : List Entry} {call : Call} {t : Text} {i : Instance}

theorem mem_lookups {calls : List Call} : t ∈ lookups l calls ↔
    t.length ≤ l.maxTemplateLength ∧ ∃ call ∈ calls, call.request = .getOrParse t := by
  have hlookup (r : Request) : r.lookup? = some t ↔ r = .getOrParse t := by
    cases r <;> simp [Request.lookup?]
  simp only [lookups, List.mem_toFinset, List.mem_filter, List.mem_filterMap, hlookup,
    decide_eq_true_iff, and_comm]

theorem lookups_append (calls calls' : List Call) :
    lookups l (calls ++ calls') = lookups l calls ∪ lookups l calls' := by
  simp [lookups]

theorem lookups_singleton (hr : call.request = .getOrParse t)
    (ht : t.length ≤ l.maxTemplateLength) : lookups l [call] = {t} := by
  simp [lookups, hr, Request.lookup?, ht]

theorem lookups_singleton_eq_empty
    (h : ∀ t, call.request = .getOrParse t → l.maxTemplateLength < t.length) :
    lookups l [call] = ∅ := by
  ext t
  simp only [mem_lookups, List.mem_singleton, exists_eq_left, Finset.notMem_empty, iff_false]
  rintro ⟨hle, hr⟩
  exact absurd hle (Nat.not_le_of_lt (h t hr))

theorem lastEpoch_concat (es : List Entry) (e : Entry) : lastEpoch (es ++ [e]) = e.epoch := by
  simp [lastEpoch]

theorem mem_current : call ∈ current es ↔ ∃ e ∈ es, e.epoch = lastEpoch es ∧ e.call = call := by
  simp [current, and_assoc]

theorem current_enter_of_not (h : ¬Begins l (current es) call.request) :
    current (enter l es call) = current es ++ [call] := by
  rw [enter, if_neg h, current, lastEpoch_concat]
  simp [current]

theorem current_enter (hle : ∀ e ∈ es, e.epoch ≤ lastEpoch es)
    (h : Begins l (current es) call.request) : current (enter l es call) = [call] := by
  have hold : es.filter (·.epoch = lastEpoch es + 1) = [] := by
    rw [List.filter_eq_nil_iff]
    intro e he
    have := hle e he
    rw [decide_eq_true_iff]
    omega
  rw [enter, if_pos h, current, lastEpoch_concat, List.filter_append, hold]
  simp

theorem MadeFor.enter (h : MadeFor es t i) (hb : ¬Begins l (current es) call.request) :
    MadeFor (enter l es call) t i := by
  obtain ⟨before, e, after, hes, he, hgives, hfirst, hnew⟩ := h
  refine ⟨before, e, after ++ [⟨lastEpoch es, call⟩], ?_, ?_, hgives, hfirst, hnew⟩
  · rw [Cache.enter, if_neg hb, ← List.cons_append, ← List.append_assoc, ← hes]
  · rw [Cache.enter, if_neg hb, lastEpoch_concat, he]

theorem madeFor_enter (hgives : call.Gives t i)
    (hfirst : ∀ a ∈ es, a.epoch = lastEpoch (enter l es call) → a.call.request ≠ .getOrParse t)
    (hnew : ∀ a ∈ es, ∀ j, a.call.answer = some j → j.id ≠ i.id) :
    MadeFor (enter l es call) t i := by
  refine ⟨es, _, [], rfl, ?_, hgives, ?_, hnew⟩
  · rw [Cache.enter, lastEpoch_concat]
  · rwa [Cache.enter, lastEpoch_concat] at hfirst

theorem chronicle_concat (calls : List Call) (call : Call) :
    chronicle l (calls ++ [call]) = enter l (chronicle l calls) call := by
  rw [chronicle, List.foldl_append]
  rfl

theorem map_call_chronicle (calls : List Call) :
    (chronicle l calls).map Entry.call = calls := by
  induction calls using List.reverseRecOn with
  | nil => rfl
  | append_singleton calls call ih =>
    rw [chronicle_concat, enter, List.map_append, ih]
    rfl

end Chronicle

/-! ## The invariant -/

/-- What is kept, said by the calls of the last epoch. -/
structure Tracks (l : Limits) (es : List Entry) (c : Cache) : Prop where
  limits_eq : c.limits = l
  epoch_le : ∀ e ∈ es, e.epoch ≤ lastEpoch es
  id_lt : ∀ e ∈ es, ∀ i, e.call.answer = some i → i.id < c.next
  isSome_get? : ∀ t, (c.get? t).isSome = true ↔ t ∈ lookups l (current es)
  madeFor : ∀ t i, c.get? t = some i → MadeFor es t i
  size_eq : c.size = (lookups l (current es)).card
  shares : es.Pairwise (Entry.Shares l)

theorem tracks_nil (l : Limits) : Tracks l [] { limits := l } where
  limits_eq := rfl
  epoch_le := by simp
  id_lt := by simp
  isSome_get? := by simp [get?, lookups, current]
  madeFor := by simp [get?]
  size_eq := by simp [size, lookups, current]
  shares := .nil

namespace Tracks

variable {l : Limits} {es : List Entry} {c c' : Cache} {call : Call}

theorem id_lt_of_get? (h : Tracks l es c) {t : Text} {i : Instance} (hi : c.get? t = some i) :
    i.id < c.next := by
  obtain ⟨before, e, after, hes, -, hgives, -⟩ := h.madeFor t i hi
  refine h.id_lt e ?_ i hgives.2
  rw [hes]
  exact List.mem_append_right _ List.mem_cons_self

theorem notMem_lookups (h : Tracks l es c) {t : Text} (hnone : c.get? t = none) :
    t ∉ lookups l (current es) := by
  rw [← h.isSome_get?, hnone]
  exact Bool.false_ne_true

/-- The parts of the invariant that have to be looked at when a call is entered. -/
theorem enter (h : Tracks l es c) (hlimits : c'.limits = l) (hnext : c.next ≤ c'.next)
    (hid : ∀ i, call.answer = some i → i.id < c'.next)
    (hget : ∀ t, (c'.get? t).isSome = true ↔ t ∈ lookups l (current (enter l es call)))
    (hmade : ∀ t i, c'.get? t = some i → MadeFor (Cache.enter l es call) t i)
    (hsize : c'.size = (lookups l (current (Cache.enter l es call))).card)
    (hshares : ∀ a ∈ es, a.Shares l ⟨lastEpoch (Cache.enter l es call), call⟩) :
    Tracks l (Cache.enter l es call) c' where
  limits_eq := hlimits
  epoch_le := by
    rw [Cache.enter, lastEpoch_concat]
    intro e he
    rcases List.mem_append.1 he with he | he
    · have := h.epoch_le e he
      dsimp only
      split <;> omega
    · rw [List.mem_singleton.1 he]
  id_lt := by
    intro e he i hi
    rcases List.mem_append.1 he with he | he
    · exact Nat.lt_of_lt_of_le (h.id_lt e he i hi) hnext
    · rw [List.mem_singleton.1 he] at hi
      exact hid i hi
  isSome_get? := hget
  madeFor := hmade
  size_eq := hsize
  shares := by
    rw [Cache.enter, lastEpoch_concat] at hshares
    refine List.pairwise_append.2 ⟨h.shares, List.pairwise_singleton _ _, ?_⟩
    intro a ha b hb
    rw [List.mem_singleton.1 hb]
    exact hshares a ha

/-- A call that changes nothing of what is kept, and looks up nothing that is not kept. -/
theorem stay (h : Tracks l es c) (hb : ¬Begins l (current es) call.request)
    (hlimits : c'.limits = c.limits) (hkept : c'.kept = c.kept) (hnext : c.next ≤ c'.next)
    (hid : ∀ i, call.answer = some i → i.id < c'.next)
    (hlook : lookups l [call] ⊆ lookups l (current es))
    (hshares : ∀ a ∈ es, a.Shares l ⟨lastEpoch es, call⟩) :
    Tracks l (Cache.enter l es call) c' := by
  have hget (t : Text) : c'.get? t = c.get? t := by rw [get?, hkept, get?]
  have hlookups : lookups l (current (Cache.enter l es call)) = lookups l (current es) := by
    rw [current_enter_of_not hb, lookups_append, Finset.union_eq_left.2 hlook]
  have hepoch : lastEpoch (Cache.enter l es call) = lastEpoch es := by
    rw [Cache.enter, if_neg hb, lastEpoch_concat]
  refine h.enter (hlimits.trans h.limits_eq) hnext hid ?_ ?_ ?_ ?_
  · intro t
    rw [hget, hlookups, h.isSome_get?]
  · intro t i hi
    rw [hget] at hi
    exact (h.madeFor t i hi).enter hb
  · rw [hlookups, ← h.size_eq, size, hkept, size]
  · rwa [hepoch]

end Tracks

/-! ## Shared instances -/

theorem Call.Gives.unique {call : Call} {t u : Text} {i j : Instance} (h : call.Gives t i)
    (h' : call.Gives u j) : t = u ∧ i = j :=
  ⟨Request.getOrParse.inj (h.1.symm.trans h'.1), Option.some.inj (h.2.symm.trans h'.2)⟩

theorem Entry.shares_of_ne {l : Limits} {a e : Entry} (h : ∀ t, e.call.request ≠ .getOrParse t) :
    a.Shares l e := by
  intro t u i j _ hu
  exact absurd hu.1 (h u)

namespace Tracks

variable {l : Limits} {es : List Entry} {c : Cache} {a e : Entry} {u : Text} {j : Instance}

theorem shares_of_new (h : Tracks l es c) (ha : a ∈ es) (he : e.call.Gives u j)
    (hj : j.id = c.next) (hu : u.length ≤ l.maxTemplateLength → a.epoch = e.epoch →
      a.call.request ≠ .getOrParse u) : a.Shares l e := by
  intro t u' i j' hat heu
  obtain ⟨rfl, rfl⟩ := he.unique heu
  have hlt := h.id_lt a ha i hat.2
  constructor
  · intro hij
    omega
  · rintro ⟨rfl, hle, hepoch⟩
    exact absurd hat.1 (hu hle hepoch)

/-- An instance that is kept was made by the first lookup in the epoch, and that lookup shares it
with those that it should. -/
theorem shares_of_kept (h : Tracks l es c) (ha : a ∈ es) (he : e.call.Gives u j)
    (hu : u.length ≤ l.maxTemplateLength) (hget : c.get? u = some j)
    (hepoch : e.epoch = lastEpoch es) : a.Shares l e := by
  obtain ⟨before, f, after, hes, hf, hfu, -⟩ := h.madeFor u j hget
  have hshares := h.shares
  rw [hes] at ha hshares
  obtain ⟨-, hafter, hbefore⟩ := List.pairwise_append.1 hshares
  intro t u' i j' hat heu
  obtain ⟨rfl, rfl⟩ := he.unique heu
  rw [hepoch, ← hf]
  rcases List.mem_append.1 ha with ha | ha
  · exact hbefore a ha f List.mem_cons_self t u i j hat hfu
  · rcases List.mem_cons.1 ha with rfl | ha
    · obtain ⟨rfl, rfl⟩ := hat.unique hfu
      exact ⟨fun _ => ⟨rfl, hu, rfl⟩, fun _ => rfl⟩
    · have := (List.pairwise_cons.1 hafter).1 a ha u t j i hfu hat
      rw [eq_comm, this]
      constructor
      · rintro ⟨rfl, hle, hfa⟩
        exact ⟨rfl, hle, hfa.symm⟩
      · rintro ⟨rfl, hle, hfa⟩
        exact ⟨rfl, hle, hfa.symm⟩

/-! ## One request -/

theorem serve_get (h : Tracks l es c) (t : Text) :
    Tracks l (Cache.enter l es (c.serve (.get t)).1) (c.serve (.get t)).2 := by
  refine h.stay id rfl rfl (Nat.le_refl _) (fun i => h.id_lt_of_get?) ?_ ?_
  · rw [lookups_singleton_eq_empty (by rintro u ⟨⟩)]
    exact Finset.empty_subset _
  · intro a _
    exact Entry.shares_of_ne (by rintro u ⟨⟩)

theorem serve_clear (h : Tracks l es c) :
    Tracks l (Cache.enter l es (c.serve .clear).1) (c.serve .clear).2 := by
  have hb : Begins l (current es) (c.serve .clear).1.request := trivial
  have hlookups : lookups l (current (Cache.enter l es (c.serve .clear).1)) = ∅ := by
    rw [current_enter h.epoch_le hb, lookups_singleton_eq_empty (by rintro u ⟨⟩)]
  refine h.enter h.limits_eq (Nat.le_refl _) (by rintro i ⟨⟩) ?_ ?_ ?_ ?_
  · intro t
    rw [hlookups]
    simp [serve]
  · intro t i hi
    simp [serve] at hi
  · rw [hlookups]
    simp [serve]
  · intro a _
    exact Entry.shares_of_ne (by rintro u ⟨⟩)

section Lookup

variable {call : Call} {t : Text}

theorem begins_iff (hr : call.request = .getOrParse t) {calls : List Call} :
    Begins l calls call.request ↔ Flushes l calls t := by
  rw [hr]
  rfl

theorem tooLong (h : Tracks l es c) (hcall : call.Gives t (c.make t).1)
    (ht : l.maxTemplateLength < t.length) : Tracks l (Cache.enter l es call) (c.make t).2 := by
  have hnot : ¬t.length ≤ l.maxTemplateLength := Nat.not_le_of_lt ht
  refine h.stay ?_ rfl rfl (Nat.le_succ _) ?_ ?_ ?_
  · rw [begins_iff hcall.1]
    exact fun hb => hnot hb.1
  · intro i hi
    cases hcall.2.symm.trans hi
    exact Nat.lt_succ_self _
  · rw [lookups_singleton_eq_empty]
    · exact Finset.empty_subset _
    · intro u hu
      cases hcall.1.symm.trans hu
      exact ht
  · intro a ha
    exact h.shares_of_new ha hcall rfl fun hle => absurd hle hnot

theorem hit {i : Instance} (h : Tracks l es c) (hcall : call.Gives t i) (hi : c.get? t = some i) :
    Tracks l (Cache.enter l es call) c := by
  have hmem : t ∈ lookups l (current es) := by
    rw [← h.isSome_get?, hi]
    rfl
  have ht := (mem_lookups.1 hmem).1
  refine h.stay ?_ rfl rfl (Nat.le_refl _) ?_ ?_ ?_
  · rw [begins_iff hcall.1]
    exact fun hb => hb.2.1 hmem
  · intro j hj
    cases hcall.2.symm.trans hj
    exact h.id_lt_of_get? hi
  · rw [lookups_singleton hcall.1 ht]
    exact Finset.singleton_subset_iff.2 hmem
  · intro a ha
    exact h.shares_of_kept ha hcall ht hi rfl

/-- What a new text has in common, whether there is room for it or not: its instance is new, and no
call of its epoch has looked it up. -/
theorem miss (h : Tracks l es c) (hcall : call.Gives t (c.make t).1)
    (hlookups : lookups l (current (Cache.enter l es call)) =
      insert t (if l.maxItems ≤ c.size then ∅ else lookups l (current es)))
    (hfirst : ∀ a ∈ es, a.epoch = lastEpoch (Cache.enter l es call) →
      a.call.request ≠ .getOrParse t)
    (hnone : c.get? t = none)
    (hmade : ∀ u i, ¬l.maxItems ≤ c.size → c.get? u = some i →
      MadeFor (Cache.enter l es call) u i) :
    Tracks l (Cache.enter l es call) ((c.make t).2.keep t (c.make t).1).1 := by
  have hnext : ((c.make t).2.keep t (c.make t).1).1.next = c.next + 1 := next_keep _ _ _
  have hget (u : Text) : ((c.make t).2.keep t (c.make t).1).1.get? u =
      if t = u then some (c.make t).1 else if l.maxItems ≤ c.size then none else c.get? u := by
    rw [get?_keep, ← h.limits_eq]
    rfl
  have hsize : ((c.make t).2.keep t (c.make t).1).1.size =
      if l.maxItems ≤ c.size then 1 else c.size + 1 := by
    rw [size_keep (c := (c.make t).2) hnone, ← h.limits_eq]
    rfl
  refine h.enter ?_ ?_ ?_ ?_ ?_ ?_ ?_
  · rw [limits_keep]
    exact h.limits_eq
  · rw [hnext]
    exact Nat.le_succ _
  · intro i hi
    cases hcall.2.symm.trans hi
    rw [hnext]
    exact Nat.lt_succ_self _
  · intro u
    rw [hget, hlookups, Finset.mem_insert]
    by_cases htu : t = u
    · simp [htu]
    · by_cases hfull : l.maxItems ≤ c.size
      · simp [htu, Ne.symm htu, hfull]
      · simp [htu, Ne.symm htu, hfull, h.isSome_get?]
  · intro u i hi
    rw [hget] at hi
    by_cases htu : t = u
    · rw [if_pos htu] at hi
      cases hi
      subst htu
      exact madeFor_enter hcall hfirst fun a ha j hj => Nat.ne_of_lt (h.id_lt a ha j hj)
    · rw [if_neg htu] at hi
      split at hi
      · cases hi
      · rename_i hfull
        exact hmade u i hfull hi
  · rw [hsize, hlookups]
    split
    · rfl
    · rw [Finset.card_insert_of_notMem (h.notMem_lookups hnone), h.size_eq]
  · intro a ha
    exact h.shares_of_new ha hcall rfl fun _ => hfirst a ha

theorem miss_of_room (h : Tracks l es c) (hcall : call.Gives t (c.make t).1)
    (ht : t.length ≤ l.maxTemplateLength) (hnone : c.get? t = none)
    (hroom : ¬l.maxItems ≤ c.size) :
    Tracks l (Cache.enter l es call) ((c.make t).2.keep t (c.make t).1).1 := by
  have hb : ¬Begins l (current es) call.request := by
    rw [begins_iff hcall.1]
    rintro ⟨-, -, hle⟩
    rw [← h.size_eq] at hle
    exact hroom hle
  refine h.miss hcall ?_ ?_ hnone fun u i _ hi => (h.madeFor u i hi).enter hb
  · rw [current_enter_of_not hb, lookups_append, lookups_singleton hcall.1 ht, if_neg hroom,
      Finset.union_singleton]
  · rw [Cache.enter, if_neg hb, lastEpoch_concat]
    intro a ha hepoch hrequest
    -- otherwise the text would be kept already
    exact h.notMem_lookups hnone
      (mem_lookups.2 ⟨ht, a.call, mem_current.2 ⟨a, ha, hepoch, rfl⟩, hrequest⟩)

theorem miss_of_full (h : Tracks l es c) (hcall : call.Gives t (c.make t).1)
    (ht : t.length ≤ l.maxTemplateLength) (hnone : c.get? t = none) (hfull : l.maxItems ≤ c.size) :
    Tracks l (Cache.enter l es call) ((c.make t).2.keep t (c.make t).1).1 := by
  have hb : Begins l (current es) call.request := by
    rw [begins_iff hcall.1]
    exact ⟨ht, h.notMem_lookups hnone, h.size_eq ▸ hfull⟩
  refine h.miss hcall ?_ ?_ hnone fun u i hroom => absurd hfull hroom
  · rw [current_enter h.epoch_le hb, lookups_singleton hcall.1 ht, if_pos hfull]
    rfl
  · rw [Cache.enter, if_pos hb, lastEpoch_concat]
    intro a ha hepoch
    have := h.epoch_le a ha
    dsimp only at hepoch
    omega

end Lookup

theorem serve_getOrParse (h : Tracks l es c) (t : Text) :
    Tracks l (Cache.enter l es (c.serve (.getOrParse t)).1) (c.serve (.getOrParse t)).2 := by
  rcases c.getOrParse_cases t with ⟨hlt, ht⟩ | ⟨-, i, hi, ht⟩ | ⟨hle, hnone, ht⟩
  · simp only [serve, ht]
    rw [h.limits_eq] at hlt
    exact h.tooLong ⟨rfl, rfl⟩ hlt
  · simp only [serve, ht]
    exact h.hit ⟨rfl, rfl⟩ hi
  · simp only [serve, ht]
    rw [h.limits_eq] at hle
    by_cases hfull : l.maxItems ≤ c.size
    · exact h.miss_of_full ⟨rfl, rfl⟩ hle hnone hfull
    · exact h.miss_of_room ⟨rfl, rfl⟩ hle hnone hfull

/-- **One request preserves the invariant.** -/
theorem serve (h : Tracks l es c) (r : Request) :
    Tracks l (Cache.enter l es (c.serve r).1) (c.serve r).2 := by
  cases r with
  | getOrParse t => exact h.serve_getOrParse t
  | get t => exact h.serve_get t
  | clear => exact h.serve_clear

/-- **A whole run preserves it.** -/
theorem run (l : Limits) (rs : List Request) :
    Tracks l (chronicle l (Cache.run { limits := l } rs).1) (Cache.run { limits := l } rs).2 := by
  induction rs using List.reverseRecOn with
  | nil => exact tracks_nil l
  | append_singleton rs r ih =>
    rw [run_concat, chronicle_concat]
    exact ih.serve r

/-- **A flush is reported exactly when a new text finds no room.** -/
theorem flushed_iff (h : Tracks l es c) (r : Request) :
    (∃ n m, Event.flushed n m ∈ (c.serve r).1.events) ↔
      ∃ t, r = .getOrParse t ∧ Flushes l (current es) t := by
  cases r with
  | get t => simp [Cache.serve]
  | clear => simp [Cache.serve]
  | getOrParse t =>
    simp only [Request.getOrParse.injEq, exists_eq_left', Flushes]
    rw [← h.isSome_get?, ← h.size_eq, ← h.limits_eq]
    rcases c.getOrParse_cases t with ⟨hlt, ht⟩ | ⟨-, i, hi, ht⟩ | ⟨hle, hnone, ht⟩
    · simp [Cache.serve, ht, hlt]
    · simp [Cache.serve, ht, hi]
    · have hevents : (c.serve (.getOrParse t)).1.events =
          if c.limits.maxItems ≤ c.size then [.flushed c.size c.limits.maxItems] else [] := by
        simp only [Cache.serve, ht]
        exact events_keep (c.make t).2 t _
      rw [hevents]
      by_cases hfull : c.limits.maxItems ≤ c.size
      · simp [hfull, hle, hnone]
      · simp [hfull]

end Tracks

/-! ## The size -/

theorem size_serve_le {c : Cache} (h : c.size ≤ max c.limits.maxItems 1) (r : Request) :
    (c.serve r).2.size ≤ max c.limits.maxItems 1 := by
  cases r with
  | get t => exact h
  | clear => exact Nat.zero_le _
  | getOrParse t =>
    rcases c.getOrParse_cases t with ⟨-, ht⟩ | ⟨-, i, -, ht⟩ | ⟨-, hnone, ht⟩
    · simp only [serve, ht]
      exact h
    · simp only [serve, ht]
      exact h
    · simp only [serve, ht]
      rw [size_keep (c := (c.make t).2) hnone]
      show (if c.limits.maxItems ≤ c.size then 1 else c.size + 1) ≤ _
      split <;> omega

theorem size_run_le {c : Cache} (h : c.size ≤ max c.limits.maxItems 1) (rs : List Request) :
    (c.run rs).2.size ≤ max c.limits.maxItems 1 := by
  induction rs generalizing c with
  | nil => exact h
  | cons r rs ih =>
    have := ih (c := (c.serve r).2) (by rw [limits_serve]; exact size_serve_le h r)
    rwa [limits_serve] at this

theorem gives_of_mem_run {c : Cache} {rs : List Request} {call : Call} (hcall : call ∈ (c.run rs).1)
    {t : Text} (ht : call.request = .getOrParse t) : ∃ i, call.Gives t i := by
  induction rs generalizing c with
  | nil => cases hcall
  | cons r rs ih =>
    rcases List.mem_cons.1 hcall with rfl | hcall
    · rw [request_serve] at ht
      subst ht
      exact ⟨_, rfl, rfl⟩
    · exact ih hcall

/-- **What a cache keeps, and which lookups share an instance.** After every run that starts with an
empty cache, the cache keeps one instance for each text that was looked up in the last epoch and is
not too long, namely the one that was made by its first lookup in that epoch. These are never more
than the limit says, but for a limit of zero. Every lookup got an instance, and two of them got the
same one exactly if they were for the same text, which is not too long, and in the same epoch. The
next request makes the cache forget what it keeps, and keep a new text instead, exactly if that text
is not too long, not among those of the epoch, and one too many. -/
theorem run_epochs {l : Limits} {rs : List Request} {calls : List Call} {c : Cache}
    (hrun : run { limits := l } rs = (calls, c)) :
    (calls.map Call.request = rs ∧ (chronicle l calls).map Entry.call = calls) ∧
    c.size = (lookups l (current (chronicle l calls))).card ∧
    (c.size ≤ max l.maxItems 1 ∧ ∀ m, l.validate = .ok m → c.size ≤ m.maxItems) ∧
    (∀ t, (c.get? t).isSome = true ↔ t ∈ lookups l (current (chronicle l calls))) ∧
    (∀ t i, c.get? t = some i → MadeFor (chronicle l calls) t i) ∧
    (∀ call ∈ calls, ∀ t, call.request = .getOrParse t → ∃ i, call.Gives t i) ∧
    (chronicle l calls).Pairwise (Entry.Shares l) ∧
    ∀ r, ((∃ n m, Event.flushed n m ∈ (c.serve r).1.events) ↔
        ∃ t, r = .getOrParse t ∧ Flushes l (current (chronicle l calls)) t) ∧
      ∀ t, r = .getOrParse t → Flushes l (current (chronicle l calls)) t →
        lookups l (current (chronicle l (calls ++ [(c.serve r).1]))) = {t} := by
  have h := Tracks.run l rs
  have hsize := size_run_le (c := { limits := l }) (by simp [size]) rs
  have hgives : ∀ call ∈ (run { limits := l } rs).1, ∀ t, call.request = .getOrParse t →
      ∃ i, call.Gives t i := fun call hcall t ht => gives_of_mem_run hcall ht
  have hrequests := map_request_run { limits := l } rs
  rw [hrun] at h hsize hgives hrequests
  refine ⟨⟨hrequests, map_call_chronicle calls⟩, h.size_eq, ⟨hsize, ?_⟩, h.isSome_get?, h.madeFor,
    hgives, h.shares, fun r => ⟨h.flushed_iff r, ?_⟩⟩
  · intro m hm
    obtain ⟨rfl, hpos, -⟩ := Limits.validate_eq_ok_iff.1 hm
    exact hsize.trans (max_le (Nat.le_refl _) hpos)
  · rintro t rfl hflush
    have hb : Begins l (current (chronicle l calls)) (c.serve (.getOrParse t)).1.request := hflush
    rw [chronicle_concat, current_enter h.epoch_le hb, lookups_singleton rfl hflush.1]

/-- A text twice, another one that takes its place, a text that is not kept, and one that is too
long. -/
def displacing : List Request :=
  [.getOrParse ['a'], .getOrParse ['a'], .getOrParse ['b'], .get ['a'], .getOrParse ['a', 'b', 'c']]

theorem epochs_displacing :
    ∃ calls c, run { limits := ⟨1, 2⟩ } displacing = (calls, c) ∧
      (chronicle ⟨1, 2⟩ calls).map Entry.epoch = [0, 0, 1, 1, 1] ∧ c.size = 1 ∧ c.size ≤ 1 ∧
      (∃ i, c.get? ['b'] = some i ∧ MadeFor (chronicle ⟨1, 2⟩ calls) ['b'] i) ∧
      c.get? ['a'] = none ∧ (∃ call ∈ calls, ∃ i, call.Gives ['a'] i) ∧
      (∃ a b i j, [a, b] <+: chronicle ⟨1, 2⟩ calls ∧ a.call.Gives ['a'] i ∧ b.call.Gives ['a'] j ∧
        i.id = j.id) ∧
      (∃ n m, Event.flushed n m ∈ (c.serve (.getOrParse ['a'])).1.events) ∧
      lookups ⟨1, 2⟩ (current (chronicle ⟨1, 2⟩ (calls ++ [(c.serve (.getOrParse ['a'])).1]))) =
        {['a']} := by
  have hflush : Flushes ⟨1, 2⟩
      (current (chronicle ⟨1, 2⟩ (run { limits := ⟨1, 2⟩ } displacing).1)) ['a'] := by
    decide
  obtain ⟨-, hsize, ⟨-, hvalid⟩, hget, hmade, hgives, hshares, hnext⟩ :=
    run_epochs (show run { limits := ⟨1, 2⟩ } displacing = (_, _) from rfl)
  have hb := (hget ['b']).2 (by decide)
  have ha := mt (hget ['a']).1 (by decide)
  obtain ⟨i, hi⟩ := Option.isSome_iff_exists.1 hb
  refine ⟨_, _, rfl, by decide, hsize.trans (by decide), hvalid _ rfl, ⟨i, hi, hmade _ _ hi⟩,
    Option.not_isSome_iff_eq_none.1 ha, ⟨_, List.mem_cons_self, hgives _ List.mem_cons_self _ rfl⟩,
    ?_, (hnext _).1.2 ⟨_, rfl, hflush⟩, (hnext _).2 _ rfl hflush⟩
  refine ⟨_, _, _, _, ⟨_, rfl⟩, ⟨rfl, rfl⟩, ⟨rfl, rfl⟩, ?_⟩
  exact ((List.pairwise_cons.1 hshares).1 _ List.mem_cons_self _ _ _ _ ⟨rfl, rfl⟩ ⟨rfl, rfl⟩).2
    ⟨rfl, by decide, rfl⟩

end MessageTemplate.Cache
