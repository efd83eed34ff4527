import MessageTemplate.Cache.Run
import MessageTemplate.Template.Delivery

/-!
# Templates that come out of a cache

Whatever a cache has been used for, the template that it hands out for a text is the template of
that text. The invariant: each instance that is kept is an instance of its own text, and no text
that is kept is too long.

* `Cache.Faithful`: the invariant. `Cache.Faithful.serve`, `Cache.Faithful.run`: one request and a
  whole run preserve it.
* `Cache.Faithful.template_getOrParse`, `Cache.Faithful.template_answer`: what is handed out.
* **`Cache.run_transparent`**: a cache makes no difference to templates and to what is rendered.
-/

namespace MessageTemplate.Cache

/-- Each instance that is kept is one of its text, which is not too long. -/
def Faithful (c : Cache) : Prop :=
  ∀ t i, c.get? t = some i →
    t.length ≤ c.limits.maxTemplateLength ∧ i.template = Template.parse t

/-- The text that a request is about. -/
def Request.text? : Request → Option Text
  | getOrParse t => some t
  | get t => some t
  | clear => none

theorem faithful_of_limits (l : Limits) : Faithful { limits := l } := by
  intro t i h
  simp [get?] at h

namespace Faithful

variable {c : Cache}

theorem keep (h : c.Faithful) {t : Text} {i : Instance} (ht : t.length ≤ c.limits.maxTemplateLength)
    (hi : i.template = Template.parse t) : (c.keep t i).1.Faithful := by
  intro u j hj
  rw [limits_keep]
  rw [get?_keep] at hj
  split at hj
  · rename_i htu
    cases hj
    exact htu ▸ ⟨ht, hi⟩
  · split at hj
    · cases hj
    · exact h u j hj

/-- **What is handed out for a text is its template.** -/
theorem template_getOrParse (h : c.Faithful) (t : Text) :
    (c.getOrParse t).1.template = Template.parse t := by
  rcases c.getOrParse_cases t with ⟨-, ht⟩ | ⟨-, i, hi, ht⟩ | ⟨-, -, ht⟩
  · rw [ht]
    rfl
  · rw [ht]
    exact (h t i hi).2
  · rw [ht]
    rfl

theorem getOrParse (h : c.Faithful) (t : Text) : (c.getOrParse t).2.1.Faithful := by
  have hmake : (c.make t).2.Faithful := h
  rcases c.getOrParse_cases t with ⟨-, ht⟩ | ⟨-, i, hi, ht⟩ | ⟨hle, -, ht⟩
  · rw [ht]
    exact hmake
  · rw [ht]
    exact h
  · rw [ht]
    exact hmake.keep hle rfl

theorem clear (c : Cache) : c.clear.Faithful := by
  intro t i h
  rw [get?_clear] at h
  cases h

theorem serve (h : c.Faithful) (r : Request) : (c.serve r).2.Faithful := by
  cases r with
  | getOrParse t => exact h.getOrParse t
  | get t => exact h
  | clear => exact clear c

theorem template_answer (h : c.Faithful) {r : Request} {i : Instance}
    (hi : (c.serve r).1.answer = some i) :
    ∃ t, r.text? = some t ∧ i.template = Template.parse t := by
  cases r with
  | getOrParse t =>
    cases hi
    exact ⟨t, rfl, h.template_getOrParse t⟩
  | get t => exact ⟨t, rfl, (h t i hi).2⟩
  | clear => cases hi

theorem run (h : c.Faithful) (rs : List Request) : (c.run rs).2.Faithful := by
  induction rs generalizing c with
  | nil => exact h
  | cons r rs ih => exact ih (h.serve r)

theorem template_of_mem_run (h : c.Faithful) {rs : List Request} {call : Call}
    (hcall : call ∈ (c.run rs).1) {i : Instance} (hi : call.answer = some i) :
    ∃ t, call.request.text? = some t ∧ i.template = Template.parse t := by
  induction rs generalizing c with
  | nil => cases hcall
  | cons r rs ih =>
    rcases List.mem_cons.1 hcall with rfl | hcall
    · rw [request_serve]
      exact h.template_answer hi
    · exact ih (h.serve r) hcall

end Faithful

/-- **A cache makes no difference.** After any run, the template that is handed out for a text is
the template of that text, and so is one that is found without making it. What is kept is kept for
texts that are not too long, and all that was handed out during the run was right as well. So
rendering by way of the cache gives what rendering the text itself gives, to every kind of sink. -/
theorem run_transparent (l : Limits) (rs : List Request) (t : Text) :
    ((run { limits := l } rs).2.getOrParse t).1.template = Template.parse t ∧
    (∀ i, (run { limits := l } rs).2.get? t = some i → i.template = Template.parse t) ∧
    (∀ key i, (run { limits := l } rs).2.kept[key]? = some i →
      key.length ≤ l.maxTemplateLength ∧ i.template = Template.parse key) ∧
    (∀ call ∈ (run { limits := l } rs).1, ∀ i, call.answer = some i →
      ∃ u, call.request.text? = some u ∧ i.template = Template.parse u) ∧
    ∀ (source : Source) (culture : Option Culture),
      ((run { limits := l } rs).2.getOrParse t).1.template.renderToText source culture =
        (Template.parse t).renderToText source culture ∧
      (∀ sink, ((run { limits := l } rs).2.getOrParse t).1.template.deliver source culture sink =
        (Template.parse t).deliver source culture sink) ∧
      ∀ sink, ((run { limits := l } rs).2.getOrParse t).1.template.deliverBytes source culture sink =
        (Template.parse t).deliverBytes source culture sink := by
  have h := (faithful_of_limits l).run rs
  have htemplate := h.template_getOrParse t
  refine ⟨htemplate, fun i hi => (h t i hi).2, ?_, fun call hcall i => ?_,
    fun source culture => ?_⟩
  · intro key i hi
    have hkey := h key i hi
    rwa [limits_run] at hkey
  · exact (faithful_of_limits l).template_of_mem_run hcall
  · rw [htemplate]
    exact ⟨rfl, fun _ => rfl, fun _ => rfl⟩

/-- The second text makes the cache forget the first one. -/
def crowding : List Request := [.getOrParse ['a'], .getOrParse ['{', 'b']]

theorem transparent_crowding :
    ∃ i, (run { limits := ⟨1, 2⟩ } crowding).2.get? ['{', 'b'] = some i ∧
      i.template = Template.parse ['{', 'b'] ∧ ['{', 'b'].length ≤ 2 ∧
      ∃ call ∈ (run { limits := ⟨1, 2⟩ } crowding).1, ∃ j, call.answer = some j ∧
        ∃ u, call.request.text? = some u ∧ j.template = Template.parse u := by
  have hlimits := limits_run { limits := ⟨1, 2⟩ } [.getOrParse ['a']]
  have hkept := get?_getOrParse (c := (run { limits := ⟨1, 2⟩ } [.getOrParse ['a']]).2)
    (t := ['{', 'b']) (by rw [hlimits]; decide)
  obtain ⟨-, hget, hkeys, hcalls, -⟩ := run_transparent ⟨1, 2⟩ crowding ['{', 'b']
  exact ⟨_, hkept, hget _ hkept, (hkeys _ _ hkept).1, _, List.mem_cons_self, _, rfl,
    hcalls _ List.mem_cons_self _ rfl⟩

end MessageTemplate.Cache
