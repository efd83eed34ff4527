import MessageTemplate.Template.Delivery

/-!
# Sources that agree

A template looks up the names of its tags and nothing else. Maps and lists that are made of the same
bindings give the same values, if the list is read in the order in which the last binding comes
first.

* `Source.ofHashMap_ofList`, `Source.ofTreeMap_ofList`: a map is the list in reverse.
* `Source.ofList_eq_some_iff`: a list in which no name is bound twice.
  `Source.ofList_perm`: the order of such a list makes no difference.
* `Template.render_congr`: a template depends on the names of its tags only.
* `Template.SameFor`: all ways of rendering come out the same.
* **`Template.sources_agree`**: which sources are the same for a template.
-/

namespace MessageTemplate

namespace Source

variable {l l' : List (Text × Value)}

/-! ## Lists and maps -/

theorem ofList_cons (b : Text × Value) (l : List (Text × Value)) (name : Text) :
    ofList (b :: l) name = if b.1 == name then some b.2 else ofList l name := by
  unfold ofList
  rw [List.find?_cons]
  cases b.1 == name <;> rfl

theorem ofList_eq_findSome? (l : List (Text × Value)) (name : Text) :
    ofList l name = l.findSome? fun b => if b.1 == name then some b.2 else none := by
  induction l with
  | nil => rfl
  | cons b l ih =>
    rw [ofList_cons, List.findSome?_cons, ih]
    cases b.1 == name <;> rfl

/-- In a map, the last binding of a name counts. -/
theorem ofHashMap_ofList (l : List (Text × Value)) :
    ofHashMap (.ofList l) = ofList l.reverse := by
  funext name
  rw [ofHashMap, ofList_eq_findSome?, Std.HashMap.get?_eq_getElem?,
    Std.HashMap.ofList_eq_insertMany_empty, Std.HashMap.getElem?_insertMany_list,
    List.findSomeRev?_eq_findSome?_reverse]
  simp

@[inherit_doc ofHashMap_ofList]
theorem ofTreeMap_ofList (l : List (Text × Value)) :
    ofTreeMap (.ofList l) = ofList l.reverse := by
  funext name
  rw [ofTreeMap, ofList_eq_findSome?, Std.TreeMap.get?_eq_getElem?,
    Std.TreeMap.ofList_eq_insertMany_empty, Std.TreeMap.getElem?_insertMany_list,
    List.findSomeRev?_eq_findSome?_reverse]
  simp

theorem ofList_eq_some_iff (h : (l.map Prod.fst).Nodup) {name : Text} {value : Value} :
    ofList l name = some value ↔ (name, value) ∈ l := by
  induction l with
  | nil => simp [ofList]
  | cons b l ih =>
    obtain ⟨hnotMem, hnodup⟩ := List.nodup_cons.1 h
    obtain ⟨name', value'⟩ := b
    rw [ofList_cons, List.mem_cons, Prod.mk.injEq]
    by_cases hname : name' = name
    · subst hname
      have hnotMem : (name', value) ∉ l := fun hmem => hnotMem (List.mem_map.2 ⟨_, hmem, rfl⟩)
      simp [hnotMem, eq_comm]
    · simp [hname, Ne.symm hname, ih hnodup]

theorem ofList_perm (h : (l.map Prod.fst).Nodup) (hperm : l.Perm l') : ofList l = ofList l' := by
  have h' : (l'.map Prod.fst).Nodup := (hperm.map Prod.fst).nodup_iff.1 h
  funext name
  apply Option.ext
  intro value
  rw [ofList_eq_some_iff h, ofList_eq_some_iff h', hperm.mem_iff]

end Source

/-! ## Templates -/

variable {a b : Source} {culture : Option Culture}

theorem Token.render_congr {t : Token} (h : ∀ tag, t = .tag tag → a tag.name = b tag.name) :
    t.render a culture = t.render b culture := by
  cases t with
  | text meaning written => rfl
  | tag tag => rw [Token.render, Token.render, Tag.render, Tag.render, h tag rfl]

namespace Template

variable {t : Template}

/-- A template depends on the values of its tags only. -/
theorem render_congr (h : ∀ tag, .tag tag ∈ t.tokens → a tag.name = b tag.name) :
    t.render a culture = t.render b culture := by
  unfold render
  congr 1
  apply List.map_congr_left
  intro u hu
  apply Token.render_congr
  rintro tag rfl
  exact h tag hu

/-- Two sources make no difference to a template, whichever way it is rendered. Values that fail are
included. -/
structure SameFor (t : Template) (culture : Option Culture) (a b : Source) : Prop where
  renderToText_eq : t.renderToText a culture = t.renderToText b culture
  deliverTo_eq : ∀ {σ : Type} [TextWriter σ] (s : σ),
    t.deliverTo a culture s = t.deliverTo b culture s
  deliverBytes_eq : ∀ s, t.deliverBytes a culture s = t.deliverBytes b culture s

theorem sameFor_of_values_eq (h : ∀ tag, .tag tag ∈ t.tokens → a tag.name = b tag.name) :
    t.SameFor culture a b := by
  have hrender : t.render a culture = t.render b culture := render_congr h
  refine ⟨?_, fun s => ?_, fun s => ?_⟩
  · rw [renderToText_eq, renderToText_eq, hrender]
  · rw [deliverTo_eq, deliverTo_eq, hrender]
  · rw [deliverBytes_eq, deliverBytes_eq, hrender]

/-- **Sources agree.** A map made of a list of bindings is the same for a template as the list in
reverse. If no name is bound twice, the order makes no difference, neither to the list nor to the
maps. And any two sources are the same for a template if they give the names of its tags the same
values, whatever else they bind. -/
theorem sources_agree (t : Template) (culture : Option Culture) :
    (∀ l : List (Text × Value),
      t.SameFor culture (.ofHashMap (.ofList l)) (.ofList l.reverse) ∧
      t.SameFor culture (.ofTreeMap (.ofList l)) (.ofList l.reverse)) ∧
    (∀ l l' : List (Text × Value), (l.map Prod.fst).Nodup → l.Perm l' →
      t.SameFor culture (.ofList l') (.ofList l) ∧
      t.SameFor culture (.ofHashMap (.ofList l')) (.ofList l) ∧
      t.SameFor culture (.ofTreeMap (.ofList l')) (.ofList l)) ∧
    ∀ a b : Source, (∀ tag, .tag tag ∈ t.tokens → a tag.name = b tag.name) →
      t.SameFor culture a b := by
  have same {a b : Source} (h : a = b) : t.SameFor culture a b :=
    sameFor_of_values_eq fun tag _ => congrFun h tag.name
  refine ⟨fun l => ⟨?_, ?_⟩, fun l l' hnodup hperm => ?_, fun a b => sameFor_of_values_eq⟩
  · exact same (Source.ofHashMap_ofList l)
  · exact same (Source.ofTreeMap_ofList l)
  · have hreverse : Source.ofList l'.reverse = .ofList l :=
      (Source.ofList_perm hnodup (hperm.trans (List.reverse_perm l').symm)).symm
    refine ⟨?_, ?_, ?_⟩
    · exact same (Source.ofList_perm hnodup hperm).symm
    · exact same ((Source.ofHashMap_ofList l').trans hreverse)
    · exact same ((Source.ofTreeMap_ofList l').trans hreverse)

end Template

end MessageTemplate
