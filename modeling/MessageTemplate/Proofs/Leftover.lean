import MessageTemplate.Proofs.TextDelivery

/-!
# What a failed delivery leaves behind

A delivery that fails, whether a value or the sink is at fault, leaves the front of what the template
shows in the sink. What a template shows ends with the first value that fails: the tokens before it
are shown as a whole, and the value shows what it wrote, unless it was to be padded first.

* `Token.outputs_append_cons`: what tokens show up to one that fails.
* `Template.exists_first_fails`: the first value that fails.
* `Template.render_eq_of_fails`: nothing behind it is written.
* **`Template.deliver_leftover`**: what sinks gain.
-/

namespace MessageTemplate

variable (source : Source) (culture : Option Culture)

theorem Token.outputs_append_cons {before : List Token} {t : Token}
    (hbefore : before.any (fails source culture) = false) (ht : t.fails source culture = true)
    (after : List Token) :
    outputs source culture (before ++ t :: after) =
      outputs source culture before ++ t.output source culture := by
  induction before with
  | nil =>
    show t.output source culture ++ (if t.fails source culture then [] else _) = [] ++ _
    rw [if_pos ht, List.append_nil, List.nil_append]
  | cons u us ih =>
    rw [List.any_cons, Bool.or_eq_false_iff] at hbefore
    rw [List.cons_append, outputs, outputs, hbefore.1, ih hbefore.2, if_neg Bool.false_ne_true,
      if_neg Bool.false_ne_true, List.append_assoc]

namespace Template

theorem output_of_fails {tag : Tag} {value : Value} (hvalue : source tag.name = some value)
    (hfails : (value.render tag.format culture).complete = false) :
    (Token.tag tag).output source culture =
      if tag.alignment.isNone then (value.render tag.format culture).content else [] := by
  rw [Token.output, hvalue]
  cases tag.alignment with
  | none => rfl
  | some a =>
    simp only [hfails]
    rfl

theorem exists_first_fails {t : Template} (h : t.fails source culture = true) :
    ∃ before tag after value, t.tokens = before ++ .tag tag :: after ∧
      before.any (Token.fails source culture) = false ∧ source tag.name = some value ∧
      (value.render tag.format culture).complete = false := by
  obtain ⟨u, hu⟩ := Option.isSome_iff_exists.1 (List.find?_isSome.2 (List.any_eq_true.1 h))
  obtain ⟨hfails, before, after, htokens, hbefore⟩ := List.find?_eq_some_iff_append.1 hu
  obtain ⟨tag, value, rfl, hvalue, hincomplete⟩ := (Token.fails_iff source culture).1 hfails
  refine ⟨before, tag, after, value, htokens, List.any_eq_false.2 fun u hu => ?_, hvalue,
    hincomplete⟩
  simpa using hbefore u hu

/-- What comes behind a value that fails makes no difference. -/
theorem render_eq_of_fails {t : Template} {before after : List Token} {u : Token}
    (htokens : t.tokens = before ++ u :: after) (hu : u.fails source culture = true) :
    t.render source culture = (ofTokens (before ++ [u])).render source culture := by
  have hincomplete : (u.render source culture).complete = false := by
    rw [u.complete_render, hu]
    rfl
  rw [render, render, htokens]
  show Rendering.concat ((before ++ u :: after).map _) = .concat ((before ++ [u]).map _)
  rw [List.map_append, List.map_append, List.map_cons, List.map_singleton,
    Rendering.concat_append_cons hincomplete]

/-- **A failed delivery leaves a clean front behind.** Whatever the sink, and whether the value or
the sink fails, the sink gains the front of `D`: all of it if there is no limit, and all for which
there is room in a byte sink. `D` is the text of the template if no value fails. Otherwise it is the
text of the tokens before the first value that fails, and what that value wrote unless its tag has a
column, and no token behind it writes anything. -/
theorem deliver_leftover (t : Template) :
    let D := t.output source culture
    (∀ {σ : Type} [TextWriter σ] (s : Recorder σ), ∃ g, g <+: D ∧
      (t.deliverTo source culture s).1.text = s.text ++ g ∧
      t.deliverTo source culture s.writer =
        ((t.deliverTo source culture s).1.writer, (t.deliverTo source culture s).2)) ∧
    (∀ s : TextSink, ∃ g, g <+: D ∧ (t.deliver source culture s).1.text = s.text ++ g ∧
      (s.limit = none → g = D)) ∧
    (∀ s : ByteSink, ∃ g, g <+: Text.utf8 D ∧
      (t.deliverBytes source culture s).1.held.toList = s.held.toList ++ g ∧
      (s.Moves → (s.limit = none → g = Text.utf8 D) ∧
        ∀ n, s.limit = some n → g = (Text.utf8 D).take (n - s.held.size))) ∧
    (t.renderToText source culture = .ok D ∨
      ∃ before tag after value text, t.tokens = before ++ .tag tag :: after ∧
        (ofTokens before).renderToText source culture = .ok text ∧
        source tag.name = some value ∧ (value.render tag.format culture).complete = false ∧
        D = text ++ (if tag.alignment.isNone then (value.render tag.format culture).content
          else []) ∧
        (∀ {σ : Type} [TextWriter σ] (s : σ), t.deliverTo source culture s =
          (ofTokens (before ++ [.tag tag])).deliverTo source culture s) ∧
        ∀ s, t.deliverBytes source culture s =
          (ofTokens (before ++ [.tag tag])).deliverBytes source culture s) := by
  intro D
  have hcontent : (t.render source culture).content = D := t.content_render source culture
  refine ⟨fun s => ?_, fun s => ?_, fun s => ?_, ?_⟩
  · obtain ⟨g, hprefix, htext, -⟩ := s.exists_prefix_receive (t.render source culture)
    rw [deliverTo_eq, ← hcontent]
    refine ⟨g, hprefix, htext, ?_⟩
    rw [deliverTo_eq]
    exact Recorder.forwards_writer.receive s _
  · obtain ⟨g, hprefix, htext, -, hall⟩ := s.exists_prefix_receive (t.render source culture)
    rw [deliver_eq, ← hcontent]
    exact ⟨g, hprefix, htext, hall⟩
  · rw [deliverBytes_eq, ← hcontent]
    exact s.exists_prefix_receive (t.render source culture)
  · cases h : t.fails source culture with
    | false => exact Or.inl ((t.renderToText_eq_ok_iff source culture).2 ⟨h, rfl⟩)
    | true =>
      obtain ⟨before, tag, after, value, htokens, hbefore, hvalue, hincomplete⟩ :=
        exists_first_fails source culture h
      have hfails : (Token.tag tag).fails source culture = true :=
        (Token.fails_iff source culture).2 ⟨tag, value, rfl, hvalue, hincomplete⟩
      have hrender := render_eq_of_fails source culture htokens hfails
      refine Or.inr ⟨before, tag, after, value, Token.outputs source culture before, htokens,
        (renderToText_eq_ok_iff source culture _).2 ⟨hbefore, rfl⟩, hvalue, hincomplete, ?_,
        fun s => ?_, fun s => ?_⟩
      · rw [← output_of_fails source culture hvalue hincomplete,
          ← Token.outputs_append_cons source culture hbefore hfails after, ← htokens]
        rfl
      · rw [deliverTo_eq, deliverTo_eq, hrender]
      · rw [deliverBytes_eq, deliverBytes_eq, hrender]

end Template

end MessageTemplate
