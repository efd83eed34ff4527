import Mathlib.Data.List.Forall2
import MessageTemplate.Proofs.Delivery

/-!
# What a text sink makes of a template

A text sink takes all of a template or reports an error. It takes it exactly if no value fails and
there is room for the whole text, however the text reaches it: tokens are written one by one, values
in pieces of their own making, and padding in pieces of a fixed length.

* `Token.fails_iff`, `Template.fails_iff`: which values fail.
* `Template.output_eq_flatMap`: if no value fails, tokens show one after another what each shows.
* `Template.renderToText_eq_ok_iff`, `Template.deliver_eq_ok_iff`: when all goes well.
* **`Template.deliver_outcome`**: a text sink, the same sink when its type is not known, the text
  itself, and the tokens one by one all agree.
-/

namespace MessageTemplate

variable (source : Source) (culture : Option Culture)

namespace Token

theorem fails_iff {t : Token} :
    t.fails source culture = true ↔ ∃ tag value, t = .tag tag ∧ source tag.name = some value ∧
      (value.render tag.format culture).complete = false := by
  cases t with
  | text meaning written => exact ⟨nofun, nofun⟩
  | tag tag =>
    rw [fails, Option.any_eq_true]
    constructor
    · rintro ⟨value, hvalue, hfails⟩
      exact ⟨tag, value, rfl, hvalue, by simpa using hfails⟩
    · rintro ⟨_, value, ⟨⟩, hvalue, hfails⟩
      exact ⟨value, hvalue, by simpa using hfails⟩

end Token

namespace Template

/-- The template of some tokens. -/
def ofTokens (ts : List Token) : Template := ⟨ts.flatMap Token.written, ts⟩

theorem fails_iff (t : Template) :
    t.fails source culture = true ↔ ∃ tag value, .tag tag ∈ t.tokens ∧
      source tag.name = some value ∧ (value.render tag.format culture).complete = false := by
  rw [fails, List.any_eq_true]
  constructor
  · rintro ⟨u, hu, hfails⟩
    obtain ⟨tag, value, rfl, h⟩ := (Token.fails_iff source culture).1 hfails
    exact ⟨tag, value, hu, h⟩
  · rintro ⟨tag, value, htag, h⟩
    exact ⟨.tag tag, htag, (Token.fails_iff source culture).2 ⟨tag, value, rfl, h⟩⟩

theorem output_eq_flatMap (t : Template) (h : t.fails source culture = false) :
    t.output source culture = t.tokens.flatMap (Token.output source culture) := by
  have hcomplete : ∀ r ∈ t.tokens.map (Token.render source culture), r.complete = true := by
    rw [← List.all_eq_true, ← Rendering.complete_concat]
    show (t.render source culture).complete = true
    rw [complete_render, h]
    rfl
  rw [← content_render, render, Rendering.content_concat hcomplete, List.flatMap_map]
  congr 1
  funext u
  exact u.content_render source culture

theorem renderToText_eq_ok_iff (t : Template) {text : Text} :
    t.renderToText source culture = .ok text ↔
      t.fails source culture = false ∧ t.output source culture = text := by
  rw [renderToText_output]
  cases t.fails source culture <;> simp

theorem deliver_eq (t : Template) (s : TextSink) :
    t.deliver source culture s = TextWriter.receive s (t.render source culture) :=
  t.deliverTo_eq source culture s

/-- A sink takes all of a template exactly if no value fails and there is room for what the template
shows. -/
theorem deliver_eq_ok_iff (t : Template) (limit : Option Nat) :
    (t.deliver source culture { limit }).2 = .ok () ↔ t.fails source culture = false ∧
      ∀ n, limit = some n → Text.byteLength (t.output source culture) ≤ n := by
  have hempty : TextSink.hasRoom { limit } 0 = true := TextSink.hasRoom_iff.2 fun n _ => n.zero_le
  rw [deliver_eq, TextSink.receive_eq_ok_iff hempty, complete_render, content_render,
    TextSink.hasRoom_iff, Bool.not_eq_true']
  simp only [Nat.zero_add]

theorem text_deliver {t : Template} {limit : Option Nat}
    (h : (t.deliver source culture { limit }).2 = .ok ()) :
    (t.deliver source culture { limit }).1.text = t.output source culture := by
  rw [deliver_eq] at h ⊢
  obtain ⟨g, -, htext, hok, -⟩ := TextSink.exists_prefix_receive { limit } (t.render source culture)
  rw [htext, hok h, content_render]
  rfl

theorem exists_parts {t : Template} (h : t.fails source culture = false) :
    ∃ parts, List.Forall₂ (fun u part => (ofTokens [u]).renderToText source culture = .ok part)
      t.tokens parts ∧ parts.flatten = t.output source culture := by
  refine ⟨t.tokens.map (Token.output source culture), ?_, ?_⟩
  · rw [List.forall₂_map_right_iff, List.forall₂_same]
    intro u hu
    have hfails : (ofTokens [u]).fails source culture = false := by
      simpa [fails, ofTokens] using List.any_eq_false.1 h u hu
    rw [renderToText_eq_ok_iff, output_eq_flatMap source culture _ hfails]
    exact ⟨hfails, List.flatMap_singleton ..⟩
  · rw [← List.flatMap_def, ← output_eq_flatMap source culture t h]

/-- **All text sinks agree, and the limit is exact.** A sink reports success exactly if the template
has a text and there is room for it. It then holds that text, which is also made up of the texts of
the tokens. Otherwise the error is that a write was rejected. Nothing changes if the type of the sink
is not known. There is no text exactly if some value fails, and the error is then the same. -/
theorem deliver_outcome (t : Template) (limit : Option Nat) :
    let r := t.deliver source culture { limit }
    (r.2 = .ok () ↔ ∃ text, t.renderToText source culture = .ok text ∧
      ∀ n, limit = some n → Text.byteLength text ≤ n) ∧
    (r.2 = .ok () → t.renderToText source culture = .ok r.1.text ∧
      ∃ parts, List.Forall₂ (fun u part => (ofTokens [u]).renderToText source culture = .ok part)
        t.tokens parts ∧ parts.flatten = r.1.text) ∧
    (∀ e, r.2 = .error e → e = .rejectedWrite) ∧
    t.deliverTo source culture (AnyWriter.of ({ limit } : TextSink)) = (.of r.1, r.2) ∧
    ((∃ e, t.renderToText source culture = .error e) ↔ ∃ tag value, .tag tag ∈ t.tokens ∧
      source tag.name = some value ∧ (value.render tag.format culture).complete = false) ∧
    ∀ e, t.renderToText source culture = .error e → e = .rejectedWrite := by
  intro r
  refine ⟨?_, fun hok => ?_, fun e he => ?_, ?_, ?_, fun e he => ?_⟩
  · rw [t.deliver_eq_ok_iff]
    simp only [renderToText_eq_ok_iff, and_assoc, exists_and_left, exists_eq_left']
  · have htext := text_deliver source culture hok
    have hfails := ((t.deliver_eq_ok_iff source culture limit).1 hok).1
    obtain ⟨parts, hparts, hflatten⟩ := exists_parts source culture hfails
    exact ⟨(t.renderToText_eq_ok_iff source culture).2 ⟨hfails, htext.symm⟩, parts, hparts,
      hflatten.trans htext.symm⟩
  · simp only [r, deliver_eq] at he
    exact TextWriter.eq_rejectedWrite_of_receive he
  · exact AnyWriter.forwards_of.receiveEach _ _ _
  · rw [← t.fails_iff, renderToText_output]
    cases t.fails source culture <;> simp
  · rw [renderToText_output] at he
    split at he
    · exact (Except.error.inj he).symm
    · cases he

end Template

end MessageTemplate
