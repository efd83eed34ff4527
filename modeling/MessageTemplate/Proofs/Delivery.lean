import MessageTemplate.Sink.Capacity
import MessageTemplate.Template.Delivery

/-!
# What a byte sink gets of a template

A template shows its tokens up to the first value that fails. Such a value still shows what it wrote
before it failed, unless it stands in a column. A byte sink gets what the template shows, as far as
there is room, and only if there was room for all of it the failing value is reported.

* `Token.fails`, `Token.output`: whether a token shows a value that fails, and what it shows.
* `Template.fails`, `Template.output`: the same for a template.
  `Template.renderToText_output`: the text of a template is what it shows.
* `Template.deliverBytes_output`: what any sink gets.
* **`Template.deliverBytes_outcome`**: the sink, its limit and the failing value each get their due.
-/

namespace MessageTemplate

section

variable (source : Source) (culture : Option Culture)

namespace Token

/-- Whether a token shows a value that fails. -/
def fails : Token → Bool
  | text .. => false
  | tag t => (source t.name).any fun value => !(value.render t.format culture).complete

/-- What a token shows. A value that fails shows what it wrote, but nothing in a column. -/
def output : Token → Text
  | text meaning _ => meaning
  | tag t =>
    match source t.name, t.alignment with
    | none, _ => t.written
    | some value, none => (value.render t.format culture).content
    | some value, some a =>
      if (value.render t.format culture).complete then
        a.place (value.render t.format culture).content
      else []

/-- What tokens show, up to the first value that fails. -/
def outputs : List Token → Text
  | [] => []
  | t :: ts => t.output source culture ++ if t.fails source culture then [] else outputs ts

theorem complete_render (t : Token) :
    (t.render source culture).complete = !t.fails source culture := by
  cases t with
  | text meaning written => rfl
  | tag t =>
    simp only [Token.render, Tag.render, fails]
    cases source t.name with
    | none => rfl
    | some value =>
      simp only [Tag.renderValue, Option.any_some, Bool.not_not]
      cases t.alignment with
      | none => rfl
      | some a =>
        simp only [Rendering.align, Rendering.text?]
        cases (value.render t.format culture).complete with
        | false => rfl
        | true => simp only [if_true, Rendering.pad]; cases a.side <;> rfl

theorem content_render (t : Token) :
    (t.render source culture).content = t.output source culture := by
  cases t with
  | text meaning written => exact Rendering.content_ofText meaning
  | tag t =>
    simp only [Token.render, Tag.render, output]
    cases source t.name with
    | none => exact Rendering.content_ofText t.written
    | some value =>
      simp only [Tag.renderValue]
      cases t.alignment with
      | none => rfl
      | some a =>
        simp only [Rendering.align, Rendering.text?]
        cases (value.render t.format culture).complete with
        | false => rfl
        | true => exact Rendering.content_pad a _

end Token

namespace Template

/-- Whether a template shows a value that fails. -/
def fails (t : Template) : Bool := t.tokens.any (Token.fails source culture)

/-- What a template shows. -/
def output (t : Template) : Text := Token.outputs source culture t.tokens

theorem complete_render (t : Template) :
    (t.render source culture).complete = !t.fails source culture := by
  rw [render, fails, Rendering.complete_concat, List.all_map, List.not_any_eq_all_not]
  congr 1
  funext u
  exact u.complete_render source culture

theorem content_render (t : Template) :
    (t.render source culture).content = t.output source culture := by
  unfold render output
  induction t.tokens with
  | nil => rfl
  | cons u us ih =>
    rw [List.map_cons, Rendering.concat_cons, Rendering.content_append, Token.outputs, ih,
      u.complete_render, u.content_render]
    cases u.fails source culture <;> simp

theorem renderToText_output (t : Template) :
    t.renderToText source culture =
      if t.fails source culture then .error .rejectedWrite else .ok (t.output source culture) := by
  rw [renderToText_eq, Rendering.toText, Rendering.text?, complete_render, content_render]
  cases t.fails source culture <;> rfl

theorem deliverBytes_output {s : ByteSink} (h : s.Moves) (t : Template) :
    t.deliverBytes source culture s =
      ((s.accept (Text.utf8 (t.output source culture))).1,
        if s.hasRoom (Text.utf8 (t.output source culture)) then
          if t.fails source culture then .error .rejectedWrite else .ok ()
        else .error (.system s.whenFull.cause)) := by
  rw [deliverBytes_eq, ByteSink.receive_eq h, complete_render, content_render]
  cases t.fails source culture <;> rfl

theorem deliverBytes_of_lt {s : ByteSink} (h : s.Moves) {t : Template} {l : Nat}
    (hs : s.space = some l) (hlt : l < (Text.utf8 (t.output source culture)).length) :
    t.deliverBytes source culture s =
      (s.hold ((Text.utf8 (t.output source culture)).take l),
        .error (.system s.whenFull.cause)) := by
  have hroom : ¬s.hasRoom (Text.utf8 (t.output source culture)) = true := by
    simpa [ByteSink.hasRoom, hs] using hlt
  rw [deliverBytes_output source culture h, if_neg hroom, ByteSink.accept_of_lt hs hlt]

theorem deliverBytes_of_hasRoom {s : ByteSink} (h : s.Moves) {t : Template}
    (hroom : s.hasRoom (Text.utf8 (t.output source culture)) = true) :
    t.deliverBytes source culture s =
      (s.hold (Text.utf8 (t.output source culture)),
        if t.fails source culture then .error .rejectedWrite else .ok ()) := by
  rw [deliverBytes_output source culture h, if_pos hroom, ByteSink.accept_of_hasRoom hroom]

/-- **A delivery says what went wrong.** Let `D` be the bytes of what a template shows, up to the
first value that fails. If there is not room for all of `D`, a sink gets the bytes for which there
is room, and the error is the one of the sink, or says that it took nothing. Otherwise it gets all
of `D`, and there is an error only if a value fails. How many bytes the sink takes at once, one at
least, makes no difference. If no value fails, `D` is the text of the template. -/
theorem deliverBytes_outcome {step : Option Nat} (hstep : ∀ n, step = some n → 0 < n)
    (limit : Option Nat) (full : WhenFull) (t : Template) :
    let D := Text.utf8 (t.output source culture)
    let r := t.deliverBytes source culture { step, limit, whenFull := full }
    (∀ l, limit = some l → l < D.length → r.1.held.toList = D.take l ∧
      ∃ cause, r.2 = .error (.system cause) ∧ (∀ e, full = .fail e → cause = e) ∧
        (full = .takeNone → cause.message = "failed to write whole buffer")) ∧
    ((∀ l, limit = some l → D.length ≤ l) → r.1.held.toList = D ∧
      r.2 = if t.fails source culture then .error .rejectedWrite else .ok ()) ∧
    (t.renderToText source culture =
      if t.fails source culture then .error .rejectedWrite else .ok (t.output source culture)) ∧
    ∀ step' : Option Nat, (∀ n, step' = some n → 0 < n) →
      (t.deliverBytes source culture { step := step', limit, whenFull := full }).2 = r.2 ∧
      (t.deliverBytes source culture { step := step', limit, whenFull := full }).1.held =
        r.1.held := by
  intro D r
  have h : ByteSink.Moves { step, limit, whenFull := full } := hstep
  have hspace : ByteSink.space { step, limit, whenFull := full } = limit := by
    cases limit <;> rfl
  refine ⟨fun l hl hlt => ?_, fun hle => ?_, t.renderToText_output source culture,
    fun step' hstep' => ?_⟩
  · have hr := deliverBytes_of_lt source culture h (hspace.trans hl) hlt
    simp only [r, hr, ByteSink.toList_held_hold]
    refine ⟨rfl, full.cause, rfl, ?_, ?_⟩
    · rintro e rfl
      rfl
    · rintro rfl
      rfl
  · have hroom : ByteSink.hasRoom { step, limit, whenFull := full } D = true := by
      rw [ByteSink.hasRoom_iff, hspace]
      exact hle
    have hr := deliverBytes_of_hasRoom source culture h hroom
    simp only [r, hr, ByteSink.toList_held_hold]
    exact ⟨rfl, trivial⟩
  · have h' : ByteSink.Moves { step := step', limit, whenFull := full } := hstep'
    simp only [r, deliverBytes_output source culture h, deliverBytes_output source culture h']
    exact ⟨rfl, rfl⟩

/-- A source of one value, which writes `xy` and fails. -/
def brittle : Source := fun name =>
  if name = ['v'] then some ⟨fun _ _ => ⟨[.text ['x', 'y']], false⟩⟩ else none

/-- The template `a{v}b`. -/
def around : Template where
  text := ['a', '{', 'v', '}', 'b']
  tokens := [.verbatim ['a'], .tag ⟨['v'], .default, none, none, ['{', 'v', '}']⟩, .verbatim ['b']]

theorem outcome_brittle :
    ((around.deliverBytes brittle none ⟨some 1, some 2, .takeNone, #[]⟩).1.held.toList = [97, 120] ∧
      ∃ cause : SystemError, cause.message = "failed to write whole buffer" ∧
        (around.deliverBytes brittle none ⟨some 1, some 2, .takeNone, #[]⟩).2 =
          .error (.system cause)) ∧
    (around.deliverBytes brittle none ⟨some 1, some 3, .takeNone, #[]⟩).1.held.toList =
      [97, 120, 121] ∧
    (around.deliverBytes brittle none ⟨some 1, some 3, .takeNone, #[]⟩).2 = .error .rejectedWrite ∧
    (around.deliverBytes brittle none ⟨some 2, some 3, .takeNone, #[]⟩).2 =
      .error .rejectedWrite := by
  have hpos (k : Nat) : ∀ n, some (k + 1) = some n → 0 < n := by
    rintro n ⟨⟩
    exact Nat.succ_pos k
  obtain ⟨hfull, -⟩ := deliverBytes_outcome brittle none (hpos 0) (some 2) .takeNone around
  obtain ⟨-, hfits, -, hstep⟩ :=
    deliverBytes_outcome brittle none (hpos 0) (some 3) .takeNone around
  obtain ⟨hheld, cause, hcause, -, hmessage⟩ := hfull 2 rfl (by decide)
  obtain ⟨hheld', hvalue⟩ := hfits (by rintro l ⟨⟩; decide)
  exact ⟨⟨hheld, cause, hmessage rfl, hcause⟩, hheld', hvalue,
    (hstep (some 2) (hpos 1)).1.trans hvalue⟩

end Template

end

end MessageTemplate
