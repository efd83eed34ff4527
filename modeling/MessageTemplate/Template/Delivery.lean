import MessageTemplate.Sink.Adapter
import MessageTemplate.Sink.Text
import MessageTemplate.Template.Render

/-!
# Delivering templates

A template is delivered to a sink token by token, and no token is rendered after a failure.

* `Template.deliverTo`: to a writer. `Template.deliver`: to a text sink.
  `Template.deliverTo_eq`: the writer receives the rendering.
* `Template.deliverBytes`: to a byte sink, by way of an adapter. `Template.deliverBytes_eq`: the
  same.
-/

namespace MessageTemplate.Template

universe u

/-- Write the tokens in order, up to the first failure. -/
def deliverTo {σ : Type u} [TextWriter σ] (t : Template) (source : Source)
    (culture : Option Culture) (writer : σ) : σ × Except Error Unit :=
  TextWriter.receiveEach (Token.render source culture) writer t.tokens

/-- Write to a sink for texts. -/
def deliver (t : Template) (source : Source) (culture : Option Culture) (sink : TextSink) :
    TextSink × Except Error Unit :=
  t.deliverTo source culture sink

/-- Write to a sink for bytes, through an adapter that remembers its answer. -/
def deliverBytes (t : Template) (source : Source) (culture : Option Culture) (sink : ByteSink) :
    ByteSink × Except Error Unit :=
  let (a, done) := Adapter.receiveEach (Token.render source culture) { sink } t.tokens
  (a.sink, a.outcome done)

theorem deliverTo_eq {σ : Type u} [TextWriter σ] (t : Template) (source : Source)
    (culture : Option Culture) (writer : σ) :
    t.deliverTo source culture writer = TextWriter.receive writer (t.render source culture) :=
  TextWriter.receiveEach_eq _ _ _

theorem deliverBytes_eq (t : Template) (source : Source) (culture : Option Culture)
    (sink : ByteSink) :
    t.deliverBytes source culture sink = sink.receive (t.render source culture) :=
  (Adapter.outcome_receiveEach _ _ _).trans (sink.receiveEach_eq _ _)

end MessageTemplate.Template
