import MessageTemplate.Scalar.Rendering
import Std.Data.HashMap
import Std.Data.TreeMap

/-!
# Values and sources

A value is anything that can be rendered in a format by the conventions of a culture, and a source
binds names to values.

* `Scalar.toValue`: a scalar as a value, which never fails.
* `Source.ofList`: a list in which the first binding of a name counts.
* `Source.ofHashMap`, `Source.ofTreeMap`: maps, in which the last binding of a name counts when
  they are made from a list.
-/

namespace MessageTemplate

/-- A value that can be rendered. It stops at the first write that a sink refuses and hands the
failure on, so what it writes does not depend on the sink. -/
structure Value where
  render : Option Text → Option Culture → Rendering

/-- A scalar is rendered in any format and by any conventions. -/
def Scalar.toValue (s : Scalar) : Value := ⟨fun format culture => s.render format culture⟩

/-- The values that names are bound to. Names are compared exactly. -/
abbrev Source : Type := Text → Option Value

namespace Source

/-- The first binding of a name in a list. -/
def ofList (bindings : List (Text × Value)) : Source := fun name =>
  (bindings.find? (·.1 == name)).map (·.2)

/-- A map binds its keys. -/
def ofHashMap (bindings : Std.HashMap Text Value) : Source := bindings.get?

/-- A map in order binds its keys too. -/
def ofTreeMap (bindings : Std.TreeMap Text Value) : Source := bindings.get?

end Source

end MessageTemplate
