import MessageTemplate.Error
import MessageTemplate.Settings

/-!
# The limits of a cache

* `Limits`: how many templates a cache holds, and how long they are at most.
* `Limits.validate`: both limits are positive; the number of templates is checked first.
  `Limits.validate_eq_ok_iff`: when limits are accepted.
* `Limits.ofSettings`: the limits that a settings text sets. A limit that is not set has its usual
  value. Each limit is set at most once, and nothing else is set.
* `Limits.ofFile`: the limits that the content of a settings file sets.
-/

namespace MessageTemplate

/-- How many templates a cache holds at once, and how long they are at most. -/
structure Limits where
  /-- The number of templates at which the cache is emptied. -/
  maxItems : Nat := 1000
  /-- The length of the longest template that is kept, in characters. -/
  maxTemplateLength : Nat := 1024
  deriving Repr, DecidableEq

namespace Limits

/-- The number that a limit stands at. -/
def get (l : Limits) : Limit → Nat
  | .maxItems => l.maxItems
  | .maxTemplateLength => l.maxTemplateLength

/-- The limits where no settings are given. -/
def usual : Limits := {}

/-- The largest number that a limit can be set to. -/
def maxSetting : Int := 0xFFFFFFFFFFFFFFFF

/-- Refuse a limit of zero. -/
def validate (l : Limits) : Except Error Limits :=
  if l.maxItems = 0 then .error (.zeroLimit .maxItems)
  else if l.maxTemplateLength = 0 then .error (.zeroLimit .maxTemplateLength)
  else .ok l

/-- Whether an assignment sets a limit to a number in its range. -/
def isSetting (a : Text × Int) : Bool :=
  (a.1 == Limit.maxItems.name.toList || a.1 == Limit.maxTemplateLength.name.toList) &&
    0 ≤ a.2 && a.2 ≤ maxSetting

/-- The number that assignments set a limit to, or its usual value. -/
def setting (as : List (Text × Int)) (l : Limit) : Nat :=
  ((as.find? (·.1 == l.name.toList)).map (·.2.toNat)).getD (usual.get l)

/-- The limits that assignments set, if each sets a limit and none sets a limit again. -/
def ofAssignments? (as : List (Text × Int)) : Option Limits :=
  if as.all isSetting ∧ (as.map (·.1)).Nodup then
    some ⟨setting as .maxItems, setting as .maxTemplateLength⟩
  else none

/-- The limits of a settings text. It is read as a whole before zeros are refused. -/
def ofSettings (t : Text) : Except Error Limits :=
  match (Settings.read? t).bind ofAssignments? with
  | some l => l.validate
  | none => .error .malformedSettings

/-- The limits of the content of a file, which is to be a settings text in UTF-8. -/
def ofFile (content : ByteArray) : Except Error Limits :=
  match String.fromUTF8? content with
  | some s => ofSettings s.toList
  | none => .error (.system .invalidUtf8)

theorem validate_eq_ok_iff {l m : Limits} :
    l.validate = .ok m ↔ l = m ∧ 0 < l.maxItems ∧ 0 < l.maxTemplateLength := by
  unfold validate
  split
  · simp_all
  · split
    · simp_all
    · simp_all [Nat.pos_iff_ne_zero]

end Limits

end MessageTemplate
