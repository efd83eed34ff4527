import MessageTemplate.Cache

/-!
# The log of the command

What the command may say about its work, apart from its result.

* `LogEvent`: an event of the log. `LogEvent.isDebug`: whether it is meant for debugging, and not
  only for tracing every step.
* `LogEvent.line`: the line for an event, without the time that stands in front of it.
-/

namespace MessageTemplate

/-- What the command may say about its work. -/
inductive LogEvent where
  /-- The settings file of the user is about to be read. -/
  | loading (path : Text)
  /-- The cache reports about a request. -/
  | cache (event : Cache.Event)
  deriving Repr, DecidableEq

namespace LogEvent

/-- Whether an event is meant for debugging. -/
def isDebug : LogEvent → Bool
  | loading _ | cache (.flushed ..) => true
  | cache (.tooLong _) => false

/-- The line for an event, without its time. -/
def line : LogEvent → String
  | loading path => "DEBUG Loading cache configuration path=" ++ String.ofList path
  | cache (.flushed evicted maxItems) =>
    "DEBUG Template cache full, clearing evicted=" ++ toString evicted ++
      " max_items=" ++ toString maxItems
  | cache (.tooLong bytes) => "TRACE Template too long to cache len=" ++ toString bytes

end LogEvent

end MessageTemplate
