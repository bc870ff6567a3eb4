/-! What the agent reports of its work: events with a level, a message and named fields. -/

namespace EdgeAgent

/-- How grave an event is. -/
inductive Level where
  | error
  | warn
  | info
  deriving DecidableEq

def Level.name : Level → String
  | .error => "ERROR"
  | .warn => "WARN"
  | .info => "INFO"

/-- A reported event. -/
structure LogEntry where
  level : Level
  message : String
  fields : List (String × String) := []
  deriving DecidableEq

/-- Events in the order in which they were reported. -/
abbrev Log := List LogEntry

end EdgeAgent
