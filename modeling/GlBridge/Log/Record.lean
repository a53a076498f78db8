/-!
# Log records

A record has a level, a target, which names the part of the program that it comes
from, and a text.
-/

namespace GlBridge.Log

/-- The urgency of a record, from the most to the least urgent. -/
inductive Level where
  | error
  | warn
  | info
  | debug
  | trace
  deriving DecidableEq, Repr

namespace Level

/-- The position of a level, one for the most urgent. -/
def rank : Level → Nat
  | .error => 1
  | .warn => 2
  | .info => 3
  | .debug => 4
  | .trace => 5

/-- The word for a level. -/
def name : Level → String
  | .error => "ERROR"
  | .warn => "WARN"
  | .info => "INFO"
  | .debug => "DEBUG"
  | .trace => "TRACE"

end Level

/-- An entry of the log. -/
structure Record where
  level : Level
  target : String
  text : String
  deriving DecidableEq, Repr

end GlBridge.Log
