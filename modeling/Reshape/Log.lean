/-!
# Log entries

A log entry is a line of text with the level that says how much it matters.
-/

namespace Reshape

/-- A `Level` says how much a log entry matters. -/
inductive Level where
  | trace
  | debug
  | info
  | warn
  | error
deriving DecidableEq

/-- `level.render` is the level as written in a log. -/
def Level.render : Level → String
  | .trace => "TRACE"
  | .debug => "DEBUG"
  | .info => "INFO"
  | .warn => "WARN"
  | .error => "ERROR"

/-- `level.weight` grows with how much the entry matters. -/
def Level.weight : Level → Nat
  | .trace => 0
  | .debug => 1
  | .info => 2
  | .warn => 3
  | .error => 4

/-- A `LogEntry` is a line of a log. -/
structure LogEntry where
  level : Level
  text : String
deriving DecidableEq

/-- `entry.matters least` says the entry matters at least as much as `least`. -/
def LogEntry.matters (least : Level) (entry : LogEntry) : Bool :=
  least.weight ≤ entry.level.weight

/-- `entry.render` is the entry as a line. -/
def LogEntry.render (entry : LogEntry) : String :=
  "[" ++ entry.level.render ++ "] " ++ entry.text

end Reshape
