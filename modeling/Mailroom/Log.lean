/-!
# Log lines

A line of the log has a level and a message. When it is written it also gets
the correlation of the work it belongs to.
-/

namespace Mailroom

/-- How grave a log line is. -/
inductive LogLevel where
  | info
  | warning
  | error
  deriving DecidableEq, Repr

/-- The name of a level. -/
def LogLevel.name : LogLevel → String
  | .info => "INFO"
  | .warning => "WARNING"
  | .error => "ERROR"

/-- A message and its level. -/
structure LogLine where
  level : LogLevel
  message : String
  deriving DecidableEq, Repr

/-- A line with the correlation it was written under. -/
structure LogEntry where
  line : LogLine
  correlation : String
  deriving DecidableEq, Repr

/-- The correlation of work that has none of its own. -/
def noCorrelation : String := "no-request-id"

/-- A correlation that says nothing counts as none. -/
def correlationOf : Option String → String
  | some text => if text.isEmpty then noCorrelation else text
  | none => noCorrelation

end Mailroom
