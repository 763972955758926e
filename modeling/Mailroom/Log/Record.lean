import Mailroom.Flow
import Mailroom.Log.Template
import Mailroom.Text.Letter

/-!
# Log records

A record is what is known of a log line: how grave it is, who wrote it, the
template of its message with its values, the error it reports and further
details. It is written as an object whose members are in a fixed order; of the
details only those with a known name are written, as text.

The threshold of the log is set by the name of a level. Other components have a
threshold of their own, so that they stay quiet.
-/

namespace Mailroom.Log

/-- The names of levels and their numbers; of two names for one number the
first is written. -/
def levelTable : List (String × Nat) :=
  [("CRITICAL", 50), ("FATAL", 50), ("ERROR", 40), ("WARNING", 30), ("WARN", 30), ("INFO", 20),
    ("DEBUG", 10), ("NOTSET", 0)]

/-- The name of a level by its number. -/
def levelName (level : Int) : String :=
  match levelTable.find? fun entry => (entry.2 : Int) == level with
  | some (name, _) => name
  | none => "Level " ++ toString level

/-- The number of a level by its name, however it is cased. Two further names
are taken: one for a text and one for a table of styles, which are no levels. -/
def levelNumber (name : String) : Except Fault Nat :=
  let name := Text.upper name
  match levelTable.lookup name with
  | some number => .ok number
  | none =>
    if name = "BASIC_FORMAT" then .error .badContent
    else if name = "_STYLES" then .error .wrongShape
    else .error .noSuchOperation

/-- The thresholds of the log. -/
structure Thresholds where
  /-- The threshold of the mail room. -/
  own : Nat
  /-- The threshold of the components that it is built on. -/
  quieted : Nat := 30
  /-- Whether lines are written as objects. -/
  asObjects : Bool
  deriving DecidableEq, Repr

/-- The thresholds for a level given by name. -/
def Thresholds.ofLevel (name : String) (asObjects : Bool) : Except Fault Thresholds :=
  (levelNumber name).map fun own => { own, asObjects }

/-- What is known of a log line. -/
structure Record where
  level : Int := 20
  logger : String
  function : Option String := none
  template : String
  values : List Json := []
  /-- The wording of the error that the line reports. -/
  error : Option String := none
  details : Fields := []
  /-- The correlation that was noted when the line was written. -/
  correlation : Option String := none

/-- The names of the details that are written, in order. -/
def detailNames : List String :=
  ["envelope_id", "container", "classification", "jurisdiction", "case_id", "exception_record_id",
    "event_id", "status_code", "duration_ms"]

/-- The details of a record that are written. -/
def Record.detailMembers (record : Record) : Fields :=
  detailNames.filterMap fun name =>
    (record.details.get? name).map fun value => (name, .str value.display)

/-- The correlation of a record: the noted one, or what the details say. -/
def Record.requestId (record : Record) : Json :=
  match record.correlation with
  | some correlation => .str correlation
  | none => (record.details.get? "request_id").getD (.str noCorrelation)

/-- The members of a written record, given the time of writing and the trace of
the error. -/
def Record.members (record : Record) (writtenAt trace : String) : Except Fault Fields := do
  let message ← fillTemplate record.template record.values
  let errorMembers : Fields := match record.error with
    | some error => [("error", .str error), ("traceback", .str trace)]
    | none => []
  return [("timestamp", .str writtenAt),
    ("level", .str (levelName record.level)),
    ("request_id", record.requestId),
    ("logger", .str record.logger),
    ("function", .ofText? record.function),
    ("message", .str message)] ++ errorMembers ++ record.detailMembers

/-- Work under correlations one inside the other, which writes a line before the
first, after every entry and after every exit. -/
def nested : List (Option String) → Flow Unit Unit
  | [] => Flow.log .info ""
  | scope :: inner => do
    Flow.log .info ""
    Flow.correlated scope (nested inner)
    Flow.log .info ""

/-- The correlations that lines are written under when scopes are entered one
inside the other and left again: before, after every entry and after every exit. -/
def correlationsSeen (current : Option String) (scopes : List (Option String)) : List String :=
  ((nested scopes).run { peers := (), correlation := current }).2.log.map (·.correlation)

end Mailroom.Log
