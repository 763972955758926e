import Mailroom.Json.Display
import Mailroom.OpenData

/-!
# Cases

A case as the case store reports it: an identity, a jurisdiction, a type, a
state and open data. Reports of two shapes are read, which name the type and
the data differently. A started event comes with a token that a submission must
give back.
-/

namespace Mailroom

/-- A case. Jurisdiction, type and state are whatever was reported. -/
structure Case where
  id : Option Int := none
  jurisdiction : Json := .null
  caseType : Json := .null
  state : Json := .null
  data : Fields := []
  deriving Inhabited

namespace Case

/-- A number, or null when there is none. -/
def idValue (id : Option Int) : Json :=
  match id with
  | some id => .int id
  | none => .null

/-- A case as a value. -/
def toJson (case : Case) : Json :=
  .obj [
    ("id", idValue case.id),
    ("jurisdiction", case.jurisdiction),
    ("case_type_id", case.caseType),
    ("state", case.state),
    ("data", .obj case.data)]

/-- An identity in a message. -/
def idText (id : Option Int) : String :=
  (idValue id).display

/-- The first value that says something, the second one otherwise. -/
def firstFilled (first second : Json) : Json :=
  if first.isVacant then second else first

/-- Read the report of a case. -/
def ofReport (report : Json) : Except Fault Case := do
  let members ← OpenData.membersOf report
  let id ← match members.member "id" with
    | .null => pure none
    | id => some <$> OpenData.wholeNumber id
  let data := firstFilled (members.member "case_data") (members.member "data")
  let data ← if data.isVacant then pure [] else OpenData.asObject data
  return {
    id
    jurisdiction := members.member "jurisdiction"
    caseType := firstFilled (members.member "case_type_id") (members.member "case_type")
    state := members.member "state"
    data }

end Case

/-- A started event: its token, its name, and the case it runs on. -/
structure StartedEvent where
  token : Json
  eventId : Json
  case : Option Case
  deriving Inhabited

namespace StartedEvent

/-- A member that must be there. -/
def needed (members : Fields) (name : String) : Except Fault Json :=
  match members.get? name with
  | some value => .ok value
  | none => .error (.missingMember name)

/-- Read the report of a started event. -/
def ofReport (report : Json) : Except Fault StartedEvent := do
  let members ← OpenData.membersOf report
  let token ← needed members "token"
  let eventId ← needed members "event_id"
  let details := members.member "case_details"
  let case ← if details.isVacant then pure none else some <$> Case.ofReport details
  return ⟨token, eventId, case⟩

/-- A started event as a value. -/
def toJson (started : StartedEvent) : Json :=
  .obj [
    ("token", started.token),
    ("event_id", started.eventId),
    ("case_details", (started.case.map Case.toJson).getD .null)]

end StartedEvent

/-- What a submission says about its event. -/
structure EventNote where
  id : Json
  summary : Json := .null
  description : Json := .null
  deriving Inhabited

/-- What is submitted: data, a note on the event, and the token of its start. -/
structure Submission where
  data : Fields
  event : EventNote
  token : Json
  ignoreWarning : Bool := true
  deriving Inhabited

namespace Submission

/-- A submission as a value. -/
def toJson (submission : Submission) : Json :=
  .obj [
    ("data", .obj submission.data),
    ("event", .obj [
      ("id", submission.event.id),
      ("summary", submission.event.summary),
      ("description", submission.event.description)]),
    ("event_token", submission.token),
    ("ignore_warning", .bool submission.ignoreWarning)]

end Submission
end Mailroom
