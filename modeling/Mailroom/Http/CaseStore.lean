import Mailroom.Http
import Mailroom.Peers

/-!
# The case store over the network

Each call is one request with the tokens of the caller. Whatever goes wrong is
a failure of the case store, with the status that the store answered with if it
answered.
-/

namespace Mailroom.Http.CaseStore

open Mailroom.CaseStore

variable {σ : Type}

/-- A call: its method and path, and what else the request holds. -/
structure Call where
  method : String
  path : String
  query : List (String × String) := []
  headers : List (String × String) := []
  body : Body := .empty

/-- The request of a call. -/
def Call.draft (call : Call) (base : String) (caller : Caller) : Draft :=
  { method := call.method
    address := base ++ call.path
    query := call.query
    headers := [
      ("authorization", caller.userToken),
      ("serviceauthorization", caller.serviceToken),
      ("content-type", jsonType),
      ("accept", jsonType)] ++ call.headers
    body := call.body }

/-- What a failed request means. -/
def sendFailure (call : Call) : SendFailure → Mailroom.Failure
  | .status response => .store (.refused call.method call.path response.status)
  | .transport reason => .store (.unreachable call.method call.path reason)
  | .faulty fault => .faulty fault

/-- The object in an answer. -/
def objectOf (call : Call) (response : Response) : Except Mailroom.Failure Json :=
  match response.json? with
  | .error fault => .error (.faulty fault)
  | .ok none => .error (.store (.unreadable call.method call.path response.status))
  | .ok (some (.obj members)) => .ok (.obj members)
  | .ok (some _) =>
    .error (.store (.notAnObject call.method call.path
      (String.ofList (response.text.toList.take 200)) response.status))

/-- Whether a fault in reading an answer is reported as an unexpected answer. -/
def isUnexpected : Fault → Bool
  | .missingMember _ | .wrongShape | .badContent | .noSuchOperation => true
  | _ => false

/-- What was read from an answer. -/
def readAnswer {α : Type} : Except Fault α → Except Mailroom.Failure α
  | .ok value => .ok value
  | .error fault =>
    if isUnexpected fault then .error (.store (.unexpected fault)) else .error (.faulty fault)

/-- Make a call and read its answer. -/
def perform {α : Type} (transport : Transport σ) (base : String) (caller : Caller) (call : Call)
    (read : Json → Except Fault α) : Ask σ α :=
  exchange transport (call.draft base caller)
    (answered (fun response => objectOf call response >>= fun body => readAnswer (read body))
      (sendFailure call))

/-- The cases in an answer to a search. -/
def readCases (body : Json) : Except Fault (List Case) := do
  let members ← OpenData.membersOf body
  (← OpenData.walkFilled (members.member "cases")).mapM Case.ofReport

/-- The path of the case types of a user. -/
def typePath (target : Target) : String :=
  "/caseworkers/" ++ target.userId.display ++ "/jurisdictions/"
    ++ target.jurisdiction.getD "None" ++ "/case-types/" ++ target.caseType.display

/-- The path of a target's case, if it names one. -/
def casePath (target : Target) : String :=
  match target.caseRef with
  | some reference => "/cases/" ++ reference
  | none => ""

/-- The call that searches cases. -/
def searchCall (caseTypes query : String) : Call :=
  { method := "POST"
    path := "/searchCases"
    query := [("ctid", caseTypes)]
    body := .text query }

/-- The call that fetches a case. -/
def fetchCall (reference : String) : Call :=
  { method := "GET", path := "/cases/" ++ reference, headers := [("experimental", "true")] }

/-- The call that starts an event. -/
def startCall (target : Target) (event : String) : Call :=
  { method := "GET"
    path := typePath target ++ casePath target ++ "/event-triggers/" ++ event ++ "/token" }

/-- The call that submits an event. -/
def submitCall (target : Target) (submission : Submission) : Call :=
  { method := "POST"
    path := match target.caseRef with
      | some reference => typePath target ++ "/cases/" ++ reference ++ "/events"
      | none => typePath target ++ "/cases"
    body := .json submission.toJson }

/-- The case store at an address. -/
def questions (transport : Transport σ) (url : String) : Questions σ :=
  let base := baseAddress url
  { search := fun caller caseTypes query =>
      perform transport base caller (searchCall caseTypes query) readCases
    fetch := fun caller reference => perform transport base caller (fetchCall reference) Case.ofReport
    start := fun caller target event =>
      perform transport base caller (startCall target event) StartedEvent.ofReport
    submit := fun caller target submission =>
      perform transport base caller (submitCall target submission) Case.ofReport }

end Mailroom.Http.CaseStore
