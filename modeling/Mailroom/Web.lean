import Mailroom.Callback.Process
import Mailroom.Json.Writer
import Mailroom.Url.Request
import Mailroom.Web.Body
import Mailroom.Web.Health
import Mailroom.Web.Samples

/-!
# The web interface

The case store sends its callbacks here; the platform asks for health and
counters. Every request is correlated by its own identity or a fresh one, and
logged unless it is polled. Problems with a callback are reported in the body
of the answer, so that the caseworker sees them.
-/

namespace Mailroom.Web

open Schema

/-- A request to the mail room. The names of headers are in lower case. -/
structure Request where
  method : String
  path : String
  headers : List (String × String) := []
  octets : List UInt8 := []

/-- The body of an answer: a value, or the lines of the counters. -/
inductive AnswerBody where
  | value (value : Json)
  | samples (lines : List String)

/-- An answer of the mail room. -/
structure Answer where
  status : Nat
  requestId : Option String := none
  body : AnswerBody

/-- An answer with a value. -/
def Answer.ofValue (status : Nat) (value : Json) : Answer :=
  { status, body := .value value }

/-- An answer that only says what went wrong. -/
def Answer.detail (status : Nat) (text : String) : Answer :=
  .ofValue status (.obj [("detail", .str text)])

/-- The value of a header. -/
def Request.header? (request : Request) (name : String) : Option String :=
  request.headers.lookup name

/-- A path without its escapes. -/
def unescaped (path : List Char) : List Char :=
  Text.decodeUtf8Lossy (Text.percentDecoded path)

/-- The root of the mail room. -/
def root : Url.Parts :=
  { scheme := "http".toList, authority := "localhost".toList }

/-- The path that an address leads to. Escapes are taken off twice, by the side
that asks and by the side that answers; an empty path is the root. -/
def pathOf (address : String) : Except Fault String := do
  let target ← (← Url.Target.read address).resolved root
  let path := unescaped (unescaped target.path)
  return if path.isEmpty then "/" else String.ofList path

/-- Headers as they arrive: the names in lower case, all of it in ASCII. -/
def headersOf (headers : List (String × String)) : Except Fault (List (String × String)) :=
  headers.mapM fun (name, value) => do
    checkEncodable .ascii name.toList
    checkEncodable .ascii value.toList
    return (Text.lower name, value)

/-- The path of a request as messages show it: a question mark or a number sign
ends it, and line breaks and tabs are left out. -/
def Request.shownPath (request : Request) : String :=
  let path := request.path.toList.takeWhile fun character => character != '?' && character != '#'
  let isBreak (character : Char) : Bool := ['\t', '\r', '\n'].contains character
  String.ofList (path.filter (!isBreak ·))

/-- The correlation of a request without one of its own. -/
def generatedId : String := "<generated>"

/-- The correlation of a request. -/
def Request.correlation (request : Request) : String :=
  match request.header? "x-request-id" with
  | some id => if id.isEmpty then generatedId else id
  | none => generatedId

/-- The path of callbacks. -/
def callbackPath : String := "/callback/create-new-case"

/-- Paths that are polled and not logged. -/
def polledPaths : List String := ["/health", "/metrics"]

/-- What a path leads to, and the method it is asked with. -/
inductive Endpoint where
  | root
  | health
  | metrics
  | callback
  deriving DecidableEq, Repr

namespace Endpoint

/-- The endpoints by path. -/
def table : List (String × Endpoint) :=
  [("/", .root), ("/health", .health), ("/metrics", .metrics), (callbackPath, .callback)]

/-- The method of an endpoint. -/
def method : Endpoint → String
  | .callback => "POST"
  | _ => "GET"

end Endpoint

/-- The name of a callback's outcome in the counters. -/
def outcomeName (result : Callback.Result) : String :=
  if !result.errors.isEmpty then "errors"
  else if !result.warnings.isEmpty then "warnings"
  else "success"

/-- A name as an answer writes it: each octet that half of a surrogate pair would
take is replaced. -/
def writableName (name : String) : String :=
  String.ofList (name.toList.flatMap fun character =>
    if Text.isHalf character then List.replicate 3 Text.replacementChar else [character])

mutual
/-- A value as an answer writes it: what is no finite number is null. -/
def writable : Json → Json
  | .real (.infinite _) | .real .notANumber => .null
  | .arr elements => .arr (writableElements elements)
  | .obj members => .obj (writableMembers members)
  | value => value

/-- Elements as an answer writes them. -/
def writableElements : List Json → List Json
  | [] => []
  | element :: rest => writable element :: writableElements rest

/-- Members as an answer writes them. -/
def writableMembers : List (String × Json) → List (String × Json)
  | [] => []
  | (name, value) :: rest => (writableName name, writable value) :: writableMembers rest
end

/-- How many values may stand inside each other in the data of an answer. -/
def maxNesting : Nat := 255

/-- The body of an answer to a callback, unless it cannot be written: data may be
nested too deep, and no text may be torn. -/
def answerBody (result : Callback.Result) : Except Fault Json :=
  let body := writable result.body
  if result.data.any fun member => maxNesting < member.2.nesting then .error .tooNested
  else do
    checkEncodable .unicode (Json.writeChars .compact body)
    return body

variable {σ : Type}

/-- Deal with a callback that was read, reporting problems in the answer. -/
def answerCallback (office : Office σ) (callback : Callback.Request)
    (userToken userId : Option String) : Flow σ Callback.Result := do
  let recordId := Case.idText (callback.record.bind (·.id))
  Flow.log .info ("Processing callback. Event ID: " ++ callback.eventId
    ++ ". Exception record ID: " ++ recordId)
  let problem (text : String) : Flow σ Callback.Result := do
    Flow.log .error ("Failed to process callback for exception record " ++ recordId ++ ": " ++ text)
    Flow.count (.callbackAnswered callback.eventId "failed")
    return { errors := [text] }
  match ← Flow.attempt (office.process callback userToken userId) with
  | .error (.callback refusal) => problem refusal.message
  | .error (.ambiguous ambiguity) => problem ambiguity.message
  | .error failure => Flow.fail failure
  | .ok result =>
    Flow.count (.callbackAnswered callback.eventId (outcomeName result))
    if result.caseId.isSome && !result.errors.isEmpty then
      Flow.log .warning ("Case " ++ Case.idText result.caseId ++ " created from exception record "
        ++ recordId ++ " but callback reported errors")
    return result

/-- The answer to a request that is not of the expected form. -/
def rejectRequest (request : Request) (violations : List Violation) : Flow σ Answer := do
  Flow.log .warning ("Validation error on " ++ request.method ++ " " ++ request.shownPath)
  return .ofValue 422 (.obj [
    ("error", .str "validation_error"),
    ("message", .str "Request validation failed"),
    ("details", .arr (violations.map violationValue))])

/-- Answer a callback. -/
def serveCallback (office : Office σ) (request : Request) : Flow σ Answer := do
  match readContent (request.header? "content-type") request.octets with
  | .error (.notJson position) => rejectRequest request [jsonViolation position]
  | .error .unreadable => return .detail 400 "There was an error parsing the body"
  | .ok content =>
    match checkContent Callback.checkRequest content with
    | .rejected violations => rejectRequest request violations
    | .accepted callback =>
      let result ← answerCallback office callback (request.header? "authorization")
        (request.header? "user-id")
      return .ofValue 200 (← Flow.reading (answerBody result))

/-- Answer how the mail room is; `ping` is what the message broker answered. -/
def serveHealth (ping : Except String Unit) : Flow σ Answer := do
  match ping with
  | .error reason => Flow.log .error ("Redis health check failed: " ++ reason)
  | .ok _ => pure ()
  let broker := brokerHealth ping
  let overall := Health.overall [broker.health]
  return .ofValue (if overall = .unhealthy then 503 else 200) (.obj [
    ("status", .str overall.name),
    ("components", .obj [("broker", .obj [
      ("status", .str broker.health.name),
      ("message", .str broker.message),
      ("latency_ms", if broker.isTimed then .str "<number>" else .null)])])])

/-- Answer what the mail room is. -/
def rootAnswer : Answer :=
  .ofValue 200 (.obj [
    ("name", .str "Bulk Scan Orchestrator API"),
    ("version", .str "0.1.0"),
    ("status", .str "running")])

/-- The path without slashes at its end, if it is one of an endpoint. -/
def redirection? (path : String) : Option String :=
  let bare := String.ofList (Text.dropEndWhile (· = '/') path.toList)
  if path != bare && (Endpoint.table.lookup bare).isSome then some bare else none

/-- Answer a request by its path and method. -/
def serve (office : Office σ) (request : Request) (ping : Except String Unit) : Flow σ Answer :=
  match Endpoint.table.lookup request.path with
  | none =>
    return match redirection? request.path with
      | some _ => .ofValue 307 .null
      | none => .detail 404 "Not Found"
  | some endpoint =>
    if request.method != endpoint.method then return .detail 405 "Method Not Allowed"
    else
      match endpoint with
      | .root => return rootAnswer
      | .health => serveHealth ping
      | .metrics => do
        return { status := 200, body := .samples (← get).metrics.sampleLines }
      | .callback => serveCallback office request

/-- Answer a request and log it. -/
def serveLogged (office : Office σ) (request : Request) (ping : Except String Unit) :
    Flow σ Answer := do
  let line := request.method ++ " " ++ request.shownPath
  let isQuiet := polledPaths.contains request.shownPath
  unless isQuiet do Flow.log .info line
  match ← Flow.attempt (serve office request ping) with
  | .error failure =>
    Flow.log .error ("Request failed: " ++ line ++ ": " ++ failure.message)
    Flow.fail failure
  | .ok answer =>
    if !isQuiet || 500 ≤ answer.status then
      Flow.log .info ("Request completed: " ++ toString answer.status)
    return { answer with requestId := some request.correlation }

/-- Answer a request; what nobody has dealt with is an internal error. -/
def respond (office : Office σ) (request : Request) (ping : Except String Unit) :
    Flow σ Answer := do
  match ← Flow.attempt
      (Flow.correlated (some request.correlation) (serveLogged office request ping)) with
  | .ok answer => return answer
  | .error _ =>
    Flow.log .error ("Unhandled exception on " ++ request.method ++ " " ++ request.shownPath)
    return .ofValue 500 (.obj [
      ("error", .str "internal_error"),
      ("message", .str "An unexpected error occurred. Please try again later.")])

/-- Answer a request and, when it is sent to another path, the request to that path. -/
def respondFollowing (office : Office σ) (request : Request) (ping : Except String Unit) :
    Flow σ Answer := do
  let answer ← respond office request ping
  match answer.status, redirection? request.path with
  | 307, some path => respond office { request with path } ping
  | _, _ => return answer

end Mailroom.Web
