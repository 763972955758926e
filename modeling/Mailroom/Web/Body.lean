import Mailroom.Callback
import Mailroom.Text.Split
import Mailroom.Json.Reader

/-!
# Bodies of requests

The body of a request is JSON if its media type says so. A body that is JSON but
not of the expected form is reported violation by violation, each with its place
below `body`.
-/

namespace Mailroom.Web

open Schema

/-- What a body holds. -/
inductive Content where
  | nothing
  | value (value : Json)
  | octets

/-- Why a body cannot be read. -/
inductive BodyFault where
  | notJson (position : Nat)
  | unreadable
  deriving DecidableEq, Repr

/-- The main type and subtype of a media type in lower case; a malformed one is
plain text. -/
def mediaType (header : String) : String × String :=
  let essence := Text.lower (Text.trim (String.ofList (Text.cutAt ';' header.toList).1))
  match Text.splitOn '/' essence.toList with
  | [main, sub] => (String.ofList main, String.ofList sub)
  | _ => ("text", "plain")

/-- Whether a media type is one of JSON. -/
def isJsonType (header : String) : Bool :=
  let (main, sub) := mediaType header
  main == "application" && (sub == "json" || sub.endsWith "+json")

/-- Read a body by its media type. -/
def readContent (contentType : Option String) (octets : List UInt8) : Except BodyFault Content :=
  if octets.isEmpty then .ok .nothing
  else if !isJsonType (contentType.getD "") then .ok .octets
  else
    match Json.readOctets octets with
    | .ok value => .ok (.value value)
    | .error .encoding => .error .unreadable
    | .error (.text characters error) =>
      match error.position? characters with
      | some position => .error (.notJson position)
      | none => .error .unreadable

/-- A violation as an endpoint reports it. -/
def atEndpoint (violation : Violation) : Violation :=
  let problem := match violation.problem with
    | .notModel _ => .notReadableModel
    | problem => problem
  ⟨.member "body" :: violation.place, problem⟩

/-- Check the content of a body. -/
def checkContent {α : Type} (check : Json → Checked α) : Content → Checked α
  | .nothing => .rejected [⟨[.member "body"], .missing⟩]
  | .octets => .rejected [⟨[.member "body"], .notReadableModel⟩]
  | .value value =>
    match check value with
    | .accepted value => .accepted value
    | .rejected violations => .rejected (violations.map atEndpoint)

/-- The violation of a body that is no JSON text. -/
def jsonViolation (position : Nat) : Violation :=
  ⟨[.member "body", .element position], .malformedJson⟩

/-- A step as a value. -/
def stepValue : Step → Json
  | .member name => .str name
  | .element index => .int index

/-- A violation as a value. -/
def violationValue (violation : Violation) : Json :=
  .obj [
    ("loc", .arr (violation.place.map stepValue)),
    ("msg", .str violation.problem.message),
    ("type", .str violation.problem.code)]

end Mailroom.Web
