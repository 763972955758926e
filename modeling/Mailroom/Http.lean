import Mailroom.Flow
import Mailroom.Json.Reader
import Mailroom.Json.Writer
import Mailroom.Text.Blank
import Mailroom.Url.Request

/-!
# Requests over the network

A request has a method, a URL, headers and a body. It is sent to a peer, which
answers with a status and octets or not at all. A request that cannot be
written down is never sent.
-/

namespace Mailroom.Http

/-- The content of a request. -/
inductive Body where
  | empty
  | json (value : Json)
  | text (content : String)
  | form (fields : List (String × String))

/-- A request as it goes out; the names of headers are in lower case. -/
structure Request where
  method : String
  url : String
  headers : List (String × String)
  body : Body

/-- An answer. -/
structure Response where
  status : Nat
  octets : List UInt8

namespace Response

/-- Whether the status is one of success. -/
def isSuccess (response : Response) : Bool :=
  200 ≤ response.status && response.status < 300

/-- The text of an answer. -/
def text (response : Response) : String :=
  String.ofList (Text.decodeUtf8Lossy response.octets)

/-- The JSON value of an answer, none if it is no JSON text. -/
def json? (response : Response) : Except Fault (Option Json) :=
  match Json.readOctets response.octets with
  | .ok value => .ok (some value)
  | .error (.text _ (.tooDeep isList)) => .error (.tooDeep isList)
  | .error _ => .ok none

end Response

/-- The peer of all requests: it answers, or the reason is reported why it did not. -/
abbrev Transport (σ : Type) := Request → σ → Except String Response × σ

/-- Why there is no answer of success. -/
inductive SendFailure where
  /-- The peer answered with a status of failure. -/
  | status (response : Response)
  /-- The peer did not answer. -/
  | transport (reason : String)
  /-- The request cannot be written down. -/
  | faulty (fault : Fault)

mutual
/-- Whether a value holds a number that JSON has no text for. -/
def hasNoText : Json → Bool
  | .real (.finite ..) => false
  | .real _ => true
  | .arr elements => anyHasNoText elements
  | .obj members => anyMemberHasNoText members
  | _ => false

/-- Whether one of the elements has no text. -/
def anyHasNoText : List Json → Bool
  | [] => false
  | element :: rest => hasNoText element || anyHasNoText rest

/-- Whether one of the members has no text. -/
def anyMemberHasNoText : List (String × Json) → Bool
  | [] => false
  | (_, value) :: rest => hasNoText value || anyMemberHasNoText rest
end

/-- A request before it is written down. -/
structure Draft where
  method : String
  address : String
  query : List (String × String) := []
  headers : List (String × String) := []
  body : Body := .empty

/-- Named values in form encoding must be encodable. -/
def checkForm (fields : List (String × String)) : Except Fault Unit :=
  fields.forM fun field => do
    checkEncodable .unicode field.1.toList
    checkEncodable .unicode field.2.toList

/-- The content of a request must be one that can be written down. -/
def Body.check : Body → Except Fault Unit
  | .empty => .ok ()
  | .json value =>
    if hasNoText value then .error .badContent
    else checkEncodable .unicode (Json.writeChars .compact value)
  | .text content => checkEncodable .unicode content.toList
  | .form fields => checkForm fields

/-- Set a header, or add it. -/
def setHeader (headers : List (String × String)) (name value : String) : List (String × String) :=
  headers.filter (·.1 != name) ++ [(name, value)]

/-- The address of a request, with its query replaced if one is given. -/
def targetOf (target : Url.Target) (query : List (String × String)) : Except Fault Url.Target := do
  if query.isEmpty then return target
  checkForm query
  target.withQuery (Text.formFields query).toList

/-- Write a request down: the address first, then the headers, then the query
and the body. A user in the address authenticates the request. The flag says
whether the address names a scheme and a host. -/
def Draft.prepare (draft : Draft) : Except Fault (Request × Bool) := do
  let target ← (← Url.Target.read draft.address).resolved {}
  draft.headers.forM fun header => checkEncodable .ascii header.2.toList
  let target ← targetOf target draft.query
  draft.body.check
  let headers := match target.authority.authorization? with
    | some value => setHeader draft.headers "authorization" value
    | none => draft.headers
  return (⟨draft.method, target.text, headers, draft.body⟩, target.isAbsolute)

/-- Send a request and wait for an answer of success. An answer to a request
without scheme and host belongs nowhere. -/
def send {σ : Type} (transport : Transport σ) (draft : Draft) (peer : σ) :
    Except SendFailure Response × σ :=
  match draft.prepare with
  | .error fault => (.error (.faulty fault), peer)
  | .ok (request, isAbsolute) =>
    match transport request peer with
    | (.error reason, peer) => (.error (.transport reason), peer)
    | (.ok response, peer) =>
      (if !isAbsolute then .error (.faulty .badContent)
        else if response.isSuccess then .ok response
        else .error (.status response), peer)

/-- Ask a peer by a request: the reply is what is made of what came of it. -/
def exchange {σ α : Type} (transport : Transport σ) (draft : Draft)
    (reply : Except SendFailure Response → Reply α) : Ask σ α := fun peer =>
  let (came, peer) := send transport draft peer
  (reply came, peer)

/-- What is asked of a peer is a request, and its reply. -/
theorem exchange_eq {σ α : Type} (transport : Transport σ) (draft : Draft)
    (reply : Except SendFailure Response → Reply α) (peer : σ) :
    exchange transport draft reply peer =
      (reply (send transport draft peer).1, (send transport draft peer).2) := rfl

/-- The reply that is read from an answer of success, or refused without one. -/
def answered {α : Type} (read : Response → Except Failure α) (refused : SendFailure → Failure) :
    Except SendFailure Response → Reply α
  | .ok response => ⟨read response, []⟩
  | .error failure => .refuse (refused failure)

/-- The media type of JSON. -/
def jsonType : String := "application/json"

/-- The media type of forms. -/
def formType : String := "application/x-www-form-urlencoded"

/-- An address without slashes at its end. -/
def baseAddress (url : String) : String :=
  String.ofList (Text.dropEndWhile (· = '/') url.toList)

/-- Headers that show in the record of a request. -/
def recordedHeaders : List String :=
  ["authorization", "serviceauthorization", "experimental", "content-type", "accept"]

/-- A text in the record of a request: its value if it is to be JSON. -/
def recordedText (headers : List (String × String)) (content : String) : Option Json :=
  if content.isEmpty then none
  else if headers.lookup "content-type" = some jsonType then
    some ((Json.readDeep content).toOption.getD (.str content))
  else some (.str content)

/-- The body in the record of a request: the value of a JSON text, or the text. -/
def Request.recordedBody (request : Request) : Option Json :=
  match request.body with
  | .empty => none
  | .json value => some value
  | .text content => recordedText request.headers content
  | .form fields => recordedText request.headers (Text.formFields fields)

/-- The record of a request. -/
def Request.record (request : Request) : Json :=
  .obj ([("method", .str request.method), ("url", .str request.url)]
    ++ (request.recordedBody.map fun body => ("body", body)).toList
    ++ recordedHeaders.filterMap fun name =>
      (request.headers.lookup name).map fun value => (name, .str value))

end Mailroom.Http
