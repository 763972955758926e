import Mailroom.Http
import Mailroom.Peers

/-!
# Transformation over the network

The answer of a transformation service is sorted into one outcome: an answer of
the agreed form, one that is not of that form, a rejection of the request, or
no usable answer at all.
-/

namespace Mailroom.Http

open Transformation

variable {σ : Type}

/-- The request of a transformation. -/
def transformDraft (url : String) (request : Transformation.Request) (serviceToken : String) :
    Draft :=
  { method := "POST"
    address := url
    headers := [
      ("serviceauthorization", serviceToken),
      ("content-type", jsonType),
      ("accept", jsonType)]
    body := .json request.toJson }

/-- Whether a status rejects the request itself. -/
def isRejection (status : Nat) : Bool := status == 400 || status == 422

/-- The objections in the body of a rejection, if it can be read as such. -/
def readObjections (response : Response) : Option Objections := do
  let characters ← Text.decodeUtf8? response.octets
  let value ← (Json.readChars .strict characters).toOption
  match checkObjections value with
  | .accepted objections => some objections
  | .rejected _ => none

/-- The outcome of a rejection. An unreadable body objects to nothing. -/
def rejection (response : Response) : Reply Answer :=
  let failure (objections : Objections) : Mailroom.Failure :=
    .transformation (.rejected response.status objections response.text)
  match readObjections response with
  | some objections => .refuse (failure objections)
  | none => {
      result := .error (failure ⟨[], []⟩)
      log := [⟨.warning, "Unparseable " ++ toString response.status
        ++ " response from transformation service"⟩] }

/-- The outcome of an answer of success. -/
def readTransformation (response : Response) : Except Mailroom.Failure Answer := do
  match ← response.json?.mapError .faulty with
  | none =>
    .error (.transformation (.unavailable ("Transformation service returned a body that is not JSON (status "
      ++ toString response.status ++ ")") (some response.status)))
  | some body =>
    match checkAnswer body with
    | .accepted answer => .ok answer
    | .rejected violations =>
      .error (.transformation (.invalidAnswer (violations.map Schema.Violation.line)))

/-- The outcome of a request that got no answer of success. -/
def transformationFailure : SendFailure → Reply Answer
  | .status response =>
    if isRejection response.status then rejection response
    else
      .refuse (.transformation (.unavailable
        ("Transformation service responded with status " ++ toString response.status)
        (some response.status)))
  | .transport reason =>
    .refuse (.transformation (.unavailable ("Failed to call transformation service: " ++ reason) none))
  | .faulty fault => .refuse (.faulty fault)

/-- What became of a request. -/
def transformationReply : Except SendFailure Response → Reply Answer
  | .ok response => ⟨readTransformation response, []⟩
  | .error failure => transformationFailure failure

/-- The first text of a request that cannot be encoded. -/
def unencodable? (request : Transformation.Request) : Option Text.Unencodable :=
  request.toJson.texts.findSome? fun text => Text.Unencodable.find? .unicode text.toList

/-- Have a request turned into a case at an address. The request is written down
before the address is looked at. -/
def transform (transport : Transport σ) (url : Option String) (request : Transformation.Request)
    (serviceToken : String) : Ask σ Answer := fun peer =>
  match unencodable? request, url with
  | some found, _ => (.refuse (.faulty (.unwritable found)), peer)
  | none, none => (.refuse (.faulty .wrongShape), peer)
  | none, some url =>
    exchange transport (transformDraft url request serviceToken) transformationReply peer

end Mailroom.Http
