import Mailroom.Http
import Mailroom.Peers

/-!
# Identity and leases over the network

System users log in with a password and get a token, which tells who they are.
Service tokens are leased one by one.
-/

namespace Mailroom.Http

variable {σ : Type}

/-- The mark before a token in a header. -/
def bearer (token : String) : String := "Bearer " ++ token

/-- An identity service and the client that logs in there. -/
structure IdentityService where
  url : String
  clientId : String
  clientSecret : String
  redirectUri : String

namespace IdentityService

/-- The request of a login. -/
def loginDraft (service : IdentityService) (login : Login) : Draft :=
  { method := "POST"
    address := baseAddress service.url ++ "/o/token"
    headers := [("content-type", formType)]
    body := .form [
      ("grant_type", "password"),
      ("username", login.username),
      ("password", login.password),
      ("client_id", service.clientId),
      ("client_secret", service.clientSecret),
      ("redirect_uri", service.redirectUri),
      ("scope", "openid profile roles")] }

/-- A fault inside a message, by its kind. -/
def faultText (fault : Fault) : String := "<" ++ fault.kind ++ ">"

/-- How a fault about the content of a value is told. -/
def contentFault : String := faultText .badContent

/-- What a failed request means to the identity service: that an answer rejects it,
or that it failed for a reason. A fault in the content of the request is one. -/
def sendFailure (rejected : Nat → AuthenticationFailure) (failed : String → AuthenticationFailure) :
    SendFailure → Failure
  | .status response => .authentication (rejected response.status)
  | .transport reason => .authentication (failed reason)
  | .faulty fault =>
    if fault.isContent then .authentication (failed contentFault) else .faulty fault

/-- Put a request to the identity service, and read the value of the body that it
answers with, if it is one. -/
def ask {α : Type} (transport : Transport σ) (draft : Draft)
    (read : Option Json → Except Failure α) (rejected : Nat → AuthenticationFailure)
    (failed : String → AuthenticationFailure) : Ask σ α :=
  exchange transport draft
    (answered (fun response => response.json?.mapError .faulty >>= read)
      (sendFailure rejected failed))

/-- The token in the answer to a login. -/
def tokenOf (login : Login) : Option Json → Except Failure String
  | none => .error (.authentication (.loginFailed login.username contentFault))
  | some (.obj members) =>
    match Fields.get? members "access_token" with
    | some token => .ok (bearer token.display)
    | none =>
      .error (.authentication (.loginFailed login.username
        (faultText (.missingMember "access_token"))))
  | some _ => .error (.faulty .wrongShape)

/-- Log a user in. -/
def logIn (transport : Transport σ) (service : IdentityService) (login : Login) : Ask σ String :=
  ask transport (service.loginDraft login) (tokenOf login)
    (.loginRejected login.username) (.loginFailed login.username)

/-- The request for the details of a user. -/
def detailsDraft (service : IdentityService) (token : String) : Draft :=
  { method := "GET"
    address := baseAddress service.url ++ "/o/userinfo"
    headers := [("authorization", token)] }

/-- The details in an answer. -/
def detailsOf : Option Json → Except Failure UserDetails
  | none => .error (.authentication (.detailsFailed contentFault))
  | some (.obj members) =>
    let id := Fields.member members "uid"
    if id.isVacant then .error (.authentication .noUserId)
    else .ok ⟨id, Fields.member members "sub"⟩
  | some _ => .error (.faulty .noSuchOperation)

/-- Ask who a token belongs to. -/
def userDetails (transport : Transport σ) (service : IdentityService) (token : String) :
    Ask σ UserDetails :=
  ask transport (service.detailsDraft token) detailsOf .detailsRejected .detailsFailed

end IdentityService

/-- The request for a service token. -/
def leaseDraft (url name : String) : Draft :=
  { method := "POST"
    address := baseAddress url ++ "/lease"
    headers := [("content-type", jsonType)]
    body := .json (.obj [("microservice", .str name)]) }

/-- What a failed request for a service token means. -/
def leaseFailure (name : String) : SendFailure → Failure
  | .status response => .authentication (.leaseRejected name response.status)
  | .transport reason => .authentication (.leaseFailed name reason)
  | .faulty fault => .faulty fault

/-- Lease a service token for a named service. -/
def lease (transport : Transport σ) (url name : String) : Ask σ String :=
  exchange transport (leaseDraft url name)
    (answered (fun response => .ok (bearer (Text.trim response.text))) (leaseFailure name))

end Mailroom.Http
