import Mailroom.Callback
import Mailroom.CaseStore
import Mailroom.Payments
import Mailroom.Transformation

/-!
# Failures

Everything that can keep the mail room from doing its work, as causes. The
wording of a cause is derived from it in one place.
-/

namespace Mailroom

/-- A status in a message. -/
def statusText : Option Nat → String
  | some status => toString status
  | none => "None"

/-- A call to the case store that the mail room has given up. -/
inductive CallFailure where
  /-- There is no case with the reference. -/
  | caseNotFound (reference : String)
  /-- The reference is none that a case can have. -/
  | invalidReference (reference : String)
  /-- A case could not be fetched. -/
  | notRetrieved (reference : String) (status : Option Nat)
  /-- The case to attach documents to is not there. -/
  | unableToAttach (event caseType reference : String)
  /-- Documents could not be attached. -/
  | notAttached (reference : String) (status : Option Nat)
  deriving DecidableEq, Repr

namespace CallFailure

/-- The wording of the failure of a call. -/
def message : CallFailure → String
  | .caseNotFound reference => "Could not find case: " ++ reference
  | .invalidReference reference => "Invalid case ID: " ++ reference
  | .notRetrieved reference status =>
    "Internal Error: Could not retrieve case: " ++ reference ++ " Error: " ++ statusText status
  | .unableToAttach event caseType reference =>
    "Event failed. Event: " ++ event ++ ", case type: " ++ caseType ++ ", case ref: " ++ reference
  | .notAttached reference status =>
    "Could not attach documents for case ref: " ++ reference ++ " Error: " ++ statusText status

/-- The status that the store answered with. -/
def status? : CallFailure → Option Nat
  | .caseNotFound _ | .unableToAttach .. => some 404
  | .invalidReference _ => some 400
  | .notRetrieved _ status | .notAttached _ status => status

end CallFailure

/-- Why the mail room has no credentials. -/
inductive AuthenticationFailure where
  | noUser (jurisdiction : String)
  | loginRejected (username : String) (status : Nat)
  | loginFailed (username reason : String)
  | detailsRejected (status : Nat)
  | detailsFailed (reason : String)
  | noUserId
  | leaseRejected (name : String) (status : Nat)
  | leaseFailed (name reason : String)
  | reported (message : String)
  deriving DecidableEq, Repr

/-- The wording of a failed authentication. -/
def AuthenticationFailure.message : AuthenticationFailure → String
  | .noUser jurisdiction => "No IDAM user configured for jurisdiction " ++ jurisdiction
  | .loginRejected username status =>
    "IDAM rejected login of " ++ username ++ " with status " ++ toString status
  | .loginFailed username reason => "Failed to log in " ++ username ++ ": " ++ reason
  | .detailsRejected status =>
    "IDAM rejected user info request with status " ++ toString status
  | .detailsFailed reason => "Failed to retrieve user info: " ++ reason
  | .noUserId => "IDAM user info has no uid"
  | .leaseRejected name status =>
    "S2S lease for " ++ name ++ " failed with status " ++ toString status
  | .leaseFailed name reason => "S2S lease for " ++ name ++ " failed: " ++ reason
  | .reported message => message

/-- A key that must belong to one case at most and belongs to several. -/
structure Ambiguity where
  message : String
  deriving DecidableEq, Repr

/-- Why the mail room did not finish a piece of work. -/
inductive Failure where
  | store (failure : CaseStore.Failure)
  | call (failure : CallFailure)
  | ambiguous (ambiguity : Ambiguity)
  | unknownClassification (text : String)
  | authentication (failure : AuthenticationFailure)
  | payments (failure : Payments.Failure)
  | unknownService (unknown : UnknownService)
  | callback (refusal : Callback.Refusal)
  | transformation (failure : Transformation.Failure)
  | invalid (model : String) (violations : List Schema.Violation)
  | faulty (fault : Fault)

namespace Failure

/-- The number of violations in words. -/
def violationCount (model : String) (count : Nat) : String :=
  toString count ++ (if count = 1 then " validation error for " else " validation errors for ")
    ++ model

/-- The wording of a failure. -/
def message : Failure → String
  | .store failure => failure.message
  | .call failure => failure.message
  | .ambiguous ambiguity => ambiguity.message
  | .unknownClassification text =>
    "Cannot determine CCD action for envelope - unknown classification: " ++ text
  | .authentication failure => failure.message
  | .payments failure => failure.message
  | .unknownService unknown => unknown.message
  | .callback refusal => refusal.message
  | .transformation failure => failure.message
  | .invalid model violations => violationCount model violations.length
  | .faulty fault => fault.message

/-- The failure of building a request. -/
def ofRequest : Transformation.RequestFailure → Failure
  | .invalid model violations => .invalid model violations
  | .faulty fault => .faulty fault

end Failure
end Mailroom
