import Mailroom.Case

/-!
# The case store

What the mail room asks of the case store: to search and fetch cases, and to
change them in two phases, a start that hands out a token and a submission that
gives it back. The same two phases create a case and update one; a target
without case reference is a creation.
-/

namespace Mailroom.CaseStore

/-- On whose behalf a call is made. -/
structure Caller where
  userToken : String
  serviceToken : String
  deriving DecidableEq, Repr, Inhabited

/-- What an event is started on. The user and the case type are named as they
were reported. -/
structure Target where
  userId : Json
  jurisdiction : Option String
  caseType : Json
  caseRef : Option String

/-- Why a call to the case store failed. -/
inductive Failure where
  /-- The store answered with a failure status. -/
  | refused (method path : String) (status : Nat)
  /-- The store gave no answer. -/
  | unreachable (method path reason : String)
  /-- The answer is no JSON text. -/
  | unreadable (method path : String) (status : Nat)
  /-- The answer is no object; the text starts like this. -/
  | notAnObject (method path start : String) (status : Nat)
  /-- The answer has not the expected members. -/
  | unexpected (fault : Fault)
  /-- The store reported the failure itself. -/
  | reported (message : String) (status : Option Nat)
  deriving DecidableEq, Repr

namespace Failure

/-- The wording of a failure. -/
def message : Failure → String
  | .refused method path status =>
    "CCD call " ++ method ++ " " ++ path ++ " failed with status " ++ toString status
  | .unreachable method path reason =>
    "CCD call " ++ method ++ " " ++ path ++ " failed: " ++ reason
  | .unreadable method path _ =>
    "CCD call " ++ method ++ " " ++ path ++ " returned a body that is not JSON"
  | .notAnObject method path start _ =>
    "CCD call " ++ method ++ " " ++ path ++ " returned an unexpected body: " ++ start
  | .unexpected fault => "Unexpected CCD response: " ++ fault.kind
  | .reported message _ => message

/-- The status that the store answered with. -/
def status? : Failure → Option Nat
  | .refused _ _ status | .unreadable _ _ status | .notAnObject _ _ _ status => some status
  | .unreachable .. | .unexpected _ => none
  | .reported _ status => status

/-- Whether the store rejected the credentials of a call. -/
def rejectsCredentials (failure : Failure) : Bool :=
  failure.status? == some 401 || failure.status? == some 403

end Failure
end Mailroom.CaseStore
