import Mailroom.Envelope.Message
import Mailroom.Routing

/-!
# Delivering messages

A message from the queue is checked and routed. A message that is no envelope,
an envelope of unknown classification, and one with several records are
rejected for good. Every other failure is tried again after a delay that
doubles each time, three times at most; the last failure is the outcome.
-/

namespace Mailroom

/-- What became of a delivery that ended without failure. -/
inductive Delivered where
  | routed (envelopeId : String) (routed : Routed)
  | rejected (envelopeId : String) (reason : String)
  deriving Repr

/-- A delivery: how long it waited before each further attempt, and its end. -/
structure Delivery where
  delays : List Nat
  outcome : Except Failure Delivered

/-- How often a failed delivery is tried again. -/
def maxRetries : Nat := 3

/-- Whether trying again cannot change a failure. -/
def isUnrecoverable : Failure → Bool
  | .unknownClassification _ | .ambiguous _ => true
  | _ => false

namespace Office

variable {σ : Type}

/-- A member of a message as far as it can be read. -/
def rawMember (message : Json) (name : String) : String :=
  match message with
  | .obj members =>
    match Fields.member members name with
    | .null => "unknown"
    | value => value.display
  | _ => "unknown"

/-- Count an envelope that was dealt with. -/
def countEnvelope (envelope : Envelope) (action : String) : Flow σ Unit :=
  Flow.count (.envelopeProcessed envelope.container envelope.classification.text action)

/-- What a failed attempt comes to: a rejection for good, or the failure again. -/
def settleFailure (envelope : Envelope) (retries : Nat) (failure : Failure) :
    Flow σ (Except Failure Delivered) := do
  if isUnrecoverable failure then
    Flow.log .error ("Rejecting envelope " ++ envelope.id ++ ": " ++ failure.message)
    countEnvelope envelope "UNRECOVERABLE"
    return .ok (.rejected envelope.id failure.message)
  else
    Flow.log .error ("Failed to process envelope " ++ envelope.id ++ " (attempt "
      ++ toString (retries + 1) ++ " of " ++ toString (maxRetries + 1) ++ "): " ++ failure.message)
    countEnvelope envelope "FAILED"
    return .error failure

/-- Reject a message that is no envelope. -/
def rejectMessage (message : Json) (violations : List Schema.Violation) : Flow σ Delivery := do
  let reason := Failure.violationCount Envelope.messageName violations.length
  Flow.log .error ("Rejecting invalid envelope message: " ++ reason)
  Flow.count (.envelopeProcessed (rawMember message "container")
    (rawMember message "classification") "INVALID_MESSAGE")
  return ⟨[], .ok (.rejected (rawMember message "id") reason)⟩

end Office

namespace Delivery

variable {σ : Type}

/-- What follows an attempt: it is timed, counted and settled. -/
def conclude (envelope : Envelope) (retries : Nat) (outcome : Except Failure Routed) :
    Flow σ (Except Failure Delivered) := do
  Flow.count (.envelopeTimed envelope.classification.text)
  match outcome with
  | .error failure => Office.settleFailure envelope retries failure
  | .ok routed =>
    Office.countEnvelope envelope routed.action.name
    Flow.log .info ("Processed envelope " ++ envelope.id ++ ". CCD action: " ++ routed.action.name
      ++ ", CCD ID: " ++ Case.idText routed.caseId)
    return .ok (.routed envelope.id routed)

/-- One attempt at an envelope, which is handed to `handle`: an end of the
delivery, or a failure that may be tried again. -/
def attempt (handle : Envelope → Flow σ Routed) (envelope : Envelope) (retries : Nat) :
    Flow σ (Except Failure Delivered) := do
  Flow.log .info ("Processing envelope " ++ envelope.id ++ ". File name: " ++ envelope.fileText)
  let outcome ← Flow.attempt (handle envelope)
  conclude envelope retries outcome

/-- Attempts at an envelope with some retries left. Every failed attempt asks for
a delay; the last one is refused it. -/
def within (handle : Envelope → Flow σ Routed) (envelope : Envelope) :
    (left : Nat) → Flow σ Delivery
  | 0 => do
    let outcome ← Flow.correlated (some envelope.id) (attempt handle envelope maxRetries)
    match outcome with
    | .ok delivered => return ⟨[], .ok delivered⟩
    | .error failure => return ⟨[Nat.pow 2 maxRetries], .error failure⟩
  | left + 1 => do
    let retries := maxRetries - (left + 1)
    let outcome ← Flow.correlated (some envelope.id) (attempt handle envelope retries)
    match outcome with
    | .ok delivered => return ⟨[], .ok delivered⟩
    | .error _ =>
      let delivery ← within handle envelope left
      return { delivery with delays := Nat.pow 2 retries :: delivery.delays }

/-- Deliver a message, handing the envelope that it is to `handle`. -/
def ofMessage (handle : Envelope → Flow σ Routed) (message : Json) : Flow σ Delivery :=
  match Envelope.checkMessage message with
  | .accepted envelope => within handle envelope maxRetries
  | .rejected violations => Office.rejectMessage message violations

end Delivery

/-- Deliver a message: an envelope is routed. -/
def Office.deliver {σ : Type} (office : Office σ) (message : Json) : Flow σ Delivery :=
  Delivery.ofMessage office.route message

end Mailroom
