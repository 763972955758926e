import Mailroom.CaseAccess
import Mailroom.Case.EnvelopeReferences
import Mailroom.Routing.LogContext

/-!
# Creating cases automatically

A new application becomes a case without a caseworker when its service allows
it: unless there is a case for the envelope already, the transformation service
turns it into case data and the case is created. Whatever goes wrong after the
search is an outcome, not a failure.
-/

namespace Mailroom

/-- The outcome of an attempt to create a case. -/
inductive CreationOutcome where
  | created (caseId : Option Int)
  | alreadyExists (caseId : Option Int)
  | aborted
  | recoverable
  | unrecoverable
  deriving DecidableEq, Repr

namespace CreationOutcome

/-- The name of an outcome. -/
def name : CreationOutcome → String
  | .created _ => "CREATED_CASE"
  | .alreadyExists _ => "CASE_ALREADY_EXISTS"
  | .aborted => "ABORTED_WITHOUT_FAILURE"
  | .recoverable => "POTENTIALLY_RECOVERABLE_FAILURE"
  | .unrecoverable => "UNRECOVERABLE_FAILURE"

/-- The case of an outcome. -/
def caseId : CreationOutcome → Option Int
  | .created id | .alreadyExists id => id
  | _ => none

/-- Whether the envelope has a case after this outcome. -/
def hasCase : CreationOutcome → Bool
  | .created _ | .alreadyExists _ => true
  | _ => false

end CreationOutcome

namespace Office

variable {σ : Type}

/-- How much of the body of an answer is logged. -/
def maxLoggedBody : Nat := 10000

/-- The submission that creates a case from an envelope. -/
def caseDraft (envelopeId : String) (data : Fields) : Draft := fun started =>
  .ok {
    data := data.set CaseField.bulkScanEnvelopes
      (.arr (EnvelopeReference.single (.str envelopeId) (.str EnvelopeEffect.create.text)))
    event := {
      id := started.eventId
      summary := .str "Case created"
      description := .str ("Case created from envelope " ++ envelopeId) }
    token := started.token }

/-- Have an envelope turned into case data. -/
def transformEnvelope (office : Office σ) (envelope : Envelope) (context : String) :
    Flow σ Transformation.Answer := do
  let serviceToken ← Flow.ask office.peers.lease
  let service ← office.serviceNamed (some envelope.container)
  let request ← Flow.lift
    ((Transformation.Request.ofEnvelope office.documents envelope).mapError Failure.ofRequest)
  let answer ← Flow.ask (office.peers.transform service.transformationUrl request serviceToken)
  Flow.log .info ("Received successful transformation response for envelope. " ++ context)
  return answer

/-- The outcome of a transformation that failed. -/
def transformationOutcome (context : String) : Failure → Flow σ CreationOutcome
  | .transformation (.invalidAnswer violations) => do
    Flow.log .error ("Received malformed response from transformation endpoint called for envelope. "
      ++ context ++ " Violations: [" ++ ", ".intercalate violations ++ "].")
    return .unrecoverable
  | .transformation (.rejected status objections body) => do
    if status = 422 then
      Flow.log .info ("Received validation error response from transformation endpoint called for "
        ++ "envelope. " ++ context
        ++ " Errors: " ++ (Json.arr (objections.errors.map .str)).displayForm
        ++ ". Warnings: " ++ (Json.arr (objections.warnings.map .str)).displayForm)
    else
      Flow.log .error ("Received a response with status " ++ toString status
        ++ " from transformation endpoint called for envelope. " ++ context
        ++ ". Response starts with: [" ++ String.ofList (body.toList.take maxLoggedBody) ++ "]")
    return .unrecoverable
  | _ => do
    Flow.log .error ("An error occurred when transforming envelope into case data. " ++ context)
    return .recoverable

/-- The outcome of a creation that failed. -/
def creationFailureOutcome (context : String) : Failure → Flow σ CreationOutcome
  | .store failure => do
    match failure.status? with
    | some 400 | some 422 =>
      Flow.log .error ("Received a response with status " ++ statusText failure.status?
        ++ " when trying to create a CCD case from an envelope. " ++ context)
      return .unrecoverable
    | _ =>
      Flow.log .error ("An error occurred when trying to create a case in CCD from envelope. "
        ++ context)
      return .recoverable
  | _ => do
    Flow.log .error ("An error occurred when trying to create a case in CCD from envelope. "
      ++ context)
    return .recoverable

/-- Create a case from case data. -/
def createFromAnswer (office : Office σ) (envelope : Envelope) (context : String)
    (answer : Transformation.Answer) : Flow σ CreationOutcome := do
  let draft := answer.draft
  let work := office.createCase envelope.jurisdiction draft.caseType draft.eventId
    (caseDraft envelope.id draft.data) context
  match ← Flow.attempt work with
  | .ok id =>
    Flow.log .info ("Created case in CCD. Case ID: " ++ Case.idText id ++ ". " ++ context)
    return .created id
  | .error failure => creationFailureOutcome context failure

/-- Turn an envelope into a case. -/
def createNewCase (office : Office σ) (envelope : Envelope) (context : String) :
    Flow σ CreationOutcome := do
  match ← Flow.attempt (office.transformEnvelope envelope context) with
  | .ok answer => office.createFromAnswer envelope context answer
  | .error failure => transformationOutcome context failure

/-- Create a case from an envelope unless there is one. -/
def createUnlessExists (office : Office σ) (envelope : Envelope) (context : String) :
    Flow σ CreationOutcome := do
  match ← office.casesByEnvelope envelope.id envelope.container with
  | [] => office.createNewCase envelope context
  | [id] =>
    Flow.log .warning ("Case already exists for envelope - skipping creation. Case ID: "
      ++ Case.idText id ++ ". " ++ context)
    return .alreadyExists id
  | ids =>
    Flow.log .error ("Multiple cases exist for envelope. Case Ids: [" ++ idList "," ids ++ "]. "
      ++ context)
    return .unrecoverable

/-- Try to create a case from an envelope, if its service allows it. -/
def createAutomatically (office : Office σ) (envelope : Envelope) : Flow σ CreationOutcome := do
  let context := envelope.logContext none
  Flow.log .info ("Started attempt to automatically create a new case from envelope. " ++ context)
  let service ← office.serviceNamed (some envelope.container)
  let outcome ←
    if service.createsCasesAutomatically then office.createUnlessExists envelope context
    else do
      Flow.log .info ("Automatic case creation is disabled for the service - skipping. " ++ context)
      pure .aborted
  Flow.count (.caseCreation envelope.container outcome.name)
  return outcome

end Office
end Mailroom
