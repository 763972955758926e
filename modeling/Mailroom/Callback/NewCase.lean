import Mailroom.CaseAccess
import Mailroom.Case.EnvelopeReferences

/-!
# Creating a case for a caseworker

A checked exception record is turned into case data by the transformation
service and created as a case with the caseworker's own credentials. What the
service objects to comes back as warnings and errors; what the caseworker
cannot mend is a refusal of the callback.
-/

namespace Mailroom

/-- The outcome of creating a case from an exception record. -/
inductive NewCaseOutcome where
  | created (caseId : Option Int)
  | objected (warnings errors : List String)

namespace Office

variable {σ : Type}

/-- What log lines say of a record and its service. -/
def recordContext (record : ExceptionRecord) (service : Service) : String :=
  "Exception record ID: " ++ record.id ++ ". Service: " ++ service.name.getD "None"
    ++ ". Envelope ID: " ++ record.envelopeId.display ++ "."

/-- The data of a case that is created from a record. -/
def newCaseData (office : Office σ) (record : ExceptionRecord) (service : Service)
    (data : Fields) : Fields :=
  let linked := data.set CaseField.bulkScanCaseReference (.str record.id)
  if !record.envelopeId.isVacant && office.services.recordsEnvelopes service.name then
    linked.set CaseField.bulkScanEnvelopes
      (.arr (EnvelopeReference.single record.envelopeId (.str EnvelopeEffect.create.text)))
  else linked

/-- The submission that creates a case from a record. -/
def newCaseDraft (office : Office σ) (record : ExceptionRecord) (service : Service)
    (data : Fields) : Draft := fun started =>
  .ok {
    data := office.newCaseData record service data
    event := {
      id := started.eventId
      summary := .str "Case created"
      description := .str ("Case created from exception record ref " ++ record.id) }
    token := started.token }

/-- Lease a service token and have a record turned into case data. The token
serves the calls that follow, too. -/
def transformRecord (office : Office σ) (record : ExceptionRecord) (service : Service) :
    Flow σ (String × Transformation.Answer) := do
  let serviceToken ← Flow.ask office.peers.lease
  let request ← Flow.lift
    ((Transformation.Request.ofRecord record).mapError Failure.ofRequest)
  let answer ← Flow.ask (office.peers.transform service.transformationUrl request serviceToken)
  return (serviceToken, answer)

/-- Refuse a callback. -/
def refuse {α : Type} (message : String) : Flow σ α :=
  Flow.fail (.callback ⟨message⟩)

/-- What a failed transformation means for the callback. -/
def transformationRefusal (record : ExceptionRecord) (service : Service) :
    Failure → Flow σ NewCaseOutcome
  | .transformation (.rejected status objections _) =>
    if status = 422 then do
      Flow.log .info ("Transformation service rejected exception record. "
        ++ recordContext record service)
      return .objected objections.warnings objections.errors
    else
      refuse ("Failed to transform exception record. Service responded with status "
        ++ toString status)
  | .transformation (.invalidAnswer violations) =>
    refuse ("Invalid response received from transformation service. Violations: "
      ++ ", ".intercalate violations)
  | .transformation (.unavailable ..) =>
    refuse ("Failed to call " ++ service.name.getD "None"
      ++ " service Case Transformation API to create case")
  | failure => Flow.fail failure

/-- Create a case from case data with the credentials of a caseworker. -/
def createFromRecord (office : Office σ) (record : ExceptionRecord) (service : Service)
    (caller : CaseStore.Caller) (userId : String) (draft : Transformation.CaseDraft) :
    Flow σ NewCaseOutcome := do
  let context := recordContext record service
  let work := office.createForCaseworker caller userId service.jurisdiction draft.caseType
    draft.eventId (office.newCaseDraft record service draft.data) context
  match ← Flow.attempt work with
  | .ok id =>
    Flow.log .info ("Created new case " ++ Case.idText id ++ " from exception record. " ++ context)
    return .created id
  | .error (.store _) =>
    refuse ("Failed to create new case for " ++ service.jurisdiction.getD "None" ++ " jurisdiction")
  | .error failure => Flow.fail failure

/-- Turn a record into a case for a caseworker. Warnings of the transformation
stop the creation unless they are to be ignored. -/
def createForRecord (office : Office σ) (record : ExceptionRecord) (service : Service)
    (ignoreWarnings : Bool) (userToken userId : String) : Flow σ NewCaseOutcome := do
  match ← Flow.attempt (office.transformRecord record service) with
  | .error failure => transformationRefusal record service failure
  | .ok (serviceToken, answer) =>
    if !ignoreWarnings && !answer.warnings.isEmpty then return .objected answer.warnings []
    else office.createFromRecord record service ⟨userToken, serviceToken⟩ userId answer.draft

end Office
end Mailroom
