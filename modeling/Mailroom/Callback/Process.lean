import Mailroom.Callback.NewCase
import Mailroom.Record.Validation
import Mailroom.Routing.LogContext
import Mailroom.Routing.PaymentNotice

/-!
# Dealing with a callback

The request is checked from the outside in: the event, the service, the caller,
the record, and whether its payments still have to be processed. A case that
was created from the record before is linked to it; otherwise one is created
and the payments are moved. Then the data of the record is finalized.
-/

namespace Mailroom.Office

variable {σ : Type}

/-- What is shown while payments are being processed. -/
def awaitingPaymentsMessage : String :=
  "Payments for this Exception Record have not been processed yet"

/-- What is shown when the payments could not be moved. -/
def paymentsNotProcessedMessage : String :=
  "Payment references cannot be processed. Please try again later"

/-- The service of a callback, which must have a transformation address. -/
def callbackService (office : Office σ) (name : String) : Flow σ Service :=
  match office.services.get (some name) with
  | .error unknown => refuse unknown.message
  | .ok service =>
    if (service.transformationUrl.getD "").isEmpty then
      refuse "Transformation URL is not configured"
    else pure service

/-- The value of a header that must say something. -/
def neededHeader (value : Option String) (complaint : String) : Flow σ String :=
  match value with
  | some value => if value.isEmpty then refuse complaint else pure value
  | none => refuse complaint

/-- Why payments hold a record back, if they do. -/
def paymentsHold? (record : ExceptionRecord) (service : Service) (ignoreWarnings : Bool) :
    Option Callback.Result :=
  if record.awaitsPayments then
    if !service.createsCasesBeforePayments then some { errors := [awaitingPaymentsMessage] }
    else if !ignoreWarnings then some { warnings := [awaitingPaymentsMessage] }
    else none
  else none

/-- Move the payments of a record to its new case, and finalize the record. -/
def linkNewCase (office : Office σ) (record : ExceptionRecord) (case : Case)
    (caseId : Option Int) : Flow σ Callback.Result := do
  match ← Flow.attempt
      (office.movePayments record case.jurisdiction (Case.idText case.id) caseId) with
  | .ok _ =>
    return { data := ExceptionRecord.finalized case.data (Case.idText caseId), caseId }
  | .error (.payments _) =>
    Flow.log .error ("Failed to send update to payment processor for " ++ record.id
      ++ " exception record")
    return { errors := [paymentsNotProcessedMessage], caseId }
  | .error failure => Flow.fail failure

/-- Create the case of a record and link it. A creation that names no case has
nothing to link. -/
def createAndLink (office : Office σ) (record : ExceptionRecord) (service : Service) (case : Case)
    (ignoreWarnings : Bool) (userToken userId : String) : Flow σ Callback.Result := do
  match ← office.createForRecord record service ignoreWarnings userToken userId with
  | .objected warnings errors => return { warnings, errors }
  | .created none => return {}
  | .created (some caseId) => office.linkNewCase record case (some caseId)

/-- Link the case of a record, creating it unless it exists. -/
def linkCase (office : Office σ) (record : ExceptionRecord) (service : Service) (case : Case)
    (ignoreWarnings : Bool) (userToken userId : String) : Flow σ Callback.Result := do
  match ← office.casesByRecord record.id service.name with
  | [] => office.createAndLink record service case ignoreWarnings userToken userId
  | [id] =>
    Flow.log .info ("Case " ++ Case.idText id ++ " already exists for exception record "
      ++ record.id)
    return { data := ExceptionRecord.finalized case.data (Case.idText id) }
  | ids =>
    Flow.fail (.ambiguous ⟨"Multiple cases (" ++ idList ", " ids
      ++ ") found for the given bulk scan case reference: " ++ record.id⟩)

/-- Deal with the record of a callback whose service and caller are known. -/
def processRecord (office : Office σ) (request : Callback.Request) (service : Service)
    (userToken userId : String) : Flow σ Callback.Result :=
  let case := request.record.getD {}
  match ExceptionRecord.validate case request.eventId with
  | .error complaints => return { errors := complaints }
  | .ok record =>
    match paymentsHold? record service request.ignoreWarnings with
    | some result => return result
    | none => office.linkCase record service case request.ignoreWarnings userToken userId

/-- Deal with a callback. -/
def process (office : Office σ) (request : Callback.Request) (userToken userId : Option String) :
    Flow σ Callback.Result := do
  if request.eventId != EventName.createNewCase then
    refuse ("The " ++ request.eventId ++ " event is not supported. Please contact service team")
  else
    let name ← match Callback.serviceOf request.record with
      | .ok name => pure name
      | .error (.inl refusal) => Flow.fail (.callback refusal)
      | .error (.inr fault) => Flow.fail (.faulty fault)
    let service ← office.callbackService name
    let userToken ← neededHeader userToken "Callback has no Idam token received in the header"
    let userId ← neededHeader userId "Callback has no user id received in the header"
    office.processRecord request service userToken userId

end Mailroom.Office
