import Mailroom.CaseAccess
import Mailroom.Routing.LogContext

/-!
# Filing exception records

An envelope that is not dealt with automatically gets an exception record, one
at most: when there is a record already, that one is used, and several records
are an inconsistency that nobody resolves automatically.
-/

namespace Mailroom.Office

variable {σ : Type}

/-- The submission that creates the record of an envelope. -/
def recordDraft (office : Office σ) (envelope : Envelope) : Draft := fun started =>
  match ExceptionRecord.dataOf office.documents envelope with
  | .ok data => .ok {
      data
      event := { id := started.eventId, summary := .str "Create an exception record" }
      token := started.token }
  | .error fault => .error (.faulty fault)

/-- Create the record of an envelope. -/
def fileNewRecord (office : Office σ) (envelope : Envelope) : Flow σ (Option Int) := do
  let caseType := Service.recordCaseType envelope.container
  Flow.log .info ("Creating exception record for envelope " ++ envelope.id ++ ". Case type: "
    ++ caseType)
  let credential ← office.credential (some envelope.jurisdiction)
  let created ← office.createRecord credential envelope.jurisdiction caseType
    EventName.createException (office.recordDraft envelope) (envelope.logContext none)
  Flow.log .info ("Created exception record. Envelope ID: " ++ envelope.id
    ++ ". Exception record ID: " ++ Case.idText created.id)
  return created.id

/-- The exception record of an envelope, created unless it exists. -/
def fileRecord (office : Office σ) (envelope : Envelope) : Flow σ (Option Int) := do
  match ← office.recordsByEnvelope envelope.id envelope.container with
  | [] => office.fileNewRecord envelope
  | [id] =>
    Flow.log .info ("Exception record for envelope " ++ envelope.id ++ " already exists: "
      ++ Case.idText id)
    return id
  | ids =>
    Flow.fail (.ambiguous ⟨"Multiple exception records found for envelope " ++ envelope.id ++ ": "
      ++ idList ", " ids⟩)

end Mailroom.Office
