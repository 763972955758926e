import Mailroom.CaseAccess
import Mailroom.Case.EnvelopeReferences
import Mailroom.Routing.LogContext

/-!
# Attaching evidence

The documents of an envelope are attached to a case that exists, but none that
the case has already. What is submitted is built on the case as it was when the
event was started, not on the case that was found before.
-/

namespace Mailroom.Office

variable {σ : Type}

/-- The references to envelopes on a case after an envelope has changed it. -/
def updatedReferences (envelope : Envelope) (snapshot : Option Case) :
    Except Fault (List Json) := do
  let existing ← match snapshot with
    | some case => EnvelopeReference.readExisting (case.data.member CaseField.bulkScanEnvelopes)
    | none => pure []
  return existing ++ EnvelopeReference.single (.str envelope.id) (.str EnvelopeEffect.update.text)

/-- The documents of a case and the new ones of an envelope after them. -/
def updatedDocuments (store : Document.Store) (envelope : Envelope) (snapshot : Option Case) :
    Except Fault (List Json) := do
  let data := snapshot.map (·.data)
  let missing := Document.notAmong (← Document.onCase data) envelope.documents
  let elements ← Document.toElements store envelope.deliveryDate missing
  return Document.appended elements (← Document.collectionOf data)

/-- The data of an update with the documents of an envelope. -/
def evidenceData (office : Office σ) (envelope : Envelope) (snapshot : Option Case) :
    Except Fault Fields := do
  let documents ← updatedDocuments office.documents envelope snapshot
  let data : Fields := [(CaseField.scannedDocuments, .arr documents)]
  if office.services.recordsEnvelopes (some envelope.container) then
    let references ← updatedReferences envelope snapshot
    return data ++ [(CaseField.bulkScanEnvelopes, .arr references)]
  else return data

/-- The submission that attaches the documents of an envelope. -/
def evidenceDraft (office : Office σ) (envelope : Envelope) : Draft := fun started =>
  match office.evidenceData envelope started.case with
  | .ok data => .ok {
      data
      event := { id := .str EventName.attachScannedDocs, summary := .str "Attach scanned documents" }
      token := started.token }
  | .error fault => .error (.faulty fault)

/-- The calls that attach the documents of an envelope to a case. -/
def attachTo (office : Office σ) (envelope : Envelope) (case : Case) : Flow σ Unit := do
  let credential ← office.credential (some envelope.jurisdiction)
  office.attachDocuments credential envelope.jurisdiction case.caseType (Case.idText case.id)
    EventName.attachScannedDocs (office.evidenceDraft envelope)
    (envelope.fileContext ++ " Case ref: " ++ Case.idText case.id)

/-- Whether a failure to attach is answered with an exception record instead of
being passed on. -/
def isAttachmentRefusal : Failure → Bool
  | .call _ | .authentication _ => true
  | _ => false

/-- Attach the documents of an envelope to a case. The answer is false when
there is nothing new to attach or the case could not be updated. -/
def attachEvidence (office : Office σ) (envelope : Envelope) (case : Case) : Flow σ Bool := do
  let id := Case.idText case.id
  let existing ← Flow.reading (Document.onCase (some case.data))
  if (Document.notAmong existing envelope.documents).isEmpty then
    Flow.log .warning ("Envelope " ++ envelope.id ++ " has no new documents. CCD Case " ++ id
      ++ " not updated")
    return false
  else
    Flow.log .info ("Attaching supplementary evidence from envelope " ++ envelope.id ++ " to case "
      ++ id)
    match ← Flow.attempt (office.attachTo envelope case) with
    | .ok _ =>
      Flow.log .info ("Attached documents from envelope to case. Case ID: " ++ id
        ++ ", envelope ID: " ++ envelope.id)
      return true
    | .error failure =>
      if isAttachmentRefusal failure then
        Flow.log .error ("Failed to attach documents from envelope " ++ envelope.id ++ " to case "
          ++ id ++ ": " ++ failure.message)
        return false
      else Flow.fail failure

end Mailroom.Office
