import Mailroom.Case
import Mailroom.Document.Collection
import Mailroom.Envelope

/-!
# Exception records

An exception record is a case that stands in for an envelope which could not be
dealt with automatically. A caseworker may turn it into a case of the service;
the record is then linked to that case.
-/

namespace Mailroom

/-- An exception record whose fields were checked. What is not checked is
whatever the case data holds. -/
structure ExceptionRecord where
  id : String
  caseType : Json
  poBox : Json
  poBoxJurisdiction : Json := .null
  classification : Classification
  formType : Json := .null
  deliveryDate : Option Time.Moment
  openingDate : Option Time.Moment
  envelopeId : Json := .null
  isAutomated : Bool := false
  scannedDocuments : List Json := []
  ocrData : List Json := []
  containsPayments : Bool := false
  awaitsPayments : Bool := false

namespace ExceptionRecord

/-- A record as a value. -/
def toJson (record : ExceptionRecord) : Json :=
  .obj [
    ("id", .str record.id),
    ("case_type_id", record.caseType),
    ("po_box", record.poBox),
    ("po_box_jurisdiction", record.poBoxJurisdiction),
    ("journey_classification", .str record.classification.name),
    ("form_type", record.formType),
    ("delivery_date", isoValue record.deliveryDate),
    ("opening_date", isoValue record.openingDate),
    ("envelope_id", record.envelopeId),
    ("is_automated_process", .bool record.isAutomated),
    ("scanned_documents", .arr record.scannedDocuments),
    ("ocr_data_fields", .arr record.ocrData),
    ("contains_payments", .bool record.containsPayments),
    ("awaiting_payment_dcn_processing", .bool record.awaitsPayments)]

/-- Link the data of a record to the case that was created from it, and clear
its warnings. -/
def finalized (data : Fields) (caseReference : String) : Fields :=
  ((data.set CaseField.caseReference (.str caseReference)).set CaseField.displayWarnings
    (.str no)).set CaseField.ocrDataValidationWarnings (.arr [])

/-- The case data of the record that stands in for an envelope. -/
def dataOf (store : Document.Store) (envelope : Envelope) : Except Fault Fields := do
  let classification ← envelope.classification.name
  let documents ← Document.toElements store envelope.deliveryDate envelope.documents
  let payments : Json := .str (if envelope.payments.isEmpty then no else yes)
  return [
    (CaseField.journeyClassification, .str classification),
    (CaseField.poBox, .ofText? envelope.poBox),
    (CaseField.poBoxJurisdiction, .str envelope.jurisdiction),
    (CaseField.deliveryDate, OpenData.writeMoment envelope.deliveryDate),
    (CaseField.openingDate, OpenData.writeMoment envelope.openingDate),
    (CaseField.scannedDocuments, .arr documents),
    (CaseField.scanOcrData, .arr (envelope.ocrData.map fun field =>
      OpenData.element [("key", .str field.name), ("value", .ofText? field.value)])),
    (CaseField.formType, .ofText? envelope.formType),
    (CaseField.envelopeId, .str envelope.id),
    (CaseField.containsPayments, payments),
    (CaseField.awaitingPaymentProcessing, payments),
    (CaseField.envelopeCaseReference, .ofText? envelope.caseRef),
    (CaseField.envelopeLegacyCaseReference, .ofText? envelope.legacyCaseRef),
    (CaseField.displayWarnings, .str no),
    (CaseField.ocrDataValidationWarnings, .arr [])]

end ExceptionRecord
end Mailroom
