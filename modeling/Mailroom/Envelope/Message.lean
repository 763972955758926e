import Mailroom.Envelope
import Mailroom.Schema.Scalar

/-!
# Envelope messages

The message that announces an envelope. Members it does not know are ignored,
lists may be absent but not null, and a value of a form field is known by two
names each.
-/

namespace Mailroom.Envelope

open Schema

/-- Check the message of a document. -/
def checkDocument : Json → Checked Document :=
  model "DocumentMessage" fun members =>
    (fun uuid controlNumber fileName type subtype scannedAt deliveryDate =>
      { uuid := some uuid
        controlNumber := some controlNumber
        fileName := .ofText? fileName
        type := .ofText? type
        subtype := .ofText? subtype
        scannedAt
        deliveryDate : Document })
    <$> required members "uuid" text
    <*> required members "control_number" text
    <*> maybe members "file_name" text
    <*> maybe members "type" text
    <*> maybe members "subtype" text
    <*> maybe members "scanned_at" moment
    <*> maybe members "delivery_date" moment

/-- Check the message of a form field. -/
def checkOcrField : Json → Checked OcrField :=
  model "OcrDataFieldMessage" fun members =>
    OcrField.mk
    <$> memberOr members ["name", "metadata_field_name"] text
      (.rejected [⟨[.member "name"], .missing⟩])
    <*> memberOr members ["value", "metadata_field_value"] (nullable text) (.accepted none)

/-- Check the message of a payment. -/
def checkPayment : Json → Checked String :=
  model "PaymentMessage" fun members => required members "document_control_number" text

/-- Check the message of an envelope. -/
def checkMessage : Json → Checked Envelope :=
  model "EnvelopeMessage" fun members =>
    (fun id container classification jurisdiction documents caseRef zipFileName deliveryDate
        legacyCaseRef poBox formType openingDate ocrData payments =>
      { id, container, classification := .checked classification, jurisdiction, documents, caseRef,
        zipFileName, deliveryDate, legacyCaseRef, poBox, formType, openingDate, ocrData, payments })
    <$> required members "id" text
    <*> required members "container" text
    <*> required members "classification" (choice Classification.table)
    <*> required members "jurisdiction" text
    <*> optional members "documents" (list checkDocument) []
    <*> maybe members "case_ref" text
    <*> maybe members "zip_file_name" text
    <*> maybe members "delivery_date" moment
    <*> maybe members "previous_service_case_reference" text
    <*> maybe members "po_box" text
    <*> maybe members "form_type" text
    <*> maybe members "opening_date" moment
    <*> optional members "ocr_data" (list checkOcrField) []
    <*> optional members "payments" (list checkPayment) []

/-- The kind of value that an envelope message is. -/
def messageName : String := "EnvelopeMessage"

end Mailroom.Envelope
