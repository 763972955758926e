import Mailroom.Transformation

/-!
# Requests as messages

A request for a transformation that arrives as a value: the counterpart of the
value that a request is written as. Members it does not know are ignored and
absent ones are missing, but the classification must be there.
-/

namespace Mailroom.Transformation

open Schema

/-- Check the message of an address. -/
def checkAddress : Json → Checked Address :=
  model "DocumentUrl" fun members =>
    Address.mk
    <$> required members "document_url" text
    <*> required members "document_binary_url" text
    <*> maybe members "document_filename" text

/-- Check the message of a document. -/
def checkRequestDocument : Json → Checked RequestDocument :=
  model "TransformationDocument" fun members =>
    RequestDocument.mk
    <$> maybe members "type" text
    <*> maybe members "subtype" text
    <*> maybe members "url" checkAddress
    <*> maybe members "control_number" text
    <*> maybe members "file_name" text
    <*> maybe members "scanned_date" moment
    <*> maybe members "delivery_date" moment

/-- Check the message of a form field. -/
def checkRequestField : Json → Checked OcrField :=
  model "OcrField" fun members =>
    OcrField.mk <$> required members "name" text <*> maybe members "value" text

/-- Check the message of a request. -/
def checkRequest : Json → Checked Request :=
  model "TransformationRequest" fun members =>
    Request.mk
    <$> maybe members "exception_record_id" text
    <*> maybe members "exception_record_case_type_id" text
    <*> maybe members "envelope_id" text
    <*> optional members "is_automated_process" boolean false
    <*> maybe members "po_box" text
    <*> maybe members "po_box_jurisdiction" text
    <*> required members "journey_classification" text
    <*> maybe members "form_type" text
    <*> maybe members "delivery_date" moment
    <*> maybe members "opening_date" moment
    <*> optional members "scanned_documents" (list checkRequestDocument) []
    <*> optional members "ocr_data_fields" (list checkRequestField) []

end Mailroom.Transformation
