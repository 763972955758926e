import Mailroom.Document
import Mailroom.Fault

/-!
# Envelopes

An envelope is one paper submission: scanned documents, data read from its
form, the numbers of its payments, and a classification that says what the
sender wants done with it.
-/

namespace Mailroom

/-- What the sender of an envelope wants done. -/
inductive Classification where
  | newApplication
  | exception
  | supplementaryEvidence
  | supplementaryEvidenceWithOcr
  deriving DecidableEq, Repr

namespace Classification

/-- The classifications by name. -/
def table : List (String × Classification) :=
  [("NEW_APPLICATION", .newApplication), ("EXCEPTION", .exception),
    ("SUPPLEMENTARY_EVIDENCE", .supplementaryEvidence),
    ("SUPPLEMENTARY_EVIDENCE_WITH_OCR", .supplementaryEvidenceWithOcr)]

/-- The name of a classification. -/
def name : Classification → String
  | .newApplication => "NEW_APPLICATION"
  | .exception => "EXCEPTION"
  | .supplementaryEvidence => "SUPPLEMENTARY_EVIDENCE"
  | .supplementaryEvidenceWithOcr => "SUPPLEMENTARY_EVIDENCE_WITH_OCR"

/-- The classification with a name. -/
def ofName? (name : String) : Option Classification :=
  table.lookup name

/-- Every classification is found by its name. -/
@[simp]
theorem ofName?_name (classification : Classification) :
    ofName? classification.name = some classification := by
  cases classification <;> decide

end Classification

/-- The classification of an envelope: one that was checked, or a text that
nobody has checked. -/
inductive Journey where
  | checked (classification : Classification)
  | unchecked (text : String)
  deriving DecidableEq, Repr

namespace Journey

/-- The text of a classification. -/
def text : Journey → String
  | .checked classification => classification.name
  | .unchecked text => text

/-- The classification that the text names. -/
def classification? : Journey → Option Classification
  | .checked classification => some classification
  | .unchecked text => Classification.ofName? text

/-- The name of a checked classification; an unchecked text has none. -/
def name : Journey → Except Fault String
  | .checked classification => .ok classification.name
  | .unchecked _ => .error .noSuchOperation

end Journey

/-- A value that was read from a scanned form. -/
structure OcrField where
  name : String
  value : Option String
  deriving DecidableEq, Repr, Inhabited

/-- A value from a form as a value of its own. -/
def OcrField.toJson (field : OcrField) : Json :=
  .obj [("name", .str field.name), ("value", .ofText? field.value)]

/-- One paper submission. -/
structure Envelope where
  id : String
  container : String
  classification : Journey
  jurisdiction : String
  documents : List Document := []
  caseRef : Option String := none
  zipFileName : Option String := none
  deliveryDate : Option Time.Moment := none
  legacyCaseRef : Option String := none
  poBox : Option String := none
  formType : Option String := none
  openingDate : Option Time.Moment := none
  ocrData : List OcrField := []
  payments : List String := []

/-- An envelope as a value. -/
def Envelope.toJson (envelope : Envelope) : Json :=
  .obj [
    ("id", .str envelope.id),
    ("container", .str envelope.container),
    ("classification", .str envelope.classification.text),
    ("jurisdiction", .str envelope.jurisdiction),
    ("documents", .arr (envelope.documents.map Document.toJson)),
    ("case_ref", .ofText? envelope.caseRef),
    ("zip_file_name", .ofText? envelope.zipFileName),
    ("delivery_date", isoValue envelope.deliveryDate),
    ("legacy_case_ref", .ofText? envelope.legacyCaseRef),
    ("po_box", .ofText? envelope.poBox),
    ("form_type", .ofText? envelope.formType),
    ("opening_date", isoValue envelope.openingDate),
    ("ocr_data", .arr (envelope.ocrData.map OcrField.toJson)),
    ("payments", .arr (envelope.payments.map .str))]

end Mailroom
