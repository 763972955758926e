import Mailroom.Document.Collection
import Mailroom.Record
import Mailroom.Schema.Scalar

/-!
# Transformation

The transformation service of a tenant turns an envelope or an exception record
into the data of a new case. A request is built from either; its answer names
the case type, the event and the data, and may carry warnings.
-/

namespace Mailroom.Transformation

open Schema

/-- Where a document is found. -/
structure Address where
  url : String
  binaryUrl : String
  fileName : Option String
  deriving DecidableEq, Repr

/-- A document in a request. -/
structure RequestDocument where
  type : Option String
  subtype : Option String
  address : Option Address
  controlNumber : Option String
  fileName : Option String
  scannedAt : Option Time.Moment
  deliveryDate : Option Time.Moment
  deriving DecidableEq, Repr

/-- The request for the data of a case. -/
structure Request where
  recordId : Option String
  recordCaseType : Option String
  envelopeId : Option String
  isAutomated : Bool
  poBox : Option String
  poBoxJurisdiction : Option String
  classification : String
  formType : Option String
  deliveryDate : Option Time.Moment
  openingDate : Option Time.Moment
  documents : List RequestDocument
  ocrData : List OcrField
  deriving DecidableEq, Repr

/-- Why no request can be built: values of the wrong kind in a part of it, or a
value that cannot be worked with at all. -/
inductive RequestFailure where
  | invalid (model : String) (violations : List Violation)
  | faulty (fault : Fault)

/-- Take a checked part of a request, or fail for it. -/
def part {α : Type} (model : String) : Checked α → Except RequestFailure α
  | .accepted value => .ok value
  | .rejected violations => .error (.invalid model violations)

/-- Take a value that was read, or fail for its fault. -/
def reading {α : Type} : Except Fault α → Except RequestFailure α
  | .ok value => .ok value
  | .error fault => .error (.faulty fault)

/-- The address in a collection element; one without a document URL is none.
The binary content is found below the document unless the element says where. -/
def addressOf : Json → Except RequestFailure (Option Address)
  | .obj members =>
    let url := Fields.member members "document_url"
    if url.isVacant then .ok none
    else
      let binary := Fields.member members "document_binary_url"
      let binary := if binary.isVacant then .str (url.display ++ "/binary") else binary
      some <$> part "DocumentUrl"
        (Address.mk
          <$> (text url).inside (.member "document_url")
          <*> (text binary).inside (.member "document_binary_url")
          <*> (nullable text (Fields.member members "document_filename")).inside
            (.member "document_filename"))
  | _ => .ok none

/-- A member of a collection element that is a text or null. -/
def textMember (value : Fields) (source target : String) : Checked (Option String) :=
  (nullable text (value.member source)).inside (.member target)

/-- The document of a collection element. -/
def documentOf (element : Json) : Except RequestFailure RequestDocument := do
  let value := OpenData.elementValue element
  let address ← addressOf (value.member "url")
  let scannedAt ← reading (OpenData.storedMoment (value.member "scannedDate"))
  let deliveryDate ← reading (OpenData.storedMoment (value.member "deliveryDate"))
  part "TransformationDocument"
    ((fun type subtype controlNumber fileName =>
        { type, subtype, address, controlNumber, fileName, scannedAt, deliveryDate })
      <$> textMember value "type" "type"
      <*> textMember value "subtype" "subtype"
      <*> textMember value "controlNumber" "control_number"
      <*> textMember value "fileName" "file_name")

/-- The form field of a collection element; one without a key is left out. -/
def ocrFieldOf (element : Json) : Except RequestFailure (Option OcrField) :=
  let value := OpenData.elementValue element
  let key := value.member "key"
  if key.isVacant then .ok none
  else
    some <$> part "OcrField"
      (OcrField.mk
        <$> (text key).inside (.member "name")
        <*> (nullable text (value.member "value")).inside (.member "value"))

/-- What an exception record holds, none of it checked but the classification
and the dates. -/
structure RecordValues where
  id : Json
  caseType : Json
  envelopeId : Json
  isAutomated : Json
  poBox : Json
  poBoxJurisdiction : Json
  classification : Classification
  formType : Json
  deliveryDate : Option Time.Moment
  openingDate : Option Time.Moment
  scannedDocuments : Json
  ocrData : Json

/-- The values of a checked record. -/
def RecordValues.ofRecord (record : ExceptionRecord) : RecordValues :=
  { id := .str record.id
    caseType := record.caseType
    envelopeId := record.envelopeId
    isAutomated := .bool record.isAutomated
    poBox := record.poBox
    poBoxJurisdiction := record.poBoxJurisdiction
    classification := record.classification
    formType := record.formType
    deliveryDate := record.deliveryDate
    openingDate := record.openingDate
    scannedDocuments := .arr record.scannedDocuments
    ocrData := .arr record.ocrData }

namespace Request

/-- The request for an envelope that has no exception record. -/
def ofEnvelope (store : Document.Store) (envelope : Envelope) : Except RequestFailure Request := do
  let classification ← reading envelope.classification.name
  let documents ← envelope.documents.mapM fun document => do
    documentOf (← reading (document.toElement store envelope.deliveryDate))
  return {
    recordId := none
    recordCaseType := none
    envelopeId := some envelope.id
    isAutomated := true
    poBox := envelope.poBox
    poBoxJurisdiction := some envelope.jurisdiction
    classification
    formType := envelope.formType
    deliveryDate := envelope.deliveryDate
    openingDate := envelope.openingDate
    documents
    ocrData := envelope.ocrData }

/-- The request for the values of a record. -/
def ofValues (values : RecordValues) : Except RequestFailure Request := do
  let documents ← (← reading (OpenData.walk values.scannedDocuments)).mapM documentOf
  let ocrData ← (← reading (OpenData.walk values.ocrData)).filterMapM ocrFieldOf
  let field (value : Json) (name : String) := (nullable text value).inside (.member name)
  part "TransformationRequest"
    ((fun recordId recordCaseType envelopeId isAutomated poBox poBoxJurisdiction formType =>
        { recordId
          recordCaseType
          envelopeId
          isAutomated
          poBox
          poBoxJurisdiction
          classification := values.classification.name
          formType
          deliveryDate := values.deliveryDate
          openingDate := values.openingDate
          documents
          ocrData })
      <$> field values.id "exception_record_id"
      <*> field values.caseType "exception_record_case_type_id"
      <*> field values.envelopeId "envelope_id"
      <*> (boolean values.isAutomated).inside (.member "is_automated_process")
      <*> field values.poBox "po_box"
      <*> field values.poBoxJurisdiction "po_box_jurisdiction"
      <*> field values.formType "form_type")

/-- The request for an exception record. -/
def ofRecord (record : ExceptionRecord) : Except RequestFailure Request :=
  ofValues (.ofRecord record)

end Request

/-- A moment in a request. -/
def momentValue : Option Time.Moment → Json
  | some moment => .str moment.wireText
  | none => .null

/-- An address as a value. -/
def Address.toJson (address : Address) : Json :=
  .obj [
    ("document_url", .str address.url),
    ("document_binary_url", .str address.binaryUrl),
    ("document_filename", .ofText? address.fileName)]

/-- A document as a value. -/
def RequestDocument.toJson (document : RequestDocument) : Json :=
  .obj [
    ("type", .ofText? document.type),
    ("subtype", .ofText? document.subtype),
    ("url", (document.address.map Address.toJson).getD .null),
    ("control_number", .ofText? document.controlNumber),
    ("file_name", .ofText? document.fileName),
    ("scanned_date", momentValue document.scannedAt),
    ("delivery_date", momentValue document.deliveryDate)]

/-- A request as a value. -/
def Request.toJson (request : Request) : Json :=
  .obj [
    ("exception_record_id", .ofText? request.recordId),
    ("exception_record_case_type_id", .ofText? request.recordCaseType),
    ("envelope_id", .ofText? request.envelopeId),
    ("is_automated_process", .bool request.isAutomated),
    ("po_box", .ofText? request.poBox),
    ("po_box_jurisdiction", .ofText? request.poBoxJurisdiction),
    ("journey_classification", .str request.classification),
    ("form_type", .ofText? request.formType),
    ("delivery_date", momentValue request.deliveryDate),
    ("opening_date", momentValue request.openingDate),
    ("scanned_documents", .arr (request.documents.map RequestDocument.toJson)),
    ("ocr_data_fields", .arr (request.ocrData.map OcrField.toJson))]

/-- What to create: a case type, an event and data. -/
structure CaseDraft where
  caseType : String
  eventId : String
  data : Fields

/-- The answer of a transformation service. -/
structure Answer where
  draft : CaseDraft
  warnings : List String

/-- Check the draft of a case. -/
def checkDraft : Json → Checked CaseDraft :=
  model "CaseCreationDetails" fun members =>
    CaseDraft.mk
    <$> required members "case_type_id" filledText
    <*> required members "event_id" filledText
    <*> required members "case_data" object

/-- Check an answer. -/
def checkAnswer : Json → Checked Answer :=
  model "SuccessfulTransformationResponse" fun members =>
    Answer.mk
    <$> required members "case_creation_details" checkDraft
    <*> optional members "warnings" (list text) []

/-- An answer as a value. -/
def Answer.toJson (answer : Answer) : Json :=
  .obj [
    ("case_creation_details", .obj [
      ("case_type_id", .str answer.draft.caseType),
      ("event_id", .str answer.draft.eventId),
      ("case_data", .obj answer.draft.data)]),
    ("warnings", .arr (answer.warnings.map .str))]

/-- What a transformation service objects to. -/
structure Objections where
  errors : List String
  warnings : List String

/-- Check the body of an answer that rejects a request. -/
def checkObjections : Json → Checked Objections :=
  model "ClientServiceErrorResponse" fun members =>
    Objections.mk
    <$> optional members "errors" (list text) []
    <*> optional members "warnings" (list text) []

/-- Why a transformation service gave no answer to go on with. -/
inductive Failure where
  /-- The answer is not of the agreed form. -/
  | invalidAnswer (violations : List String)
  /-- The service rejected the request. -/
  | rejected (status : Nat) (objections : Objections) (body : String)
  /-- Anything else. -/
  | unavailable (message : String) (status : Option Nat)

namespace Failure

/-- The wording of a failure. -/
def message : Failure → String
  | .invalidAnswer violations => "Invalid transformation response: " ++ "; ".intercalate violations
  | .rejected status _ _ =>
    "Transformation service rejected the request with status " ++ toString status
  | .unavailable message _ => message

end Failure
end Mailroom.Transformation
