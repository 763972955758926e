import Mailroom.Record

/-!
# Checking exception records

The fields of a record and the action asked for are checked, and everything
that is wrong is reported, not only the first problem.
-/

namespace Mailroom.ExceptionRecord

/-- The elements of a collection that are objects; anything but a list has none. -/
def objectsOf : Json → List Json
  | .arr elements => elements.filter fun element => element.fields?.isSome
  | _ => []

/-- A member that must say something, or its name in a complaint. -/
def neededValue (data : Fields) (name : String) : Except String Json :=
  let value := data.member name
  if value.isVacant then .error ("Missing " ++ name) else .ok value

/-- The classification of a record. -/
def readClassification (data : Fields) : Except String Classification := do
  let value ← neededValue data CaseField.journeyClassification
  match value.text?.bind Classification.ofName? with
  | some classification => .ok classification
  | none =>
    .error ("Invalid " ++ CaseField.journeyClassification ++ ". Error: unknown classification "
      ++ value.display)

/-- A date of a record. -/
def readDate (data : Fields) (name : String) : Except String (Option Time.Moment) := do
  let value ← neededValue data name
  match OpenData.storedMoment value with
  | .ok moment => .ok moment
  | .error _ => .error ("Invalid " ++ name ++ ": " ++ value.display)

/-- Why a classification does not allow an event: evidence never does, and the
kinds with form data need some. -/
def objection? (classification : Classification) (hasOcrData : Bool) (eventId : String) :
    Option String :=
  let refusal := "Event " ++ eventId ++ " not allowed for the current journey classification "
    ++ classification.name
  match classification with
  | .supplementaryEvidence => some refusal
  | .newApplication | .supplementaryEvidenceWithOcr =>
    if hasOcrData then none else some (refusal ++ " without OCR")
  | .exception => none

/-- The complaint of a failed reading. -/
def complaint {α : Type} : Except String α → List String
  | .ok _ => []
  | .error complaint => [complaint]

/-- Check the record in the data of a case of a type for an event. -/
def validateData (id : Option String) (caseType : Json) (data : Fields) (eventId : String) :
    Except (List String) ExceptionRecord :=
  let poBox := neededValue data CaseField.poBox
  let classification := readClassification data
  let deliveryDate := readDate data CaseField.deliveryDate
  let openingDate := readDate data CaseField.openingDate
  let ocrData := objectsOf (data.member CaseField.scanOcrData)
  let objection := match classification with
    | .ok classification => (objection? classification (!ocrData.isEmpty) eventId).toList
    | .error _ => []
  let complaints := (if id.isNone then ["Missing exception record id"] else []) ++
    complaint poBox ++ complaint classification ++ complaint deliveryDate ++
    complaint openingDate ++ objection
  match id, poBox, classification, deliveryDate, openingDate with
  | some id, .ok poBox, .ok classification, .ok deliveryDate, .ok openingDate =>
    if objection.isEmpty then
      .ok {
        id
        caseType
        poBox
        poBoxJurisdiction := data.member CaseField.poBoxJurisdiction
        classification
        formType := data.member CaseField.formType
        deliveryDate
        openingDate
        envelopeId := data.member CaseField.envelopeId
        isAutomated := OpenData.isYes (data.member CaseField.isAutomatedProcess)
        scannedDocuments := objectsOf (data.member CaseField.scannedDocuments)
        ocrData
        containsPayments := OpenData.isYes (data.member CaseField.containsPayments)
        awaitsPayments := OpenData.isYes (data.member CaseField.awaitingPaymentProcessing) }
    else .error complaints
  | _, _, _, _, _ => .error complaints

/-- Check the record that a case is for an event. -/
def validate (case : Case) (eventId : String) : Except (List String) ExceptionRecord :=
  validateData (case.id.map toString) case.caseType case.data eventId

end Mailroom.ExceptionRecord
