import Mailroom.Callback
import Mailroom.Proofs.DocumentAddress
import Mailroom.Proofs.FaithfulStore
import Mailroom.Proofs.OfficeInMemory
import Mailroom.Proofs.ReadMoments
import Mailroom.Record.Validation
import Mailroom.Routing.RecordFiling

/-!
# The detour through an exception record

An envelope becomes a request in two ways: directly, or through the exception
record that stands in for it until a caseworker asks for a case. The record is
case data, which is checked before the request is built from it. Both ways write
the documents with the same function and read them with the same one, so their
requests differ in what case data cannot hold only: moments lose their offset and
what is below a millisecond, and a form field without a name is left out.

A record leads back to its service by its case type, which holds the name of the
service in capital letters. That is safe for ASCII names without capital letters.
-/

namespace Mailroom

namespace Text

/-- An ASCII character that is no capital letter. -/
def IsLowerAscii (character : Char) : Prop :=
  character.toNat < 0x80 ∧ character.isUpper = false

instance (character : Char) : Decidable (IsLowerAscii character) :=
  inferInstanceAs (Decidable (_ ∧ _))

/-- A character that is no capital letter comes back from upper case, and is no sigma
on the way. -/
theorem lowerChar_upperChar {character : Char} (lower : IsLowerAscii character) :
    upperChar character = [character.toUpper] ∧ character.toUpper ≠ 'Σ' ∧
      lowerChar character.toUpper = [character] := by
  have each : ∀ point < 0x80, (Char.ofNat point).isUpper = false →
      (Char.ofNat point).toUpper ≠ 'Σ' ∧
        lowerChar (Char.ofNat point).toUpper = [Char.ofNat point] := by
    decide
  have back := each character.toNat lower.1
  rw [Char.ofNat_toNat] at back
  exact ⟨if_pos lower.1, back lower.2⟩

/-- Characters that are no capital letters come back from upper case, whatever stands
before them. -/
theorem lowerAfter_upper {characters : List Char}
    (lower : ∀ character ∈ characters, IsLowerAscii character) (before : List Char) :
    lowerAfter before (characters.flatMap upperChar) = characters := by
  induction characters generalizing before with
  | nil => rfl
  | cons character rest inductionHypothesis =>
    rw [List.forall_mem_cons] at lower
    obtain ⟨capital, noSigma, back⟩ := lowerChar_upperChar lower.1
    rw [List.flatMap_cons, capital, List.singleton_append, lowerAfter, if_neg noSigma, back,
      inductionHypothesis lower.2]
    rfl

/-- An ASCII text without capital letters comes back from upper case. -/
theorem lower_upper {text : String} (lower : ∀ character ∈ text.toList, IsLowerAscii character) :
    Text.lower (Text.upper text) = text := by
  rw [Text.lower, Text.upper, String.toList_ofList, lowerAfter_upper lower, String.ofList_toList]

end Text

/-- The case type of the records of a service leads back to its name. -/
theorem Callback.serviceOf_recordCaseType {case : Case} {container : String}
    (typed : case.caseType = .str (Service.recordCaseType container)) (named : container ≠ "")
    (lower : ∀ character ∈ container.toList, Text.IsLowerAscii character) :
    Callback.serviceOf (some case) = .ok container := by
  have back := Text.lower_upper lower
  have stem : Text.upper container ≠ "" := by
    intro empty
    rw [empty] at back
    exact named back.symm
  have ends : (Service.recordCaseType container).endsWith Service.recordSuffix = true := by
    rw [Service.recordCaseType, String.endsWith_eq_endsWith_toSlice,
      String.Slice.endsWith_string_iff]
    simp
  have longer : Service.recordCaseType container ≠ Service.recordSuffix := by
    simpa [Service.recordCaseType] using stem
  rw [Callback.serviceOf, Option.map_some, typed]
  simp only [Option.getD_some, ends, Bool.true_and]
  rw [if_pos (by simpa using longer), stem_recordCaseType, back]

namespace Transformation

open Mailroom.Flow Schema

/-- A text or nothing is accepted as it is. -/
theorem nullable_text_ofText? (value : Option String) :
    nullable text (.ofText? value) = .accepted value := by
  cases value <;> rfl

/-- A member that holds a text or nothing is taken as it is. -/
theorem textMember_of_holds {value : Fields} {source : String} {held : Option String}
    (holds : value.member source = .ofText? held) (target : String) :
    textMember value source target = .accepted held := by
  rw [textMember, holds, nullable_text_ofText?]
  rfl

/-- The address in the members of an element. -/
theorem addressOf_of_holds {members : Fields} {address binaryAddress : String}
    {fileName : Option String} (url : members.member "document_url" = .str address)
    (filled : address ≠ "") (binaryUrl : members.member "document_binary_url" = .str binaryAddress)
    (binaryFilled : binaryAddress ≠ "")
    (name : members.member "document_filename" = .ofText? fileName) :
    addressOf (.obj members) = .ok (some ⟨address, binaryAddress, fileName⟩) := by
  have found : (Json.str address).isVacant = false := by simp [Json.isVacant, filled]
  have binaryFound : (Json.str binaryAddress).isVacant = false := by
    simp [Json.isVacant, binaryFilled]
  simp only [addressOf, url, binaryUrl, name, found, binaryFound, Bool.false_eq_true, if_false,
    nullable_text_ofText?]
  rfl

/-- The document of an element, from the members of the value in it. -/
theorem documentOf_of_holds {value : Fields} {address : Option Address}
    {scannedAt deliveryDate : Option Time.Moment}
    {type subtype controlNumber fileName : Option String}
    (url : addressOf (value.member "url") = .ok address)
    (scanned : OpenData.storedMoment (value.member "scannedDate") = .ok scannedAt)
    (delivered : OpenData.storedMoment (value.member "deliveryDate") = .ok deliveryDate)
    (isType : value.member "type" = .ofText? type)
    (isSubtype : value.member "subtype" = .ofText? subtype)
    (number : value.member "controlNumber" = .ofText? controlNumber)
    (name : value.member "fileName" = .ofText? fileName) :
    documentOf (OpenData.element value) =
      .ok ⟨type, subtype, address, controlNumber, fileName, scannedAt, deliveryDate⟩ := by
  rw [documentOf, OpenData.elementValue_element]
  rw [url, scanned, delivered, textMember_of_holds isType, textMember_of_holds isSubtype,
    textMember_of_holds number, textMember_of_holds name]
  rfl

/-- The element of a document that is named and whose moments exist is an object,
and is read as a document of a request, with its moments as case data holds them. -/
theorem documentOf_toElement {store : Document.Store} {fallback : Option Time.Moment}
    {document : Document} {element : Json} (named : document.Named)
    (dated : document.Dated fallback) (written : document.toElement store fallback = .ok element) :
    element.fields?.isSome = true ∧ ∃ request, documentOf element = .ok request ∧
      request.scannedAt = document.scannedAt.map Document.onClock ∧
      request.deliveryDate = (document.deliveryDate <|> fallback).map Document.onClock := by
  obtain ⟨⟨uuid, isUuid⟩, ⟨fileName, isFileName⟩, ⟨type, isType⟩, ⟨subtype, isSubtype⟩⟩ := named
  have filled : store.address uuid ≠ "" := by
    rw [ne_eq, ← String.toList_eq_nil_iff, store.toList_address]
    simp
  rw [Document.toElement, isUuid, isFileName, isType, isSubtype] at written
  obtain rfl := Except.ok.inj written
  exact ⟨rfl, _, documentOf_of_holds (addressOf_of_holds rfl filled rfl (by simp) rfl)
    (Document.storedMoment_writeMoment dated.1) (Document.storedMoment_writeMoment dated.2)
    rfl rfl rfl rfl, rfl, rfl⟩

/-- The documents of a sound envelope can be written, and each of their elements is an
object that is read as a document of a request. -/
theorem documentOf_toElements (store : Document.Store) {fallback : Option Time.Moment}
    {documents : List Document} (named : ∀ document ∈ documents, document.Named)
    (dated : ∀ document ∈ documents, document.Dated fallback) :
    ∃ elements requests, Document.toElements store fallback documents = .ok elements ∧
      (∀ element ∈ elements, element.fields?.isSome = true) ∧
      elements.mapM documentOf = .ok requests ∧
      (documents.mapM fun document => do
        documentOf (← reading (document.toElement store fallback))) = .ok requests := by
  induction documents with
  | nil => exact ⟨[], [], rfl, List.forall_mem_nil _, rfl, rfl⟩
  | cons document rest inductionHypothesis =>
    rw [List.forall_mem_cons] at named dated
    obtain ⟨elements, requests, written, objects, read, direct⟩ :=
      inductionHypothesis named.2 dated.2
    obtain ⟨uuid, isUuid⟩ := named.1.uuid
    obtain ⟨element, isElement⟩ : ∃ element, document.toElement store fallback = .ok element := by
      rw [Document.toElement, isUuid]
      exact ⟨_, rfl⟩
    obtain ⟨object, request, isRequest, -⟩ := documentOf_toElement named.1 dated.1 isElement
    refine ⟨element :: elements, request :: requests, ?_, ?_, ?_, ?_⟩
    · rw [Document.toElements] at written ⊢
      rw [List.mapM_cons, isElement, written]
      rfl
    · exact List.forall_mem_cons.mpr ⟨object, objects⟩
    · rw [List.mapM_cons, isRequest, read]
      rfl
    · rw [List.mapM_cons, direct, isElement]
      change (documentOf element >>= fun request => _) = _
      rw [isRequest]
      rfl

/-- A form field as the record of an envelope holds it. -/
def ocrElement (field : OcrField) : Json :=
  OpenData.element [("key", .str field.name), ("value", .ofText? field.value)]

/-- A form field is read back unless it has no name. -/
theorem ocrFieldOf_ocrElement (field : OcrField) :
    ocrFieldOf (ocrElement field) = .ok (if field.name ≠ "" then some field else none) := by
  rw [ocrFieldOf, ocrElement, OpenData.elementValue_element]
  by_cases empty : field.name = ""
  · rw [if_neg (not_not_intro empty)]
    exact if_pos (String.isEmpty_iff.mpr empty)
  · have filled : (Json.str field.name).isVacant = false := by simp [Json.isVacant, empty]
    have value : nullable text (.ofText? field.value) = .accepted field.value :=
      nullable_text_ofText? field.value
    rw [if_pos empty]
    change (if (Json.str field.name).isVacant then _ else
      some <$> part "OcrField" (OcrField.mk <$> (text (.str field.name)).inside _ <*>
        (nullable text (.ofText? field.value)).inside _)) = _
    rw [filled, value]
    rfl

/-- The form fields of a record are those of its envelope that have a name. -/
theorem ocrFieldOf_ocrElements (fields : List OcrField) :
    (fields.map ocrElement).filterMapM ocrFieldOf =
      .ok (fields.filter fun field => field.name ≠ "") := by
  induction fields with
  | nil => rfl
  | cons field rest inductionHypothesis =>
    rw [List.map_cons, List.filterMapM_cons, ocrFieldOf_ocrElement, inductionHypothesis]
    by_cases empty : field.name = ""
    · rw [List.filter_cons_of_neg (by simpa using empty), if_neg (not_not_intro empty)]
      rfl
    · rw [List.filter_cons_of_pos (by simpa using empty), if_pos empty]
      rfl

end Transformation

namespace ExceptionRecord

variable {data : Fields} {envelope : Envelope} {classification : Classification}
  {elements : List Json}

/-- A record is accepted when the case has an identity, every needed member can be read
and the classification allows the event, and then it is made of what was read. -/
theorem validateData_eq_ok {id : Option String} {caseType : Json} {eventId : String}
    {record : ExceptionRecord} :
    validateData id caseType data eventId = .ok record ↔
      ∃ identity poBox classification deliveryDate openingDate, id = some identity ∧
        neededValue data CaseField.poBox = .ok poBox ∧
        readClassification data = .ok classification ∧
        readDate data CaseField.deliveryDate = .ok deliveryDate ∧
        readDate data CaseField.openingDate = .ok openingDate ∧
        objection? classification (!(objectsOf (data.member CaseField.scanOcrData)).isEmpty)
          eventId = none ∧
        record = {
          id := identity
          caseType
          poBox
          poBoxJurisdiction := data.member CaseField.poBoxJurisdiction
          classification
          formType := data.member CaseField.formType
          deliveryDate
          openingDate
          envelopeId := data.member CaseField.envelopeId
          isAutomated := OpenData.isYes (data.member CaseField.isAutomatedProcess)
          scannedDocuments := objectsOf (data.member CaseField.scannedDocuments)
          ocrData := objectsOf (data.member CaseField.scanOcrData)
          containsPayments := OpenData.isYes (data.member CaseField.containsPayments)
          awaitsPayments := OpenData.isYes (data.member CaseField.awaitingPaymentProcessing) } := by
  unfold validateData
  dsimp only
  constructor
  · intro accepted
    split at accepted
    case h_2 => cases accepted
    case h_1 identity poBox kind delivery opening isPoBox isKind isDelivery isOpening =>
      rw [isKind] at accepted
      dsimp only at accepted
      split at accepted
      case isFalse => cases accepted
      case isTrue silent =>
        have unobjected : objection? kind
            (!(objectsOf (data.member CaseField.scanOcrData)).isEmpty) eventId = none := by
          simpa using silent
        exact ⟨identity, poBox, kind, delivery, opening, rfl, isPoBox, isKind, isDelivery,
          isOpening, unobjected, (Except.ok.inj accepted).symm⟩
  · rintro ⟨identity, poBox, kind, delivery, opening, rfl, isPoBox, isKind, isDelivery, isOpening,
      silent, rfl⟩
    simp only [isPoBox, isKind, isDelivery, isOpening, silent]
    rfl

/-- Case data that stands for an envelope, as far as a callback reads it. -/
structure StandsFor (envelope : Envelope) (classification : Classification) (elements : List Json)
    (data : Fields) : Prop where
  classification : data.member CaseField.journeyClassification = .str classification.name
  poBox : data.member CaseField.poBox = .ofText? envelope.poBox
  jurisdiction : data.member CaseField.poBoxJurisdiction = .str envelope.jurisdiction
  deliveryDate : data.member CaseField.deliveryDate = OpenData.writeMoment envelope.deliveryDate
  openingDate : data.member CaseField.openingDate = OpenData.writeMoment envelope.openingDate
  documents : data.member CaseField.scannedDocuments = .arr elements
  ocrData : data.member CaseField.scanOcrData =
    .arr (envelope.ocrData.map Transformation.ocrElement)
  formType : data.member CaseField.formType = .ofText? envelope.formType
  envelopeId : data.member CaseField.envelopeId = .str envelope.id
  automated : data.member CaseField.isAutomatedProcess = .null
  containsPayments : data.member CaseField.containsPayments =
    .str (if envelope.payments.isEmpty then no else yes)
  awaitsPayments : data.member CaseField.awaitingPaymentProcessing =
    .str (if envelope.payments.isEmpty then no else yes)

/-- The data that is drafted for a record stands for its envelope, and so does case data
with the same members. -/
theorem standsFor_of_dataOf {store : Document.Store}
    (checked : envelope.classification = .checked classification)
    (written : Document.toElements store envelope.deliveryDate envelope.documents = .ok elements) :
    ∃ drafted, dataOf store envelope = .ok drafted ∧
      ∀ data : Fields, (∀ name, data.get? name = drafted.get? name) →
        StandsFor envelope classification elements data := by
  rw [dataOf, checked, written]
  refine ⟨_, rfl, fun data same => ?_⟩
  constructor
  all_goals
    rw [Fields.member, same]
    rfl

/-- A text that is needed is there when it is not empty. -/
theorem neededValue_ofText? {name : String} {held : Option String} {value : Json}
    (holds : data.member name = .ofText? held) :
    neededValue data name = .ok value ↔ held.getD "" ≠ "" ∧ value = .ofText? held := by
  rw [neededValue, holds]
  cases held with
  | none => simp [Json.ofText?, Json.isVacant]
  | some text =>
    by_cases empty : text = ""
    · simp [Json.ofText?, Json.isVacant, empty]
    · simpa [Json.ofText?, Json.isVacant, empty] using eq_comm

/-- A date that is there and holds a moment is read as this moment. -/
theorem readDate_of_needed {name : String} {value : Json} {moment : Option Time.Moment}
    (needed : neededValue data name = .ok value)
    (stored : OpenData.storedMoment value = .ok moment) : readDate data name = .ok moment := by
  unfold readDate
  rw [needed]
  simp [bind, Except.bind, stored]

/-- A date that was written is read to the millisecond, and is missing otherwise. -/
theorem readDate_writeMoment {name : String} {held read : Option Time.Moment}
    (holds : data.member name = OpenData.writeMoment held)
    (valid : ∀ moment ∈ held, moment.isValid = true) :
    readDate data name = .ok read ↔ held.isSome ∧ read = held.map Document.onClock := by
  have stored := Document.storedMoment_writeMoment valid
  cases held with
  | none =>
    rw [readDate, neededValue, holds]
    exact ⟨nofun, fun found => absurd found.1 Bool.false_ne_true⟩
  | some moment =>
    have filled : (OpenData.writeMoment (some moment)).isVacant = false := by
      rw [OpenData.writeMoment, Json.isVacant, Bool.eq_false_iff, ne_eq, String.isEmpty_iff,
        ← String.toList_eq_nil_iff, Time.Moment.localText, String.toList_ofList]
      exact List.cons_ne_nil _ _
    have needed : neededValue data name = .ok (OpenData.writeMoment (some moment)) := by
      rw [neededValue, holds, filled]
      rfl
    rw [readDate_of_needed needed stored]
    simpa using eq_comm

/-- The classification of a record is the one of its envelope. -/
theorem StandsFor.readClassification (stands : StandsFor envelope classification elements data) :
    ExceptionRecord.readClassification data = .ok classification := by
  have filled : (Json.str classification.name).isVacant = false := by
    cases classification <;> rfl
  have needed : neededValue data CaseField.journeyClassification =
      .ok (.str classification.name) := by
    rw [neededValue, stands.classification, filled]
    rfl
  have known : (Json.str classification.name).text?.bind Classification.ofName? =
      some classification := Classification.ofName?_name classification
  simp only [ExceptionRecord.readClassification, needed, bind, Except.bind, known]

/-- The elements of a list of objects are all kept. -/
theorem objectsOf_arr (objects : ∀ element ∈ elements, element.fields?.isSome = true) :
    objectsOf (.arr elements) = elements :=
  List.filter_eq_self.mpr objects

/-- The form fields of an envelope are objects in its record. -/
theorem objectsOf_ocrElements (fields : List OcrField) :
    objectsOf (.arr (fields.map Transformation.ocrElement)) =
      fields.map Transformation.ocrElement := by
  refine objectsOf_arr fun element isElement => ?_
  obtain ⟨field, -, rfl⟩ := List.mem_map.mp isElement
  rfl

/-- An event is allowed on exceptions, and on the kinds with form data when there is some. -/
theorem objection?_eq_none {hasOcrData : Bool} {eventId : String} :
    objection? classification hasOcrData eventId = none ↔
      classification = .exception ∨
        (classification = .newApplication ∨ classification = .supplementaryEvidenceWithOcr) ∧
          hasOcrData = true := by
  cases classification <;> simp [objection?]

end ExceptionRecord

/-- An envelope whose record can be turned into a case: the post office box and both dates
are there, and form data is there unless the envelope is an exception. -/
structure Envelope.Convertible (envelope : Envelope) : Prop where
  poBox : envelope.poBox.getD "" ≠ ""
  delivered : envelope.deliveryDate.isSome
  opened : envelope.openingDate.isSome
  allowed : envelope.classification = .checked .exception ∨
    (envelope.classification = .checked .newApplication ∨
      envelope.classification = .checked .supplementaryEvidenceWithOcr) ∧ envelope.ocrData ≠ []

namespace ExceptionRecord

variable {data : Fields} {envelope : Envelope} {classification : Classification}
  {elements : List Json} {identity eventId : String} {caseType : Json} {record : ExceptionRecord}

/-- The data that stands for an envelope is accepted when the envelope can be turned into a
case, and then the record is made of the members of the data. -/
theorem StandsFor.validateData (stands : StandsFor envelope classification elements data)
    (sound : envelope.Sound) (checked : envelope.classification = .checked classification)
    (objects : ∀ element ∈ elements, element.fields?.isSome = true) :
    ExceptionRecord.validateData (some identity) caseType data eventId = .ok record ↔
      envelope.Convertible ∧ record = {
        id := identity
        caseType
        poBox := .ofText? envelope.poBox
        poBoxJurisdiction := .str envelope.jurisdiction
        classification
        formType := .ofText? envelope.formType
        deliveryDate := envelope.deliveryDate.map Document.onClock
        openingDate := envelope.openingDate.map Document.onClock
        envelopeId := .str envelope.id
        isAutomated := false
        scannedDocuments := elements
        ocrData := envelope.ocrData.map Transformation.ocrElement
        containsPayments := !envelope.payments.isEmpty
        awaitsPayments := !envelope.payments.isEmpty } := by
  have isYes : OpenData.isYes (.str (if envelope.payments.isEmpty then no else yes)) =
      !envelope.payments.isEmpty := by
    cases envelope.payments.isEmpty <;> decide
  have someFields : (!(envelope.ocrData.map Transformation.ocrElement).isEmpty) = true ↔
      envelope.ocrData ≠ [] := by
    simp
  rw [validateData_eq_ok]
  simp only [stands.readClassification, neededValue_ofText? stands.poBox,
    readDate_writeMoment stands.deliveryDate sound.delivered,
    readDate_writeMoment stands.openingDate sound.opened, stands.jurisdiction, stands.formType,
    stands.envelopeId, stands.automated, stands.documents, stands.ocrData, stands.containsPayments,
    stands.awaitsPayments, isYes, objectsOf_arr objects, objectsOf_ocrElements, objection?_eq_none,
    someFields]
  constructor
  · rintro ⟨_, _, _, _, _, ⟨⟩, ⟨poBox, rfl⟩, ⟨⟩, ⟨delivered, rfl⟩, ⟨opened, rfl⟩, allowed, rfl⟩
    refine ⟨⟨poBox, delivered, opened, ?_⟩, rfl⟩
    rw [checked]
    exact allowed.imp (congrArg _) (And.imp_left (Or.imp (congrArg _) (congrArg _)))
  · rintro ⟨convertible, rfl⟩
    have allowed := convertible.allowed
    rw [checked] at allowed
    refine ⟨_, _, _, _, _, rfl, ⟨convertible.poBox, rfl⟩, rfl, ⟨convertible.delivered, rfl⟩,
      ⟨convertible.opened, rfl⟩, ?_, rfl⟩
    simpa using allowed

end ExceptionRecord

namespace Transformation.Request

open Transformation

variable {envelope : Envelope} {classification : Classification}

/-- A request by way of a record says what the direct request says, as far as case data
can hold it: moments are on their clock to the millisecond, and form fields have names. -/
structure Mirrors (request direct : Request) : Prop where
  envelopeId : request.envelopeId = direct.envelopeId
  poBox : request.poBox = direct.poBox
  poBoxJurisdiction : request.poBoxJurisdiction = direct.poBoxJurisdiction
  classification : request.classification = direct.classification
  formType : request.formType = direct.formType
  documents : request.documents = direct.documents
  ocrData : request.ocrData = direct.ocrData.filter fun field => field.name ≠ ""
  deliveryDate : request.deliveryDate = direct.deliveryDate.map Document.onClock
  openingDate : request.openingDate = direct.openingDate.map Document.onClock

/-- The direct request of an envelope whose documents can be read. -/
theorem ofEnvelope_eq {store : Document.Store} {documents : List RequestDocument}
    (checked : envelope.classification = .checked classification)
    (read : (envelope.documents.mapM fun document => do
      documentOf (← reading (document.toElement store envelope.deliveryDate))) = .ok documents) :
    ofEnvelope store envelope = .ok {
      recordId := none
      recordCaseType := none
      envelopeId := some envelope.id
      isAutomated := true
      poBox := envelope.poBox
      poBoxJurisdiction := some envelope.jurisdiction
      classification := classification.name
      formType := envelope.formType
      deliveryDate := envelope.deliveryDate
      openingDate := envelope.openingDate
      documents
      ocrData := envelope.ocrData } := by
  rw [ofEnvelope, checked, read]
  rfl

/-- The request of a record that holds texts and elements which can be read. -/
theorem ofRecord_eq {record : ExceptionRecord} {recordCaseType envelopeId jurisdiction : String}
    {poBox formType : Option String} {documents : List RequestDocument} {ocrData : List OcrField}
    (isType : record.caseType = .str recordCaseType)
    (isEnvelope : record.envelopeId = .str envelopeId)
    (isPoBox : record.poBox = .ofText? poBox)
    (isJurisdiction : record.poBoxJurisdiction = .str jurisdiction)
    (isForm : record.formType = .ofText? formType)
    (read : record.scannedDocuments.mapM documentOf = .ok documents)
    (readData : record.ocrData.filterMapM ocrFieldOf = .ok ocrData) :
    ofRecord record = .ok {
      recordId := some record.id
      recordCaseType := some recordCaseType
      envelopeId := some envelopeId
      isAutomated := record.isAutomated
      poBox
      poBoxJurisdiction := some jurisdiction
      classification := record.classification.name
      formType
      deliveryDate := record.deliveryDate
      openingDate := record.openingDate
      documents
      ocrData } := by
  have walked (elements : List Json) : reading (OpenData.walk (.arr elements)) = .ok elements := rfl
  rw [ofRecord, ofValues, RecordValues.ofRecord]
  simp only [walked, isType, isEnvelope, isPoBox, isJurisdiction, isForm, nullable_text_ofText?]
  change (record.scannedDocuments.mapM documentOf >>= fun _ => _) = _
  rw [read]
  change (record.ocrData.filterMapM ocrFieldOf >>= fun _ => _) = _
  rw [readData]
  rfl

end Transformation.Request

namespace Office

open Transformation Simulation

variable {σ : Type}

/-- The detour of an envelope through its record agrees with the direct path. The record can
always be drafted and the direct request always be built. Whatever case is stored of the
draft under the case type of the records of the service, a callback finds the same service
from it, accepts it exactly when the envelope can be turned into a case, and then builds a
request from it, which mirrors the direct one. -/
theorem detour_agrees_with_direct_path (office : Office σ) {envelope : Envelope}
    (sound : envelope.Sound) (named : envelope.container ≠ "")
    (lower : ∀ character ∈ envelope.container.toList, Text.IsLowerAscii character)
    (started : StartedEvent) :
    ∃ submission direct, office.recordDraft envelope started = .ok submission ∧
      Request.ofEnvelope office.documents envelope = .ok direct ∧
      ∀ stored case,
        case.Founded (.str (Service.recordCaseType envelope.container)) submission.data stored →
        Callback.serviceOf (some case) = .ok envelope.container ∧
        ∀ eventId,
          ((∃ record, ExceptionRecord.validate case eventId = .ok record) ↔
            envelope.Convertible) ∧
          ∀ record, ExceptionRecord.validate case eventId = .ok record →
            record.containsPayments = !envelope.payments.isEmpty ∧
            record.awaitsPayments = !envelope.payments.isEmpty ∧
            ∃ request, Request.ofRecord record = .ok request ∧ request.Mirrors direct := by
  obtain ⟨classification, checked⟩ := sound.classified
  obtain ⟨elements, documents, written, objects, read, direct⟩ :=
    documentOf_toElements office.documents sound.named sound.dated
  obtain ⟨data, drafted, stands⟩ := ExceptionRecord.standsFor_of_dataOf checked written
  obtain ⟨submission, isDraft, isData⟩ :
      ∃ submission, office.recordDraft envelope started = .ok submission ∧
        submission.data = data := by
    rw [recordDraft, drafted]
    exact ⟨_, rfl, rfl⟩
  refine ⟨submission, _, isDraft, Request.ofEnvelope_eq checked direct, ?_⟩
  intro stored case founded
  rw [isData] at founded
  obtain ⟨id, identified⟩ := Option.isSome_iff_exists.mp founded.named
  refine ⟨Callback.serviceOf_recordCaseType founded.caseType named lower, fun eventId => ?_⟩
  have accepted (record : ExceptionRecord) :
      ExceptionRecord.validateData (some (toString id)) case.caseType case.data eventId =
        .ok record ↔ _ :=
    (stands case.data founded.data).validateData sound checked objects
  rw [ExceptionRecord.validate, identified, Option.map_some]
  refine ⟨⟨fun ⟨record, validated⟩ => ((accepted record).mp validated).1,
    fun convertible => ⟨_, (accepted _).mpr ⟨convertible, rfl⟩⟩⟩, fun record validated => ?_⟩
  obtain ⟨-, rfl⟩ := (accepted record).mp validated
  exact ⟨rfl, rfl, _, Request.ofRecord_eq founded.caseType rfl rfl rfl rfl read
    (ocrFieldOf_ocrElements _), ⟨rfl, rfl, rfl, rfl, rfl, rfl, rfl, rfl, rfl⟩⟩

/-- A form with a document and a payment that came from a summer clock; one of its form fields
has no name. -/
def summerForm : Envelope :=
  let noon : Time.Moment :=
    { date := ⟨2020, 7, 1⟩, clock := ⟨12, 0, 0, 123456⟩, offset := some 3600000000 }
  { id := "e"
    container := "bulkscan"
    classification := .checked .newApplication
    jurisdiction := "BULKSCAN"
    documents := [{
      uuid := some "d", controlNumber := some "1", fileName := .str "form.pdf", type := .str "form"
      scannedAt := some noon }]
    poBox := some "PO"
    deliveryDate := some noon
    openingDate := some noon
    ocrData := [{ name := "", value := some "lost" }, { name := "name", value := none }]
    payments := ["1"] }

/-- The record of this form, stored in an empty store, is accepted, and leads to a request that
mirrors the direct one. -/
theorem summer_form_takes_the_detour :
    summerForm.Sound ∧ summerForm.container ≠ "" ∧
      (∀ character ∈ summerForm.container.toList, Text.IsLowerAscii character) ∧
      ∃ submission direct record request,
        sampleOffice.recordDraft summerForm ⟨.str "token", .str "event", none⟩ = .ok submission ∧
        Request.ofEnvelope sampleOffice.documents summerForm = .ok direct ∧
        ExceptionRecord.validate
          { id := some 7, caseType := .str "BULKSCAN_ExceptionRecord", data := submission.data }
          EventName.createNewCase = .ok record ∧
        record.containsPayments = true ∧ Request.ofRecord record = .ok request ∧
        request.Mirrors direct := by
  have valid : ∀ moment ∈ summerForm.deliveryDate, moment.isValid = true := by
    rintro _ ⟨⟩
    decide
  have sound : summerForm.Sound := by
    refine ⟨⟨_, rfl⟩, ?_, ?_, valid, valid⟩
    · rw [summerForm, List.forall_mem_singleton]
      exact ⟨⟨_, rfl⟩, ⟨some _, rfl⟩, ⟨some _, rfl⟩, ⟨none, rfl⟩⟩
    · rw [summerForm, List.forall_mem_singleton]
      exact ⟨valid, valid⟩
  have named : summerForm.container ≠ "" := by decide
  have lower : ∀ character ∈ summerForm.container.toList, Text.IsLowerAscii character := by
    change ∀ character ∈ ['b', 'u', 'l', 'k', 's', 'c', 'a', 'n'], Text.IsLowerAscii character
    rw [← List.forall_iff_forall_mem]
    decide
  obtain ⟨submission, direct, drafted, isDirect, agrees⟩ :=
    detour_agrees_with_direct_path sampleOffice sound named lower ⟨.str "token", .str "event", none⟩
  let case : Case :=
    { id := some 7, caseType := .str "BULKSCAN_ExceptionRecord", data := submission.data }
  have caseType : Service.recordCaseType summerForm.container = "BULKSCAN_ExceptionRecord" := by
    decide +kernel
  have founded : case.Founded (.str (Service.recordCaseType summerForm.container))
      submission.data [] :=
    ⟨rfl, nofun, caseType ▸ rfl, fun _ => rfl⟩
  obtain ⟨accepts, mirrors⟩ := (agrees [] case founded).2 EventName.createNewCase
  have convertible : summerForm.Convertible := by
    refine ⟨by decide, rfl, rfl, .inr ⟨.inl rfl, ?_⟩⟩
    simp [summerForm]
  obtain ⟨record, validated⟩ := accepts.mpr convertible
  obtain ⟨payments, -, request, requested, mirrored⟩ := mirrors record validated
  exact ⟨sound, named, lower, submission, direct, record, request, drafted, isDirect, validated,
    payments, requested, mirrored⟩

end Office
end Mailroom
