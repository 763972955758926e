import Mailroom.Proofs.DecidedForms
import Mailroom.Proofs.LegibleDocuments
import Mailroom.Proofs.RecordComplaints

/-!
# Records that can be transformed

The check of a record looks at its identity, its classification, its post office box and its dates;
whatever else the data hold it lets pass. A request holds texts, and moments inside its documents.
So an accepted record need not become a request. It does exactly when the members that go into the
request are texts where texts are expected and dates where dates are. Otherwise the attempt fails
for values of the wrong kind, or for a date that is none, and in no other way.
-/

namespace Mailroom

/-- A value that stands for a text that may be missing: a text, or null. -/
def Json.IsTextual (value : Json) : Prop :=
  ∃ said : Option String, value = .ofText? said

namespace Transformation

open Schema

/-- What can go into a request as the address of a document. What is no object or has no document
URL stands for none; otherwise the URLs are texts, of which the one of the binary may be missing. -/
def IsSendableAddress : Json → Prop
  | .obj members =>
    (Fields.member members "document_url").isVacant = true ∨
      (∃ url, Fields.member members "document_url" = .str url) ∧
      ((Fields.member members "document_binary_url").isVacant = true ∨
        ∃ url, Fields.member members "document_binary_url" = .str url) ∧
      (Fields.member members "document_filename").IsTextual
  | _ => True

/-- An element that can go into a request as a document. -/
@[mk_iff]
structure IsSendableDocument (element : Json) : Prop where
  address : IsSendableAddress ((OpenData.elementValue element).member "url")
  scannedDate : Document.legibleDate ((OpenData.elementValue element).member "scannedDate") = true
  deliveryDate : Document.legibleDate ((OpenData.elementValue element).member "deliveryDate") = true
  type : ((OpenData.elementValue element).member "type").IsTextual
  subtype : ((OpenData.elementValue element).member "subtype").IsTextual
  controlNumber : ((OpenData.elementValue element).member "controlNumber").IsTextual
  fileName : ((OpenData.elementValue element).member "fileName").IsTextual

/-- An element that can go into a request as a form field, or is left out for want of a key. -/
def IsSendableField (element : Json) : Prop :=
  let value := OpenData.elementValue element
  (value.member "key").isVacant = true ∨
    (∃ name, value.member "key" = .str name) ∧ (value.member "value").IsTextual

/-- The failures of a request whose values do not fit: violations of a model, or a date that is
none. -/
def RequestFailure.IsMisfit : RequestFailure → Prop
  | .invalid _ violations => violations ≠ []
  | .faulty fault => fault = .badContent

/-- A part of a request that is built exactly under a condition, and is a misfit otherwise. -/
structure Builds {α : Type} (built : Except RequestFailure α) (condition : Prop) : Prop where
  succeeds : (∃ value, built = .ok value) ↔ condition
  fails : ∀ failure, built = .error failure → failure.IsMisfit

namespace Builds

variable {α β : Type} {built : Except RequestFailure α} {condition : Prop}

/-- The condition may be said in other words. -/
theorem reword {other : Prop} (builds : Builds built condition) (same : condition ↔ other) :
    Builds built other :=
  ⟨builds.succeeds.trans same, builds.fails⟩

/-- A part that is there is built under any condition that holds. -/
theorem there (value : α) (holds : condition) : Builds (.ok value) condition :=
  ⟨⟨fun _ => holds, fun _ => ⟨value, rfl⟩⟩, nofun⟩

/-- A part that is a misfit is built under no condition that holds. -/
theorem refused {failure : RequestFailure} (misfit : failure.IsMisfit) (unmet : ¬ condition) :
    Builds (.error failure : Except RequestFailure α) condition := by
  refine ⟨⟨nofun, fun holds => absurd holds unmet⟩, fun other same => ?_⟩
  rwa [← Except.error.inj same]

/-- One part after another is built when both are. -/
theorem bind {next : α → Except RequestFailure β} {later : Prop} (first : Builds built condition)
    (second : ∀ value, Builds (next value) later) :
    Builds (built >>= next) (condition ∧ later) := by
  cases outcome : built with
  | ok value =>
    have holds := first.succeeds.mp ⟨value, outcome⟩
    exact (second value).reword (and_iff_right holds).symm
  | error failure =>
    refine refused (first.fails failure outcome) fun both => ?_
    obtain ⟨value, isBuilt⟩ := first.succeeds.mpr both.1
    cases isBuilt.symm.trans outcome

/-- What is made of a part is built when the part is. -/
theorem map (change : α → β) (builds : Builds built condition) :
    Builds (change <$> built) condition := by
  rw [map_eq_pure_bind]
  exact (builds.bind fun value => there (change value) trivial).reword (and_iff_left trivial)

/-- A list is built when each of its items is. -/
theorem mapM {build : α → Except RequestFailure β} {items : List α} {each : α → Prop}
    (builds : ∀ item, Builds (build item) (each item)) :
    Builds (items.mapM build) (∀ item ∈ items, each item) := by
  induction items with
  | nil => exact there _ (List.forall_mem_nil _)
  | cons item rest inductionHypothesis =>
    rw [List.mapM_cons, List.forall_mem_cons]
    exact (builds item).bind fun _ => inductionHypothesis.map _

/-- So is a list of which some items are left out. -/
theorem filterMapM {build : α → Except RequestFailure (Option β)} {items : List α}
    {each : α → Prop} (builds : ∀ item, Builds (build item) (each item)) :
    Builds (items.filterMapM build) (∀ item ∈ items, each item) := by
  induction items with
  | nil => exact there _ (List.forall_mem_nil _)
  | cons item rest inductionHypothesis =>
    rw [List.filterMapM_cons, List.forall_mem_cons]
    refine (builds item).bind fun found => ?_
    cases found with
    | none => exact inductionHypothesis
    | some value => exact inductionHypothesis.map _

/-- A checked part is built when its value says something. -/
theorem part {model : String} {checked : Checked α} {meant : α → Prop}
    (decides : checked.Decides meant) :
    Builds (Transformation.part model checked) (∃ meaning, meant meaning) := by
  cases outcome : checked with
  | accepted value => exact there value ⟨value, (decides.accepts value).mp outcome⟩
  | rejected violations =>
    refine refused (decides.complains violations outcome) fun ⟨meaning, said⟩ => ?_
    cases ((decides.accepts meaning).mpr said).symm.trans outcome

/-- A date is built when it is legible. -/
theorem date (value : Json) :
    Builds (reading (OpenData.storedMoment value)) (Document.legibleDate value = true) := by
  rw [← Document.storedMoment_isOk]
  cases outcome : OpenData.storedMoment value with
  | ok moment => exact there moment rfl
  | error fault => exact refused (ExceptionRecord.storedMoment_fault outcome) nofun

end Builds

/-- A text that may be missing says itself. -/
theorem nullable_text_decides (value : Json) :
    (nullable text value).Decides fun said => value = .ofText? said := by
  cases value with
  | null =>
    refine (accepted_decides none).reword fun said => ?_
    cases said <;> simp [Json.ofText?]
  | str characters =>
    refine (accepted_decides (some characters)).reword fun said => ?_
    cases said <;> simp [Json.ofText?, eq_comm]
  | _ =>
    refine (refuse_decides .notText).reword fun said => ?_
    cases said <;> simp [Json.ofText?]

/-- So does such a text as a member of a request or of a part of it. -/
theorem field_decides (value : Json) (name : String) :
    ((nullable text value).inside (.member name)).Decides fun said => value = .ofText? said :=
  inside_decides (nullable_text_decides value) _

/-- Something can be said by both of two values when each says something. -/
theorem meant_by_both {α β : Type} {changes : (α → β) → Prop} {meant : α → Prop} :
    (∃ result change input, changes change ∧ meant input ∧ change input = result) ↔
      (∃ change, changes change) ∧ ∃ input, meant input := by
  constructor
  · rintro ⟨_, change, input, changed, said, -⟩
    exact ⟨⟨change, changed⟩, input, said⟩
  · rintro ⟨⟨change, changed⟩, input, said⟩
    exact ⟨_, change, input, changed, said, rfl⟩

/-- Something can be said with a function applied to it when it can be said without. -/
theorem meant_by_map {α β : Type} {meant : α → Prop} {change : α → β} :
    (∃ result input, meant input ∧ change input = result) ↔ ∃ input, meant input :=
  ⟨fun ⟨_, input, said, _⟩ => ⟨input, said⟩, fun ⟨input, said⟩ => ⟨_, input, said, rfl⟩⟩

/-- An address is built when it can go into a request. -/
theorem addressOf_builds (address : Json) :
    Builds (addressOf address) (IsSendableAddress address) := by
  cases address with
  | obj members =>
    unfold addressOf IsSendableAddress
    dsimp only
    generalize Fields.member members "document_url" = url
    generalize Fields.member members "document_binary_url" = binary
    split
    case isTrue vacant => exact .there _ (.inl vacant)
    case isFalse filled =>
      refine Builds.map _ ((Builds.part (seq_decides (seq_decides (map_decides Address.mk
        (inside_decides (text_decides _) _)) (inside_decides (text_decides _) _))
        (field_decides _ _))).reword ?_)
      rw [meant_by_both, meant_by_both, meant_by_map, or_iff_right filled, and_assoc]
      refine and_congr_right fun _ => and_congr_left fun _ => ?_
      split
      case isTrue vacant => exact ⟨fun _ => .inl vacant, fun _ => ⟨_, rfl⟩⟩
      case isFalse given => exact (or_iff_right given).symm
  | _ => exact .there _ trivial

/-- A document is built when its element can go into a request. -/
theorem documentOf_builds (element : Json) :
    Builds (documentOf element) (IsSendableDocument element) := by
  rw [isSendableDocument_iff]
  unfold documentOf
  refine (addressOf_builds _).bind fun address => (Builds.date _).bind fun scannedAt =>
    (Builds.date _).bind fun deliveryDate => ?_
  refine (Builds.part (seq_decides (seq_decides (seq_decides (map_decides _ (field_decides _ _))
    (field_decides _ _)) (field_decides _ _)) (field_decides _ _))).reword ?_
  rw [meant_by_both, meant_by_both, meant_by_both, meant_by_map, and_assoc, and_assoc]
  rfl

/-- A form field is built, or left out, when its element can go into a request. -/
theorem ocrFieldOf_builds (element : Json) :
    Builds (ocrFieldOf element) (IsSendableField element) := by
  unfold ocrFieldOf IsSendableField
  dsimp only
  split
  case isTrue vacant => exact .there _ (.inl vacant)
  case isFalse filled =>
    refine Builds.map _ ((Builds.part (seq_decides (map_decides OcrField.mk
      (inside_decides (text_decides _) _)) (field_decides _ _))).reword ?_)
    rw [meant_by_both, meant_by_map, or_iff_right filled]
    rfl

/-- A case whose record can be transformed: the members of a request that are copied from its data
are texts where they are there, and so is its case type; its documents and its form fields can go
into a request. -/
structure IsTransformable (case : Case) : Prop where
  caseType : case.caseType.IsTextual
  envelopeId : (case.data.member CaseField.envelopeId).IsTextual
  poBox : (case.data.member CaseField.poBox).IsTextual
  poBoxJurisdiction : (case.data.member CaseField.poBoxJurisdiction).IsTextual
  formType : (case.data.member CaseField.formType).IsTextual
  documents : ∀ element ∈ case.data.objectsAt CaseField.scannedDocuments,
    IsSendableDocument element
  ocrData : ∀ element ∈ case.data.objectsAt CaseField.scanOcrData, IsSendableField element

/-- A text is one that may be missing. -/
theorem isTextual_str (text : String) : (Json.str text).IsTextual :=
  ⟨some text, rfl⟩

/-- The request for a record is built when each of its parts is. -/
theorem ofRecord_builds (record : ExceptionRecord) :
    Builds (Request.ofRecord record)
      ((∀ element ∈ record.scannedDocuments, IsSendableDocument element) ∧
      (∀ element ∈ record.ocrData, IsSendableField element) ∧
      record.caseType.IsTextual ∧ record.envelopeId.IsTextual ∧ record.poBox.IsTextual ∧
      record.poBoxJurisdiction.IsTextual ∧ record.formType.IsTextual) := by
  unfold Request.ofRecord Request.ofValues
  refine (Builds.mapM documentOf_builds).bind fun documents =>
    (Builds.filterMapM ocrFieldOf_builds).bind fun ocrData => ?_
  refine (Builds.part (seq_decides (seq_decides (seq_decides (seq_decides (seq_decides (seq_decides
    (map_decides _ (field_decides _ _)) (field_decides _ _)) (field_decides _ _))
    (inside_decides (accepted_decides _) _)) (field_decides _ _)) (field_decides _ _))
    (field_decides _ _))).reword ?_
  simp only [meant_by_both, meant_by_map]
  -- The identity of a record and its mark of automation fit whatever they are.
  constructor
  · rintro ⟨⟨⟨⟨⟨⟨-, caseType⟩, envelopeId⟩, -⟩, poBox⟩, poBoxJurisdiction⟩, formType⟩
    exact ⟨caseType, envelopeId, poBox, poBoxJurisdiction, formType⟩
  · rintro ⟨caseType, envelopeId, poBox, poBoxJurisdiction, formType⟩
    exact ⟨⟨⟨⟨⟨⟨isTextual_str _, caseType⟩, envelopeId⟩, _, rfl⟩, poBox⟩, poBoxJurisdiction⟩, formType⟩

/-- An accepted record becomes a request exactly when its case can be transformed. Otherwise the
attempt fails for values that violate the model of a request or of a part of it, or for a date that
is none, and never in another way.

Proof: an accepted record is made of the data of its case, and the request for a record is built
part by part. -/
theorem accepted_record_is_transformed_iff {case : Case} {eventId : String}
    {record : ExceptionRecord} (accepted : ExceptionRecord.validate case eventId = .ok record) :
    ((∃ request, Request.ofRecord record = .ok request) ↔ IsTransformable case) ∧
    ∀ failure, Request.ofRecord record = .error failure → failure.IsMisfit := by
  obtain ⟨made, -⟩ := ExceptionRecord.madeOf_of_accepted accepted
  have builds := ofRecord_builds record
  rw [made.scannedDocuments, made.ocrData, made.caseType, made.envelopeId, made.poBox,
    made.poBoxJurisdiction, made.formType] at builds
  refine ⟨builds.succeeds.trans ⟨?_, fun fits => ?_⟩, builds.fails⟩
  · rintro ⟨documents, ocrData, caseType, envelopeId, poBox, poBoxJurisdiction, formType⟩
    exact { caseType, envelopeId, poBox, poBoxJurisdiction, formType, documents, ocrData }
  · exact ⟨fits.documents, fits.ocrData, fits.caseType, fits.envelopeId, fits.poBox,
      fits.poBoxJurisdiction, fits.formType⟩

/-- The case of a record with what is asked of it, and with the given post office box and document
beside. -/
def scannedCase (poBox document : Json) : Case where
  id := some 7
  caseType := .str "BULKSCAN_ExceptionRecord"
  data := [
    (CaseField.journeyClassification, .str "EXCEPTION"),
    (CaseField.poBox, poBox),
    (CaseField.deliveryDate, .str "2020-01-01T10:00:00.000"),
    (CaseField.openingDate, .str "2020-01-02T10:00:00.000"),
    (CaseField.scannedDocuments, .arr [OpenData.element [("scannedDate", document)]])]

/-- It is transformed when the post office box is a text and the date of the document is one. -/
theorem plain_record_is_transformed :
    ∃ record, ExceptionRecord.validate (scannedCase (.str "PO") (.str "2020-01-01T09:00:00.000"))
        EventName.createNewCase = .ok record ∧
      ∃ request, Request.ofRecord record = .ok request := by
  have accepted : ∃ record, ExceptionRecord.validate
      (scannedCase (.str "PO") (.str "2020-01-01T09:00:00.000")) EventName.createNewCase =
        .ok record := ⟨_, rfl⟩
  obtain ⟨record, accepted⟩ := accepted
  refine ⟨record, accepted, (accepted_record_is_transformed_iff accepted).1.mpr ?_⟩
  have documentFits : IsSendableDocument
      (OpenData.element [("scannedDate", .str "2020-01-01T09:00:00.000")]) :=
    ⟨trivial, by decide +kernel, rfl, ⟨none, rfl⟩, ⟨none, rfl⟩, ⟨none, rfl⟩, ⟨none, rfl⟩⟩
  exact ⟨⟨some _, rfl⟩, ⟨none, rfl⟩, ⟨some _, rfl⟩, ⟨none, rfl⟩, ⟨none, rfl⟩,
    List.forall_mem_singleton.mpr documentFits, List.forall_mem_nil _⟩

/-- A number for a post office box is accepted, and so is a document scanned yesterday; but the one
violates the model of a request, and the other has a date that is none. -/
theorem accepted_records_are_not_transformed :
    (∃ record, ExceptionRecord.validate (scannedCase (.int 5) .null) EventName.createNewCase =
        .ok record ∧
      Request.ofRecord record =
        .error (.invalid "TransformationRequest" [⟨[.member "po_box"], .notText⟩])) ∧
    ∃ record, ExceptionRecord.validate (scannedCase (.str "PO") (.str "yesterday"))
        EventName.createNewCase = .ok record ∧
      Request.ofRecord record = .error (.faulty .badContent) :=
  ⟨⟨_, rfl, rfl⟩, _, rfl, rfl⟩

end Transformation
end Mailroom
