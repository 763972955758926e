import Mailroom.Proofs.Admission
import Mailroom.Proofs.RecordDetour

/-!
# Complaints about records

A caseworker who asks for a case is told everything that is wrong with the record at once. What is
asked of a record is said here demand by demand, each by what the data of its case hold and without
the check: an identity, a post office box, a known classification, two dates, and the form data that
some classifications come with. The check complains about the demands that are broken, each in its
turn and in words of its own, and about nothing else; a record that breaks none is made of the
members of the data.
-/

namespace Mailroom

namespace Fields

/-- The moment that a member holds as a text, none if it is no such text. -/
def momentAt (data : Fields) (name : String) : Option Time.Moment :=
  (data.member name).text?.bind Time.readIsoText

/-- The elements of a member that are objects, in their order; what is no list has none. -/
def objectsAt (data : Fields) (name : String) : List Json :=
  ((data.member name).elements?.getD []).filter (·.fields?.isSome)

/-- Data of a record that names a classification. -/
def Classifies (data : Fields) (classification : Classification) : Prop :=
  data.member CaseField.journeyClassification = .str classification.name

end Fields

namespace ExceptionRecord

/-- What is asked of a record. -/
inductive Demand where
  | identity
  | poBox
  | classification
  | deliveryDate
  | openingDate
  | formData

namespace Demand

/-- All demands, in the order in which they are checked. -/
def all : List Demand :=
  [identity, poBox, classification, deliveryDate, openingDate, formData]

/-- No demand is left out. -/
theorem mem_all (demand : Demand) : demand ∈ all := by
  cases demand <;> simp [all]

/-- Whether the case of a record does not meet a demand. Form data is asked for when the
classification is known: evidence never has a case of its own, and a form needs something in it. -/
def Broken (case : Case) : Demand → Prop
  | identity => case.id = none
  | poBox => (case.data.member CaseField.poBox).isVacant = true
  | classification => ∀ classification, ¬ case.data.Classifies classification
  | deliveryDate => case.data.momentAt CaseField.deliveryDate = none
  | openingDate => case.data.momentAt CaseField.openingDate = none
  | formData => case.data.Classifies .supplementaryEvidence ∨
    (case.data.Classifies .newApplication ∨ case.data.Classifies .supplementaryEvidenceWithOcr) ∧
      case.data.objectsAt CaseField.scanOcrData = []

/-- What is said of a member that is missing, or that holds what it should not. -/
def memberComplaint (data : Fields) (name reason : String) : String :=
  let value := data.member name
  if value.isVacant then "Missing " ++ name else "Invalid " ++ name ++ reason ++ value.display

/-- What is said of a broken demand when a record is checked for an event. -/
def complaint (case : Case) (eventId : String) : Demand → String
  | identity => "Missing exception record id"
  | poBox => "Missing " ++ CaseField.poBox
  | classification => memberComplaint case.data CaseField.journeyClassification
    ". Error: unknown classification "
  | deliveryDate => memberComplaint case.data CaseField.deliveryDate ": "
  | openingDate => memberComplaint case.data CaseField.openingDate ": "
  | formData =>
    let name := (case.data.member CaseField.journeyClassification).display
    let refusal := "Event " ++ eventId ++ " not allowed for the current journey classification " ++ name
    if name = Classification.supplementaryEvidence.name then refusal else refusal ++ " without OCR"

end Demand

variable {data : Fields} {classification : Classification} {case : Case} {eventId : String}
  {record : ExceptionRecord} {complaints : List String}

/-- A name leads to the classification that has it. -/
theorem name_of_ofName? {name : String}
    (found : Classification.ofName? name = some classification) : classification.name = name := by
  obtain ⟨before, after, parts, -⟩ := List.lookup_eq_some_iff.mp found
  have listed : (name, classification) ∈ Classification.table := by simp [parts]
  have each : ∀ entry ∈ Classification.table, entry.2.name = entry.1 := by decide
  exact each _ listed

/-- Data names a classification when its text is the name of one. -/
theorem classifies_iff : data.Classifies classification ↔
    (data.member CaseField.journeyClassification).text?.bind Classification.ofName? =
      some classification := by
  unfold Fields.Classifies
  constructor
  · intro named
    rw [named]
    exact Classification.ofName?_name classification
  · intro known
    obtain ⟨name, isText, found⟩ := Option.bind_eq_some_iff.mp known
    rw [name_of_ofName? found]
    cases held : data.member CaseField.journeyClassification with
    | str text =>
      rw [held] at isText
      rw [Option.some.inj isText]
    | _ =>
      rw [held] at isText
      cases isText

instance : Decidable (data.Classifies classification) :=
  decidable_of_iff' _ classifies_iff

/-- No classification is named when the text is the name of none. -/
theorem unclassified_iff : (∀ classification, ¬ data.Classifies classification) ↔
    (data.member CaseField.journeyClassification).text?.bind Classification.ofName? = none := by
  simp only [classifies_iff, Option.eq_none_iff_forall_ne_some, ne_eq]

instance Demand.decidableBroken (case : Case) : DecidablePred (Demand.Broken case)
  | .identity => inferInstanceAs (Decidable (case.id = none))
  | .poBox => inferInstanceAs (Decidable (_ = true))
  | .classification => decidable_of_iff' _ unclassified_iff
  | .deliveryDate => inferInstanceAs (Decidable (case.data.momentAt _ = none))
  | .openingDate => inferInstanceAs (Decidable (case.data.momentAt _ = none))
  | .formData => decidable_of_iff (case.data.Classifies .supplementaryEvidence ∨
    (case.data.Classifies .newApplication ∨ case.data.Classifies .supplementaryEvidenceWithOcr) ∧
      (case.data.objectsAt CaseField.scanOcrData).isEmpty) (by
        simp only [Demand.Broken, List.isEmpty_iff])

/-- What is said of a record whose case breaks some demands: each of these, in its turn. -/
def report (case : Case) (eventId : String) : List String :=
  (Demand.all.filter (Demand.Broken case)).map (Demand.complaint case eventId)

/-- Nothing is said when no demand is broken. -/
theorem report_eq_nil :
    report case eventId = [] ↔ ∀ demand : Demand, ¬ demand.Broken case := by
  simp [report, List.filter_eq_nil_iff, Demand.mem_all]

/-- What is said of one demand. -/
def Demand.remark (case : Case) (eventId : String) (demand : Demand) : List String :=
  if demand.Broken case then [demand.complaint case eventId] else []

/-- A report is made of what is said of each demand. -/
theorem report_eq (case : Case) (eventId : String) :
    report case eventId = Demand.all.flatMap (Demand.remark case eventId) := by
  have each (demands : List Demand) :
      (demands.filter (Demand.Broken case)).map (Demand.complaint case eventId) =
        demands.flatMap (Demand.remark case eventId) := by
    induction demands with
    | nil => rfl
    | cons demand rest inductionHypothesis =>
      rw [List.flatMap_cons, ← inductionHypothesis, Demand.remark]
      by_cases broken : demand.Broken case
      · rw [List.filter_cons_of_pos (by simpa using broken), if_pos broken]
        rfl
      · rw [List.filter_cons_of_neg (by simpa using broken), if_neg broken]
        rfl
  exact each Demand.all

/-- A member that is needed is complained about when it says nothing. -/
theorem complaint_neededValue (data : Fields) (name : String) :
    complaint (neededValue data name) =
      if (data.member name).isVacant then ["Missing " ++ name] else [] := by
  unfold neededValue
  dsimp only
  split <;> rfl

/-- A value that says nothing holds no text that can be read as something. -/
theorem read_of_vacant {α : Type} {value : Json} {read : String → Option α}
    (silent : read "" = none) (vacant : value.isVacant = true) : value.text?.bind read = none := by
  cases value with
  | str text =>
    rw [String.isEmpty_iff.mp vacant]
    exact silent
  | _ => rfl

/-- A date is read when its member holds a moment, and is complained about otherwise. -/
theorem readDate_eq (data : Fields) (name : String) :
    readDate data name = match data.momentAt name with
      | some moment => .ok (some moment)
      | none => .error (Demand.memberComplaint data name ": ") := by
  unfold readDate neededValue Fields.momentAt Demand.memberComplaint
  generalize data.member name = value
  dsimp only
  cases vacant : value.isVacant with
  | true =>
    have unread : value.text?.bind Time.readIsoText = none := read_of_vacant rfl vacant
    simp only [unread, if_true, bind, Except.bind]
  | false =>
    cases value with
    | str text =>
      have filled : text.isEmpty = false := vacant
      simp only [Bool.false_eq_true, if_false, bind, Except.bind, OpenData.storedMoment, filled,
        Json.text?, Option.bind_some]
      cases Time.readIsoText text <;> rfl
    | null => cases vacant
    | _ => rfl

/-- A classification is read when one is named, and is complained about otherwise. -/
theorem readClassification_eq (data : Fields) :
    readClassification data =
      match (data.member CaseField.journeyClassification).text?.bind Classification.ofName? with
      | some classification => .ok classification
      | none => .error (Demand.memberComplaint data CaseField.journeyClassification
        ". Error: unknown classification ") := by
  unfold readClassification neededValue Demand.memberComplaint
  generalize data.member CaseField.journeyClassification = value
  dsimp only
  cases vacant : value.isVacant with
  | true =>
    have unread : value.text?.bind Classification.ofName? = none := read_of_vacant rfl vacant
    simp only [unread, if_true, bind, Except.bind]
  | false =>
    cases known : value.text?.bind Classification.ofName? with
    | none => simp only [Bool.false_eq_true, if_false, bind, Except.bind, known]
    | some classification => simp only [Bool.false_eq_true, if_false, bind, Except.bind, known]

/-- The objects of a collection are those at its member. -/
theorem objectsOf_member (data : Fields) (name : String) :
    objectsOf (data.member name) = data.objectsAt name := by
  unfold Fields.objectsAt
  cases data.member name <;> rfl

/-- Data names one classification at most. -/
theorem Fields.Classifies.unique {other : Classification} (named : data.Classifies classification) :
    data.Classifies other ↔ other = classification := by
  rw [classifies_iff, classifies_iff.mp named, Option.some.injEq, eq_comm]

/-- What is objected to a classification is what is said of the form data. -/
theorem objection_eq_remark (case : Case) (eventId : String) :
    (match readClassification case.data with
      | .ok classification =>
        (objection? classification
          (!(objectsOf (case.data.member CaseField.scanOcrData)).isEmpty) eventId).toList
      | .error _ => []) = Demand.formData.remark case eventId := by
  rw [readClassification_eq, objectsOf_member, Demand.remark]
  cases known : (case.data.member CaseField.journeyClassification).text?.bind
      Classification.ofName? with
  | none =>
    have unclassified := unclassified_iff.mpr known
    rw [if_neg]
    rintro (evidence | ⟨form | form, -⟩)
    · exact unclassified _ evidence
    · exact unclassified _ form
    · exact unclassified _ form
  | some classification =>
    have named : case.data.Classifies classification := classifies_iff.mpr known
    have shown : (case.data.member CaseField.journeyClassification).display = classification.name := by
      rw [named]
      rfl
    simp only [Demand.Broken, Demand.complaint, Fields.Classifies.unique named, shown]
    cases classification <;> cases case.data.objectsAt CaseField.scanOcrData <;> rfl

/-- A date is complained about as is said of it. -/
theorem complaint_readDate (data : Fields) (name : String) :
    complaint (readDate data name) =
      if data.momentAt name = none then [Demand.memberComplaint data name ": "] else [] := by
  rw [readDate_eq]
  cases data.momentAt name <;> rfl

/-- A classification is complained about as is said of it. -/
theorem complaint_readClassification (case : Case) (eventId : String) :
    complaint (readClassification case.data) = Demand.classification.remark case eventId := by
  rw [readClassification_eq, Demand.remark]
  cases known : (case.data.member CaseField.journeyClassification).text?.bind
      Classification.ofName? with
  | none =>
    have broken : Demand.classification.Broken case := unclassified_iff.mpr known
    rw [if_pos broken]
    rfl
  | some classification =>
    have met : ¬ Demand.classification.Broken case :=
      fun unclassified => unclassified classification (classifies_iff.mpr known)
    rw [if_neg met]
    rfl

/-- A record that is not accepted is reported on in full. -/
theorem complaints_of_rejected (rejected : validate case eventId = .error complaints) :
    complaints = report case eventId := by
  have said : complaints = (if (case.id.map toString).isNone then ["Missing exception record id"]
      else []) ++ complaint (neededValue case.data CaseField.poBox) ++
      complaint (readClassification case.data) ++
      complaint (readDate case.data CaseField.deliveryDate) ++
      complaint (readDate case.data CaseField.openingDate) ++
      Demand.formData.remark case eventId := by
    rw [← objection_eq_remark]
    unfold validate validateData at rejected
    dsimp only at rejected
    split at rejected
    case h_1 kind _ _ _ _ isKind _ _ =>
      rw [isKind] at rejected ⊢
      dsimp only at rejected ⊢
      split at rejected
      · cases rejected
      · exact (Except.error.inj rejected).symm
    case h_2 => exact (Except.error.inj rejected).symm
  have identity : (if (case.id.map toString).isNone then ["Missing exception record id"] else []) =
      Demand.identity.remark case eventId := by
    have absent : (case.id.map toString).isNone = true ↔ Demand.identity.Broken case := by
      simp [Demand.Broken]
    simp only [absent]
    rfl
  have poBox : complaint (neededValue case.data CaseField.poBox) =
      Demand.poBox.remark case eventId :=
    complaint_neededValue case.data CaseField.poBox
  have delivery : complaint (readDate case.data CaseField.deliveryDate) =
      Demand.deliveryDate.remark case eventId :=
    complaint_readDate case.data CaseField.deliveryDate
  have opening : complaint (readDate case.data CaseField.openingDate) =
      Demand.openingDate.remark case eventId :=
    complaint_readDate case.data CaseField.openingDate
  rw [said, report_eq, identity, poBox, complaint_readClassification case eventId, delivery, opening]
  simp only [Demand.all, List.flatMap_cons, List.flatMap_nil, List.append_assoc, List.append_nil]

/-- A record as it is made of the data of its case. -/
structure MadeOf (case : Case) (record : ExceptionRecord) : Prop where
  identity : case.id.map toString = some record.id
  caseType : record.caseType = case.caseType
  poBox : record.poBox = case.data.member CaseField.poBox
  poBoxJurisdiction : record.poBoxJurisdiction = case.data.member CaseField.poBoxJurisdiction
  classification : case.data.Classifies record.classification
  formType : record.formType = case.data.member CaseField.formType
  deliveryDate : ∃ moment, case.data.momentAt CaseField.deliveryDate = some moment ∧
    record.deliveryDate = some moment
  openingDate : ∃ moment, case.data.momentAt CaseField.openingDate = some moment ∧
    record.openingDate = some moment
  envelopeId : record.envelopeId = case.data.member CaseField.envelopeId
  isAutomated : record.isAutomated = OpenData.isYes (case.data.member CaseField.isAutomatedProcess)
  scannedDocuments : record.scannedDocuments = case.data.objectsAt CaseField.scannedDocuments
  ocrData : record.ocrData = case.data.objectsAt CaseField.scanOcrData
  containsPayments : record.containsPayments =
    OpenData.isYes (case.data.member CaseField.containsPayments)
  awaitsPayments : record.awaitsPayments =
    OpenData.isYes (case.data.member CaseField.awaitingPaymentProcessing)

/-- A date that is accepted is the moment that its member holds. -/
theorem momentAt_of_readDate {name : String} {read : Option Time.Moment}
    (isRead : readDate data name = .ok read) :
    ∃ moment, data.momentAt name = some moment ∧ read = some moment := by
  rw [readDate_eq] at isRead
  cases held : data.momentAt name with
  | none =>
    rw [held] at isRead
    cases isRead
  | some moment =>
    rw [held] at isRead
    exact ⟨moment, rfl, (Except.ok.inj isRead).symm⟩

/-- A classification that is accepted is the one that is named. -/
theorem classifies_of_readClassification
    (isRead : readClassification data = .ok classification) : data.Classifies classification := by
  rw [readClassification_eq] at isRead
  rw [classifies_iff]
  split at isRead
  case h_1 known => rw [known, Except.ok.inj isRead]
  case h_2 => cases isRead

/-- A record that is accepted is made of the data, and breaks no demand. -/
theorem madeOf_of_accepted (accepted : validate case eventId = .ok record) :
    MadeOf case record ∧ ∀ demand : Demand, ¬ demand.Broken case := by
  obtain ⟨identity, poBox, kind, delivery, opening, isId, isPoBox, isKind, isDelivery, isOpening,
    unobjected, rfl⟩ := validateData_eq_ok.mp accepted
  have named := classifies_of_readClassification isKind
  obtain ⟨delivered, holdsDelivery, rfl⟩ := momentAt_of_readDate isDelivery
  obtain ⟨opened, holdsOpening, rfl⟩ := momentAt_of_readDate isOpening
  have filled : (case.data.member CaseField.poBox).isVacant = false ∧
      poBox = case.data.member CaseField.poBox := by
    unfold neededValue at isPoBox
    dsimp only at isPoBox
    split at isPoBox
    case isTrue => cases isPoBox
    case isFalse vacant => exact ⟨by simpa using vacant, (Except.ok.inj isPoBox).symm⟩
  have silent : Demand.formData.remark case eventId = [] := by
    rw [← objection_eq_remark, isKind]
    simp only [unobjected, Option.toList_none]
  refine ⟨⟨isId, rfl, filled.2, rfl, named, rfl, ⟨delivered, holdsDelivery, rfl⟩,
    ⟨opened, holdsOpening, rfl⟩, rfl, rfl, objectsOf_member _ _, objectsOf_member _ _, rfl, rfl⟩, ?_⟩
  intro demand broken
  cases demand with
  | identity =>
    rw [show case.id = none from broken] at isId
    cases isId
  | poBox => cases broken.symm.trans filled.1
  | classification => exact broken kind named
  | deliveryDate => cases holdsDelivery.symm.trans broken
  | openingDate => cases holdsOpening.symm.trans broken
  | formData =>
    rw [Demand.remark, if_pos broken] at silent
    cases silent

/-- A date that cannot be read has content that is none, which is what a complaint tells. -/
theorem storedMoment_fault {value : Json} {fault : Fault}
    (failed : OpenData.storedMoment value = .error fault) : fault = .badContent := by
  unfold OpenData.storedMoment at failed
  split at failed
  · cases failed
  · split at failed
    · cases failed
    · split at failed
      · cases failed
      · exact (Except.error.inj failed).symm
  · exact (Except.error.inj failed).symm

/-- The check of a record reports every problem and only problems. Whatever the data of its case
are, it ends with a record or with complaints: with complaints exactly when a demand is broken, and
they are those of the broken demands, one for each, in the order of the demands; with a record
exactly when none is broken, and the record is made of the data. Reading a date fails for its
content alone, which is complained about.

Proof: each part of the check is compared with the demand that it stands for. -/
theorem check_reports_exactly (case : Case) (eventId : String) :
    (∀ complaints, validate case eventId = .error complaints ↔
      (∃ demand : Demand, demand.Broken case) ∧
        complaints = (Demand.all.filter (Demand.Broken case)).map (Demand.complaint case eventId)) ∧
    ((∃ record, validate case eventId = .ok record) ↔ ∀ demand : Demand, ¬ demand.Broken case) ∧
    (∀ record, validate case eventId = .ok record → MadeOf case record) ∧
    ∀ name fault, OpenData.storedMoment (case.data.member name) = .error fault →
      fault = .badContent := by
  have rejected {complaints : List String} (said : validate case eventId = .error complaints) :
      (∃ demand : Demand, demand.Broken case) ∧ complaints = report case eventId := by
    have same := complaints_of_rejected said
    refine ⟨by_contra fun met => ?_, same⟩
    rw [report_eq_nil.mpr (not_exists.mp met)] at same
    exact Office.complaints_of_validate said same
  refine ⟨fun complaints => ⟨rejected, fun ⟨⟨demand, broken⟩, same⟩ => ?_⟩, ⟨?_, fun met => ?_⟩,
    fun record accepted => (madeOf_of_accepted accepted).1, fun _ _ => storedMoment_fault⟩
  · cases checked : validate case eventId with
    | ok record => exact absurd broken ((madeOf_of_accepted checked).2 demand)
    | error others => rw [(rejected checked).2, same, report]
  · rintro ⟨record, accepted⟩
    exact (madeOf_of_accepted accepted).2
  · cases checked : validate case eventId with
    | ok record => exact ⟨record, rfl⟩
    | error others =>
      obtain ⟨⟨demand, broken⟩, -⟩ := rejected checked
      exact absurd broken (met demand)

example : validate {} EventName.createNewCase = .error [
    "Missing exception record id", "Missing poBox", "Missing journeyClassification",
    "Missing deliveryDate", "Missing openingDate"] := rfl

end ExceptionRecord
end Mailroom
