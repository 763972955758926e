import Mathlib
import Mailroom.Proofs.AttachedDocuments
import Mailroom.Proofs.CallOrder
import Mailroom.Proofs.OfficeWithPayments
import Mailroom.Proofs.Redelivery

/-!
# Documents that evidence leaves on a case

The collection that is submitted with evidence takes the place of the one on the case, so
whatever is to stay there must be submitted again. What stays is what the start of the event has
shown: its elements come first, in their order and as they are, and the new documents after them.

A start need not show the case. What it does not show counts as a case without documents, and the
new documents are submitted all the same.
-/

namespace Mailroom

open Mailroom.Flow

/-- The data of a case are those of its report, if that has any. -/
theorem Case.data_of_report {details : Fields} {case : Case}
    (isRead : Case.ofReport (.obj details) = .ok case) :
    let value := firstFilled (details.member "case_data") (details.member "data")
    value.isVacant = true ∧ case.data = [] ∨
      value.isVacant = false ∧ OpenData.asObject value = .ok case.data := by
  intro value
  obtain ⟨members, isObject, rest⟩ := bind_eq_ok.mp isRead
  obtain rfl : details = members := Except.ok.inj isObject
  -- The identity is read first, in one of two ways.
  have built : ∃ id, (do
      let data ← if value.isVacant then pure [] else OpenData.asObject value
      return {
        id
        jurisdiction := details.member "jurisdiction"
        caseType := firstFilled (details.member "case_type_id") (details.member "case_type")
        state := details.member "state"
        data }) = Except.ok case := by
    dsimp only at rest
    split at rest
    · exact ⟨none, rest⟩
    · obtain ⟨id, -, rest⟩ := bind_eq_ok.mp rest
      exact ⟨id, rest⟩
  obtain ⟨id, built⟩ := built
  dsimp only at built
  cases vacant : value.isVacant with
  | true =>
    rw [if_pos vacant] at built
    obtain rfl : _ = case := Except.ok.inj built
    exact .inl ⟨rfl, rfl⟩
  | false =>
    rw [if_neg (by simp [vacant])] at built
    obtain ⟨data, itsData, built⟩ := bind_eq_ok.mp built
    obtain rfl : _ = case := Except.ok.inj built
    exact .inr ⟨rfl, itsData⟩

/-- What says nothing stands for no object but an empty one. -/
theorem OpenData.asObject_of_vacant {value : Json} {data : Fields} (vacant : value.isVacant = true)
    (isRead : asObject value = .ok data) : data = [] := by
  cases value with
  | arr elements =>
    obtain rfl := List.isEmpty_iff.mp vacant
    exact (Except.ok.inj isRead).symm
  | obj members =>
    obtain rfl := List.isEmpty_iff.mp vacant
    exact (Except.ok.inj isRead).symm
  | str text =>
    have empty : text.isEmpty = true := vacant
    simp only [asObject, empty, if_true] at isRead
    exact (Except.ok.inj isRead).symm
  | _ => cases isRead

namespace StartedEvent

/-- What the report of a started event gives as the data of its case, if it comes with details. -/
def DataOf (report value : Json) : Prop :=
  ∃ members details : Fields, report = .obj members ∧
    members.member "case_details" = .obj details ∧
    value = Case.firstFilled (details.member "case_data") (details.member "data")

/-- The report of a started event that shows which documents are on the case: its data hold them
as a collection, or say nothing in its place. -/
def Shows (report : Json) (shown : List Json) : Prop :=
  ∃ value data, DataOf report value ∧ OpenData.asObject value = .ok data ∧
    (data.member CaseField.scannedDocuments = .arr shown ∨
      (data.member CaseField.scannedDocuments).isVacant ∧ shown = [])

/-- The report of a started event that shows no case, or none of its data. -/
def Silent (report : Json) : Prop :=
  (∃ members : Fields, report = .obj members ∧ (members.member "case_details").isVacant) ∨
    ∃ value, DataOf report value ∧ value.isVacant

variable {report : Json} {started : StartedEvent}

/-- The case of a started event is the one that its report comes with. -/
theorem case_of_report (isRead : ofReport report = .ok started) :
    ∃ members : Fields, report = .obj members ∧
      ((members.member "case_details").isVacant = true ∧ started.case = none ∨
        (members.member "case_details").isVacant = false ∧ ∃ case,
          Case.ofReport (members.member "case_details") = .ok case ∧ started.case = some case) := by
  obtain ⟨members, isObject, rest⟩ := bind_eq_ok.mp isRead
  obtain ⟨token, -, rest⟩ := bind_eq_ok.mp rest
  obtain ⟨eventId, -, rest⟩ := bind_eq_ok.mp rest
  have same : report = .obj members := by
    cases report with
    | obj _ => exact congrArg Json.obj (Except.ok.inj isObject)
    | _ => cases isObject
  refine ⟨members, same, ?_⟩
  dsimp only at rest
  cases vacant : (members.member "case_details").isVacant with
  | true =>
    rw [if_pos vacant] at rest
    obtain rfl : _ = started := Except.ok.inj rest
    exact .inl ⟨rfl, rfl⟩
  | false =>
    rw [if_neg (by simp [vacant])] at rest
    obtain ⟨case, itsCase, built⟩ := bind_eq_ok.mp rest
    obtain rfl : _ = started := Except.ok.inj built
    obtain ⟨details, itsReport, same⟩ := bind_eq_ok.mp itsCase
    exact .inr ⟨rfl, details, itsReport, (Except.ok.inj same).symm⟩

/-- The documents of a started event are those that its report shows. -/
theorem collection_of_shown (isRead : ofReport report = .ok started) {shown : List Json}
    (shows : Shows report shown) :
    Document.collectionOf (started.case.map (·.data)) = .ok shown := by
  obtain ⟨value, data, ⟨members, details, rfl, itsDetails, itsValue⟩, itsData, collected⟩ := shows
  obtain ⟨others, same, read⟩ := case_of_report isRead
  obtain rfl : members = others := Json.obj.inj same
  rw [itsDetails] at read
  have ofData (fields : Fields) (same : fields = data) :
      Document.collectionOf (some fields) = .ok shown := by
    subst same
    unfold Document.collectionOf OpenData.walkFilled
    dsimp only
    rcases collected with held | ⟨none, rfl⟩
    · rw [held]
      cases shown <;> rfl
    · exact if_pos none
  rcases read with ⟨vacant, -⟩ | ⟨-, case, itsCase, isCase⟩
  · -- An empty object has no data, not even empty ones.
    obtain rfl := List.isEmpty_iff.mp vacant
    subst itsValue
    cases itsData
  · rw [isCase]
    apply ofData case.data
    rcases Case.data_of_report itsCase with ⟨vacant, empty⟩ | ⟨filled, isData⟩
    · rw [← itsValue] at vacant
      rw [empty, OpenData.asObject_of_vacant vacant itsData]
    · rw [← itsValue, itsData] at isData
      exact (Except.ok.inj isData).symm

/-- A started event of a silent report counts as one on a case without documents. -/
theorem collection_of_silent (isRead : ofReport report = .ok started) (silent : Silent report) :
    Document.collectionOf (started.case.map (·.data)) = .ok [] := by
  obtain ⟨members, rfl, read⟩ := case_of_report isRead
  rcases read with ⟨-, none⟩ | ⟨filled, case, itsCase, isCase⟩
  · rw [none]
    rfl
  · rcases silent with ⟨others, same, vacant⟩ | ⟨value, ⟨others, details, same, itsDetails, rfl⟩, vacant⟩
    · obtain rfl := Json.obj.inj same
      simp [filled] at vacant
    · obtain rfl := Json.obj.inj same
      rw [itsDetails] at itsCase
      rcases Case.data_of_report itsCase with ⟨-, empty⟩ | ⟨filled, -⟩
      · rw [isCase, Option.map_some, empty]
        rfl
      · simp [filled] at vacant

end StartedEvent

/-- Whether something is submitted by a call. -/
def Dealing.isSubmission : Dealing → Bool
  | .submit .. => true
  | _ => false

/-- A transcript in which nothing is submitted. -/
def Unsubmitted (said : List Dealing) : Prop :=
  ∀ call ∈ said, call.isSubmission = false

/-- A transcript in which nothing is submitted to a case but, at the end, what was drafted from
the start of the event right before. -/
def DraftedLast (reference : String) (draft : Office.Draft) (said : List Dealing) : Prop :=
  ∀ earlier caller target submission answer later,
    said = earlier ++ .submit caller target submission answer :: later →
    later = [] ∧ target.caseRef = some reference ∧ ∃ before event started,
      earlier = before ++ [.start caller target event (.ok started)] ∧
      draft started = .ok submission

section

variable {kind : Failure → Prop} {target : CaseStore.Target} {event reference : String}
  {draft : Office.Draft} {outcome : Except Failure Case} {said : List Dealing}

/-- Nothing is submitted by one more call that submits nothing. -/
theorem Unsubmitted.append (unsubmitted : Unsubmitted said) {call : Dealing}
    (isNone : call.isSubmission = false) : Unsubmitted (said ++ [call]) :=
  List.forall_mem_append.mpr ⟨unsubmitted, List.forall_mem_singleton.mpr isNone⟩

/-- Nothing is submitted by asides. -/
theorem Besides.unsubmitted (besides : Besides Unsubmitted said) : Unsubmitted said := by
  obtain ⟨earlier, asides, rfl, unsubmitted, areAsides⟩ := besides
  refine List.forall_mem_append.mpr ⟨unsubmitted, fun call isOne => ?_⟩
  have isAside := areAsides call isOne
  cases call <;> first | rfl | cases isAside

/-- Where nothing is submitted, nothing else is either. -/
theorem Unsubmitted.draftedLast (unsubmitted : Unsubmitted said) :
    DraftedLast reference draft said := by
  rintro earlier caller target submission answer later rfl
  have none := unsubmitted (.submit caller target submission answer) (by simp)
  cases none

/-- A write submits nothing but what it has drafted. -/
theorem WriteEnds.draftedLast (ends : WriteEnds Unsubmitted kind target event draft outcome said)
    (targeted : target.caseRef = some reference) : DraftedLast reference draft said := by
  cases ends with
  | unleased _ before => exact before.unsubmitted.draftedLast
  | unstarted before => exact (before.unsubmitted.append rfl).draftedLast
  | undrafted before drafted => exact (before.unsubmitted.append rfl).draftedLast
  | @submitted starter started submission _ begun before drafted =>
    let start : Dealing := .start starter target event (.ok started)
    have unsubmitted : Unsubmitted (begun ++ [start]) := before.unsubmitted.append rfl
    intro earlier caller other others answer later same
    rcases List.eq_nil_or_concat later with rfl | ⟨rest, last, rfl⟩
    · obtain ⟨rfl, last⟩ := List.append_inj' same rfl
      cases last
      exact ⟨rfl, targeted, begun, event, _, rfl, drafted⟩
    · -- The submission is the last call, so none stands before another.
      rw [List.concat_eq_append, ← List.cons_append, ← List.append_assoc] at same
      obtain ⟨whole, -⟩ := List.append_inj' same rfl
      rw [whole] at unsubmitted
      have none := unsubmitted (.submit caller other others answer) (by simp)
      cases none

end

namespace Office

variable {σ : Type} {office : Office σ} {envelope : Envelope}

/-- Attaching documents to a case submits nothing but what it has drafted from the start. -/
theorem attachTo_submits (office : Office σ) (envelope : Envelope) (case : Case) :
    let drafted := DraftedLast (Case.idText case.id) (office.evidenceDraft envelope)
    (office.transcribed.attachTo envelope case).Tells Unsubmitted (fun _ => drafted)
      (fun _ => drafted) := by
  intro drafted
  have vouching := office.peers.vouching_anyhow
  have written (credential : Credential) :
      (office.transcribed.writeAs credential envelope.jurisdiction case.caseType
        (some (Case.idText case.id)) EventName.attachScannedDocs (office.evidenceDraft envelope)
        (envelope.fileContext ++ " Case ref: " ++ Case.idText case.id)).Tells
        (Besides Unsubmitted) (fun _ => drafted) (fun _ => drafted) :=
    (writeAs_ends vouching _ _ _ _ _ _ _).to_end
      (fun _ _ ends => ends.draftedLast rfl) fun _ _ ends => ends.draftedLast rfl
  have credentials : (office.transcribed.credential (some envelope.jurisdiction)).Tells Unsubmitted
      (fun _ => Besides Unsubmitted) (fun _ => drafted) :=
    (credential_besides vouching _).weaken (fun _ => Besides.here) (fun _ _ => id)
      fun _ _ refused => refused.2.unsubmitted.draftedLast
  refine Assures.bind credentials fun credential => ?_
  refine Assures.attempting _ _ (written credential) fun outcome => ?_
  split
  · exact Assures.pure _ fun _ => id
  · split
    · exact Assures.fail _ fun _ => id
    · exact Assures.fail _ fun _ => id
  · exact Assures.fail _ fun _ => id

/-- So does attaching evidence. -/
theorem attachEvidence_submits (office : Office σ) (envelope : Envelope) (case : Case) :
    let drafted := DraftedLast (Case.idText case.id) (office.evidenceDraft envelope)
    (office.transcribed.attachEvidence envelope case).Tells Unsubmitted (fun _ => drafted)
      (fun _ => drafted) := by
  intro drafted
  refine Assures.through (fun _ (state : σ × List Dealing) => Unsubmitted state.2)
    (Assures.reading _ fun state unsubmitted => ?_) fun existing => ?_
  · split
    · exact unsubmitted
    · exact unsubmitted.draftedLast
  split
  · exact Assures.after_log (Assures.pure _ fun _ => Unsubmitted.draftedLast)
  · refine Assures.after_log (Assures.attempting _ _ (attachTo_submits office envelope case)
      fun outcome => ?_)
    split
    · exact Assures.after_log (Assures.pure _ fun _ => id)
    · split
      · exact Assures.after_log (Assures.pure _ fun _ => id)
      · exact Assures.fail _ fun _ => id

/-- The collection that is drafted for evidence: what the started event came with, and after it
the new documents. -/
theorem collection_of_draft {started : StartedEvent} {submission : Submission}
    (drafted : office.evidenceDraft envelope started = .ok submission) :
    ∃ held present added, Document.collectionOf (started.case.map (·.data)) = .ok held ∧
      held.mapM Document.ofElement = .ok present ∧
      Document.toElements office.documents envelope.deliveryDate
        (Document.notAmong present envelope.documents) = .ok added ∧
      submission.data.get? CaseField.scannedDocuments = some (.arr (held ++ added)) := by
  unfold evidenceDraft at drafted
  split at drafted
  case h_2 => cases drafted
  case h_1 data built =>
    obtain rfl := Except.ok.inj drafted
    obtain ⟨documents, updated, rest⟩ := bind_eq_ok.mp built
    obtain ⟨present, isRead, updated⟩ := bind_eq_ok.mp updated
    obtain ⟨added, written, updated⟩ := bind_eq_ok.mp updated
    obtain ⟨held, collected, appended⟩ := bind_eq_ok.mp updated
    obtain rfl : held ++ added = documents := Except.ok.inj appended
    unfold Document.onCase at isRead
    rw [collected] at isRead
    refine ⟨held, present, added, collected, isRead, written, ?_⟩
    split at rest
    · obtain ⟨references, -, same⟩ := bind_eq_ok.mp rest
      obtain rfl : _ ++ _ = data := Except.ok.inj same
      rfl
    · obtain rfl : _ = data := Except.ok.inj rest
      rfl

/-- Evidence drops no document that it is shown. Nothing is submitted with evidence but, in the
last call, what was drafted from the start of the event on the same case right before. Its
collection begins with the documents that the start came with, in their order and as they are, and
goes on with those of the envelope that have no duplicate there. If the start has shown what is on
the case, that is what the collection begins with. If it was silent about it, the collection begins
with nothing; and if the documents that it came with cannot be read, nothing is submitted.

Proof: each way that a write may end tells its last calls, and only the last of all is a
submission. The draft that it submits is taken apart into its parts, and the report of the start
into the values that it is read from. -/
theorem evidence_keeps_shown_documents (office : Office σ) (envelope : Envelope) (case : Case)
    (run : Run σ) :
    let start := run.withPeers (run.peers, [])
    let said := ((office.transcribed.attachEvidence envelope case).run start).2.peers.2
    ∀ earlier caller target submission answer later,
      said = earlier ++ .submit caller target submission answer :: later →
      later = [] ∧ target.caseRef = some (Case.idText case.id) ∧
      ∃ before event started held present added,
        earlier = before ++ [.start caller target event (.ok started)] ∧
        held.mapM Document.ofElement = .ok present ∧
        Document.toElements office.documents envelope.deliveryDate
          (Document.notAmong present envelope.documents) = .ok added ∧
        submission.data.get? CaseField.scannedDocuments = some (.arr (held ++ added)) ∧
        ∀ report, StartedEvent.ofReport report = .ok started →
          (∀ shown, StartedEvent.Shows report shown → held = shown) ∧
          (StartedEvent.Silent report → held = []) := by
  intro start said earlier caller target submission answer later isSaid
  have told := attachEvidence_submits office envelope case start
    (List.forall_mem_nil _ : Unsubmitted [])
  have last : DraftedLast (Case.idText case.id) (office.evidenceDraft envelope) said := by
    change Ending _ _ ((office.transcribed.attachEvidence envelope case).run start).1 _ at told
    revert told
    cases ((office.transcribed.attachEvidence envelope case).run start).1 <;> exact id
  obtain ⟨isLast, targeted, before, event, started, startedBefore, drafted⟩ :=
    last earlier caller target submission answer later isSaid
  obtain ⟨held, present, added, collected, isRead, written, submitted⟩ := collection_of_draft drafted
  refine ⟨isLast, targeted, before, event, started, held, present, added, startedBefore, isRead,
    written, submitted, fun report reported => ⟨fun shown shows => ?_, fun silent => ?_⟩⟩
  · have same := StartedEvent.collection_of_shown reported shows
    rw [collected] at same
    exact Except.ok.inj same
  · have same := StartedEvent.collection_of_silent reported silent
    rw [collected] at same
    exact Except.ok.inj same

open Simulation

/-- A document as it is stored on a case. -/
def storedDocument : Json :=
  OpenData.element [("controlNumber", .str "stored")]

/-- The case of the sample with this document. -/
def documentedCase : Case where
  id := some 1
  caseType := .str "Bulk_Scanned"
  data := [(CaseField.scannedDocuments, .arr [storedDocument])]

/-- A report of a start on this case that comes with the case, or is silent about it. -/
def documentedReport (snapshots : Bool) : Json :=
  .obj ([("token", .str "event-token-1"), ("event_id", .str EventName.attachScannedDocs)] ++
    if snapshots then [("case_details", documentedCase.toJson)] else [])

/-- What is read from such a report. -/
def documentedStart (snapshots : Bool) : StartedEvent where
  token := .str "event-token-1"
  eventId := .str EventName.attachScannedDocs
  case := if snapshots then some documentedCase else none

/-- All that is said when the evidence of the sample is attached to this case, where starts come
with the case or do not. -/
def documentedTalk (snapshots : Bool) : List Dealing :=
  let state : PaymentsBook := { book := { cases := [(1, documentedCase)], snapshots } }
  let run : Run PaymentsBook := { peers := state }
  let office := (PaymentsBook.office (.ok sampleAnswer)).transcribed
  ((office.attachEvidence sampleEvidence documentedCase).run
    (run.withPeers (run.peers, []))).2.peers.2

/-- The event that a call has started, if it has. -/
def startedBy? : Dealing → Option StartedEvent
  | .start _ _ _ (.ok started) => some started
  | _ => none

/-- The collection that a call submits, if it does. -/
def submittedBy? : Dealing → Option (List Json)
  | .submit _ _ submission _ => (submission.data.member CaseField.scannedDocuments).elements?
  | _ => none

/-- The reports are read as the starts. -/
theorem documentedReport_read (snapshots : Bool) :
    StartedEvent.ofReport (documentedReport snapshots) = .ok (documentedStart snapshots) := by
  cases snapshots <;> rfl

/-- The start that is answered is the one that the report is read as. -/
theorem documentedTalk_starts (snapshots : Bool) :
    (documentedTalk snapshots).filterMap startedBy? = [documentedStart snapshots] := by
  cases snapshots <;> cbv

/-- The document that is stored is submitted again where the start comes with the case. -/
theorem stored_document_is_submitted_again :
    ∃ earlier caller target submission answer added,
      documentedTalk true = earlier ++ [.submit caller target submission answer] ∧
      submission.data.get? CaseField.scannedDocuments = some (.arr (storedDocument :: added)) := by
  have submits : (documentedTalk true).any Dealing.isSubmission = true := by decide +kernel
  obtain ⟨call, isSaid, isSubmission⟩ := List.any_eq_true.mp submits
  obtain ⟨earlier, later, whole⟩ := List.append_of_mem isSaid
  cases call with
  | submit caller target submission answer =>
    obtain ⟨rfl, -, before, event, started, held, present, added, rfl, -, -, submitted, reports⟩ :=
      evidence_keeps_shown_documents (PaymentsBook.office (.ok sampleAnswer)) sampleEvidence
        documentedCase
        { peers := { book := { cases := [(1, documentedCase)], snapshots := true } } }
        earlier caller target submission answer later whole
    have starts := documentedTalk_starts true
    rw [whole] at starts
    simp only [List.filterMap_append, List.filterMap_cons, startedBy?, List.filterMap_nil,
      List.append_nil] at starts
    obtain ⟨-, same⟩ := List.append_inj' (starts.trans (List.nil_append _).symm) rfl
    obtain rfl := List.singleton_inj.mp same
    have shows : StartedEvent.Shows (documentedReport true) [storedDocument] :=
      ⟨_, _, ⟨_, _, rfl, rfl, rfl⟩, rfl, .inl rfl⟩
    obtain rfl := (reports _ (documentedReport_read true)).1 _ shows
    exact ⟨_, caller, target, submission, answer, added, whole, submitted⟩
  | _ => cases isSubmission

/-- The document that is stored is dropped where the start is silent about the case: the
collection that is submitted has the new document alone. -/
theorem stored_document_is_dropped_after_silence :
    documentedCase.data.get? CaseField.scannedDocuments = some (.arr [storedDocument]) ∧
      StartedEvent.Silent (documentedReport false) ∧
      (∃ started, StartedEvent.ofReport (documentedReport false) = .ok started ∧
        (documentedTalk false).filterMap startedBy? = [started]) ∧
      ∃ elements, (documentedTalk false).filterMap submittedBy? = [elements] ∧
        storedDocument ∉ elements := by
  let number (element : Json) := ((OpenData.elementValue element).member "controlNumber").text?
  have numbers : ((documentedTalk false).filterMap submittedBy?).map (·.map number) =
      [[some "number"]] := by
    decide +kernel
  obtain ⟨elements, submitted, new⟩ := List.map_eq_singleton_iff.mp numbers
  refine ⟨rfl, .inl ⟨_, rfl, rfl⟩, ⟨_, documentedReport_read false, documentedTalk_starts false⟩,
    elements, submitted, fun kept => ?_⟩
  have isNew : number storedDocument ∈ elements.map number := List.mem_map_of_mem kept
  rw [new] at isNew
  revert isNew
  decide

end Office
end Mailroom
