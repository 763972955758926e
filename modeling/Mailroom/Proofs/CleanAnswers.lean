import Mailroom.Http.Transformation
import Mailroom.Proofs.OfficeWithPayments

/-!
# Clean answers of a callback

An answer that shows neither errors nor warnings means that the record is linked:
its case is stored, it is the only case of the service that a search by the record
finds, and the data of the record were changed in three members only. There is one
other way to such an answer. A transformation service may reject a record without
a word, and the callback then ends with nothing to store and nothing to show.
-/

namespace Mailroom

/-- Data of a record that was linked to a case: three members are set, all others
are as they were. -/
structure Finalizes (data : Fields) (reference : String) (answered : Fields) : Prop where
  linked : answered.get? CaseField.caseReference = some (.str reference)
  silent : answered.get? CaseField.displayWarnings = some (.str no)
  cleared : answered.get? CaseField.ocrDataValidationWarnings = some (.arr [])
  others : ∀ name, name ≠ CaseField.caseReference → name ≠ CaseField.displayWarnings →
    name ≠ CaseField.ocrDataValidationWarnings → answered.get? name = data.get? name

/-- Finalizing a record links it to a case. -/
theorem finalizes_finalized (data : Fields) (reference : String) :
    Finalizes data reference (ExceptionRecord.finalized data reference) where
  linked := by
    unfold ExceptionRecord.finalized
    rw [Fields.get?_set_of_ne _ _ (by decide), Fields.get?_set_of_ne _ _ (by decide),
      Fields.get?_set_self]
  silent := by
    unfold ExceptionRecord.finalized
    rw [Fields.get?_set_of_ne _ _ (by decide), Fields.get?_set_self]
  cleared := Fields.get?_set_self _ _ _
  others name notReference notWarnings notObjections := by
    unfold ExceptionRecord.finalized
    rw [Fields.get?_set_of_ne _ _ notObjections, Fields.get?_set_of_ne _ _ notWarnings,
      Fields.get?_set_of_ne _ _ notReference]

namespace Office

open Simulation

variable {σ : Type} {office : Office σ} {view : StoreView σ} {keys : String → Prop}
variable {record : ExceptionRecord} {service : Service} {case : Case} {stored : List Case}

/-- A stored case is the one that was created from a record: it names the record,
and no other case of the service is found by it. -/
structure IsCaseOf (record : ExceptionRecord) (service : Service) (stored : List Case)
    (linked : Case) : Prop where
  isStored : linked ∈ stored
  marked : linked.holds caseRecordPath record.id = true
  alone : (hits stored service.caseTypes caseRecordPath record.id).Sublist [linked]

/-- The one hit of a search by a record is its case. -/
theorem isCaseOf_of_hit {linked : Case}
    (single : hits stored service.caseTypes caseRecordPath record.id = [linked]) :
    IsCaseOf record service stored linked := by
  have isHit : linked ∈ hits stored service.caseTypes caseRecordPath record.id :=
    single ▸ List.mem_singleton_self _
  obtain ⟨isStored, isMatch⟩ := List.mem_filter.mp isHit
  exact ⟨isStored, (Bool.and_eq_true_iff.mp isMatch).2, single ▸ List.Sublist.refl _⟩

/-- A case that was added for a record is the case of the record where a search has
found none. -/
theorem isCaseOf_of_adds {id : Option Int} {after : List Case}
    (unfound : hits stored service.caseTypes caseRecordPath record.id = [])
    (adds : office.Adds record service stored id after) :
    ∃ linked : Case, linked.id = id ∧ IsCaseOf record service after linked := by
  obtain ⟨linked, named, -, marked, -, rfl⟩ := adds.grown
  refine ⟨linked, named, by simp, marked, ?_⟩
  unfold hits at unfound ⊢
  rw [List.filter_append, unfound, List.nil_append]
  exact List.filter_sublist

/-- How an answer without errors and warnings comes about. -/
inductive CleanlyAnswered (office : Office σ) (record : ExceptionRecord) (service : Service)
    (case : Case) (before after : List Case) (result : Callback.Result) : Prop
  /-- The record is linked to its case. -/
  | linked (linked : Case) (itsCase : IsCaseOf record service after linked)
      (finalizes : Finalizes case.data (Case.idText linked.id) result.data)
  /-- The transformation service has rejected the record without a word. -/
  | unexplained (rejects : office.Rejects record service ⟨[], []⟩) (empty : result = {})
      (unchanged : after = before)

/-- A callback that was let in and answers with neither errors nor warnings has
linked its record, or the record was rejected without a word. -/
theorem cleanlyAnswered_of_concludes {result : Callback.Result} {after : σ}
    (whole : ∀ caseType ∈ service.caseTypes, ',' ∉ caseType.toList)
    (concludes : (office.faithfulCourse view record service stored).Concludes office record service
      case result after)
    (faultless : result.errors = []) (unwarned : result.warnings = []) :
    office.CleanlyAnswered record service case stored (view.cases after) result := by
  cases concludes with
  | existing found untouched =>
    obtain ⟨linked, single, rfl⟩ := List.map_eq_singleton_iff.mp (found.single whole)
    rw [untouched.2]
    exact .linked linked (isCaseOf_of_hit single) (finalizes_finalized _ _)
  | objected found objects untouched =>
    obtain rfl := faultless
    obtain rfl := unwarned
    exact .unexplained (objects.resolve_left fun shown => shown.1 rfl) rfl untouched.2
  | nameless found created =>
    obtain ⟨new, unnamed, isNew, -⟩ := created.2.grown
    have named := isNew.named
    rw [unnamed] at named
    cases named
  | linked found moved =>
    obtain ⟨linked, named, itsCase⟩ := isCaseOf_of_adds (found.nothing whole) moved.2
    exact .linked linked itsCase (named ▸ finalizes_finalized _ _)
  | unpaid => cases faultless

/-- A callback that answers with neither errors nor warnings has linked its record
to the one case of it, unless the transformation service has rejected the record
without a word.

Proof: of all ends of the course of the callback, those that show something are
excluded. A case that was found is the only hit of the search; one that was created
is the case of the record because the search had no hit. -/
theorem clean_answer_is_linked (faithful : Faithful office.peers view keys)
    (byName : ByName office.services) (searchable : office.services.Searchable)
    (searched : ∀ id : Int, keys (toString id)) (request : Callback.Request)
    (userToken userId : Option String) (run : Run σ) (sound : view.sound run.peers)
    {result : Callback.Result}
    (answered : ((office.process request userToken userId).run run).1 = .ok result)
    (faultless : result.errors = []) (unwarned : result.warnings = []) :
    ∃ record service token user,
      Admitted office.services request userToken userId record service token user ∧
      office.CleanlyAnswered record service (request.record.getD {}) (view.cases run.peers)
        (view.cases ((office.process request userToken userId).run run).2.peers) result := by
  rcases process_course office byName request userToken userId with
    idle | ⟨record, service, token, user, admitted, course⟩
  · obtain ⟨outcome, halted, ends⟩ := idle.ends office.peers
    have ended : (office.process request userToken userId).run run = (outcome, run) := ends run
    rw [ended] at answered
    obtain rfl : outcome = .ok result := answered
    exact absurd halted.2.2 (by simp [faultless, unwarned])
  obtain ⟨name, -, known⟩ := admitted.known
  obtain ⟨id, -, text, -⟩ := validate_id admitted.validated
  have ended := course _ (faithfulCourse_lawful faithful (searchable _ _ known)
    (text ▸ searched id)) run ⟨sound, rfl⟩
  rw [answered] at ended
  exact ⟨record, service, token, user, admitted,
    cleanlyAnswered_of_concludes (searchable _ _ known).whole_types ended faultless unwarned⟩

/-- The record of a form with payments is linked to the case that is created from it. -/
theorem paid_form_is_linked :
    ∃ result record service token user, (paidCallback {}).1 = .ok result ∧
      Admitted (PaymentsBook.office (.ok sampleAnswer)).services paidRequest (some "token")
        (some "user") record service token user ∧
      (PaymentsBook.office (.ok sampleAnswer)).CleanlyAnswered record service paidRecord []
        (PaymentsBook.view.cases (paidCallback {}).2.peers) result := by
  have shown : (paidCallback {}).1.toOption.any
      (fun result => result.errors.isEmpty && result.warnings.isEmpty) = true := by
    decide +kernel
  obtain ⟨result, answered, clean⟩ := ok_of_any shown
  simp only [Bool.and_eq_true, List.isEmpty_iff] at clean
  obtain ⟨record, service, token, user, ends⟩ := clean_answer_is_linked
    (PaymentsBook.peers_work (.ok sampleAnswer)).faithful (PaymentsBook.office_byName _)
    (PaymentsBook.office_searchable _) isWhole_toString paidRequest (some "token") (some "user")
    { peers := {} } CaseBook.sound_empty answered clean.1 clean.2
  exact ⟨result, record, service, token, user, answered, ends⟩

/-- A mail room whose transformation service rejects everything, with an empty object
for a reason. -/
def wordlessOffice : Office PaymentsBook :=
  let rejecting : Http.Transport PaymentsBook := fun _ state =>
    (.ok ⟨422, "{}".toUTF8.toList⟩, state)
  { PaymentsBook.office (.ok sampleAnswer) with
    peers := { PaymentsBook.peers (.ok sampleAnswer) with transform := Http.transform rejecting } }

/-- What comes of the request of a caseworker there. -/
def wordlessCallback : Except Failure Callback.Result × Run PaymentsBook :=
  (wordlessOffice.process paidRequest (some "token") (some "user")).run { peers := {} }

/-- The rejection is answered cleanly: nothing is shown, there are no data to store,
and no case exists. -/
theorem wordless_rejection_is_answered_cleanly :
    ∃ result, wordlessCallback.1 = .ok result ∧ result.errors = [] ∧ result.warnings = [] ∧
      result.data = [] ∧ PaymentsBook.view.cases wordlessCallback.2.peers = [] := by
  have shown : wordlessCallback.1.toOption.any (fun result =>
      result.errors.isEmpty && result.warnings.isEmpty && result.data.isEmpty) = true := by
    decide +kernel
  have uncreated : (PaymentsBook.view.cases wordlessCallback.2.peers).length = 0 := by
    decide +kernel
  obtain ⟨result, answered, empty⟩ := ok_of_any shown
  simp only [Bool.and_eq_true, List.isEmpty_iff] at empty
  exact ⟨result, answered, empty.1.1, empty.1.2, empty.2, List.length_eq_zero_iff.mp uncreated⟩

end Office
end Mailroom
