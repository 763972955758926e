import Mailroom.Proofs.CallbackAccounts
import Mailroom.Proofs.RoutingDeeds

/-!
# What a callback does

A callback opens at most one case, and only after a search has found none that
was created from the record. Whatever else it does, succeeds or fails at leaves
the stored cases alone.
-/

namespace Mailroom.Office

open Mailroom.Flow

variable {σ α : Type} {office : Office σ} {view : StoreView σ} {keys : String → Prop}
variable {stored : List Case} {request : Callback.Request} {record : ExceptionRecord}
variable {service : Service}

/-- The record and the service of a callback that has passed the checks. -/
structure Calls (office : Office σ) (request : Callback.Request) (record : ExceptionRecord)
    (service : Service) : Prop where
  validated : ExceptionRecord.validate (request.record.getD {}) request.eventId = .ok record
  known : ∃ name, Callback.serviceOf request.record = .ok name ∧
    office.services.get (some name) = .ok service

/-- What a callback leaves: the stored cases as they were, or one more. -/
def Answered (office : Office σ) (request : Callback.Request) (stored after : List Case) : Prop :=
  after = stored ∨ ∃ record service case, office.Calls request record service ∧
    office.Opens record service stored case ∧ after = stored ++ [case]

/-- Work of a callback, whether it succeeds or fails. -/
def Answers (office : Office σ) (work : Flow σ α) (view : StoreView σ)
    (request : Callback.Request) (stored : List Case) : Prop :=
  work.Assures (view.Holds stored) (fun _ => view.Meets (office.Answered request stored))
    (fun _ => view.Meets (office.Answered request stored))

/-- The transformation service of a tenant answers with a type of that tenant when
it is asked about a record. -/
def AnswersRecordsWithin (office : Office σ) : Prop :=
  ∀ name service record request token state answer,
    office.services.get (some name) = .ok service →
    Transformation.Request.ofRecord record = .ok request →
    (office.peers.transform service.transformationUrl request token state).1.result = .ok answer →
    answer.draft.caseType ∈ service.caseTypes

/-- A service that is found stands among the entries under its name. -/
theorem mem_of_get {services : Services} {name : Option String} {service : Service}
    (known : services.get name = .ok service) :
    ∃ text, name = some text ∧ (text, service) ∈ services.entries := by
  unfold Services.get at known
  split at known
  case h_1 found =>
    obtain ⟨text, named, entry⟩ := Option.bind_eq_some_iff.mp found
    obtain ⟨before, after, parts, -⟩ := List.lookup_eq_some_iff.mp entry
    cases known
    exact ⟨text, named, parts ▸ List.mem_append_right _ List.mem_cons_self⟩
  case h_2 => cases known

/-- What holds of a service under its name and of the entries that were there
before holds of the entries with the service put under its name. -/
theorem forall_insert {property : String × Service → Prop} {entries : List (String × Service)}
    {name : String} {service : Service} (new : property (name, service))
    (old : ∀ entry ∈ entries, property entry) :
    ∀ entry ∈ Services.insert entries name service, property entry := by
  intro entry isEntry
  unfold Services.insert at isEntry
  split at isEntry
  · obtain ⟨before, isBefore, rfl⟩ := List.mem_map.mp isEntry
    split
    · exact new
    · exact old before isBefore
  · rcases List.mem_append.mp isEntry with isBefore | isNew
    · exact old entry isBefore
    · rw [List.mem_singleton.mp isNew]
      exact new

/-- Services that were collected are those of the list, each under its own name. -/
theorem named_ofList (services : List Service) :
    ∀ entry ∈ (Services.ofList services).entries,
      entry.2.name = some entry.1 ∧ entry.2 ∈ services := by
  unfold Services.ofList
  refine List.foldlRecOn (motive := fun found : List (String × Service) =>
    ∀ entry ∈ found, entry.2.name = some entry.1 ∧ entry.2 ∈ services) services _ (by simp) ?_
  intro found holds service isService
  split
  · next name named =>
    split
    · exact holds
    · exact forall_insert ⟨named, isService⟩ holds
  · exact holds

/-- A service that is found among collected ones is one of the list and goes by
the name that it was found under. -/
theorem get_ofList {services : List Service} {name : Option String} {service : Service}
    (known : (Services.ofList services).get name = .ok service) :
    service.name = name ∧ service ∈ services := by
  obtain ⟨text, rfl, isEntry⟩ := mem_of_get known
  exact named_ofList services _ isEntry

/-- Services that were collected go by their names. -/
theorem byName_ofList (services : List Service) : ByName (Services.ofList services) :=
  fun _ _ known => (get_ofList known).1

/-- What makes callbacks answerable: services that go by their names, answers of
their transformation services, and records that can be searched for. -/
structure ServesAnyRecord (office : Office σ) (keys : String → Prop) : Prop where
  byName : ByName office.services
  within : office.AnswersRecordsWithin
  searched : ∀ id : Int, keys (toString id)

/-- A callback that has done nothing yet. -/
theorem unanswered {state : σ} (held : view.Holds stored state) :
    view.Meets (office.Answered request stored) state :=
  ⟨held.1, .inl held.2⟩

/-- A case that was added for a record was opened from it. -/
theorem opens_of_adds {id : Option Int} {after : List Case}
    (unfound : hits stored service.caseTypes caseRecordPath record.id = [])
    (within : office.TransformsWithin service)
    (adds : office.Adds record service stored id after) :
    ∃ case, office.Opens record service stored case ∧ after = stored ++ [case] := by
  obtain ⟨draft, drafts, case, founded, -, rfl⟩ := adds
  refine ⟨case, ⟨added_new founded, ?_, unfound, ?_, fun named records => ?_⟩, rfl⟩
  · simpa [Case.isOfType, founded.caseType] using drafts.within within
  · rw [founded.data]
    exact office.newCaseData_marked record service draft.data
  · rw [founded.data]
    unfold newCaseData
    rw [if_pos (by simp [named, records])]
    exact Fields.get?_set_self _ _ _

/-- A callback that was let in is answered in so far as it adds a case at most. -/
theorem answered_of_effected {token user : String} {userToken userId : Option String} {state : σ}
    (admitted : Admitted office.services request userToken userId record service token user)
    (searchable : service.Searchable) (within : office.TransformsWithin service)
    (effected : view.Meets (office.Effected record service stored
      (Found stored service.caseTypes caseRecordPath record.id)) state) :
    view.Meets (office.Answered request stored) state := by
  rcases effected.2 with same | ⟨found, id, adds⟩
  · exact unanswered ⟨effected.1, same⟩
  · obtain ⟨case, opens, grown⟩ :=
      opens_of_adds (found.nothing searchable.whole_types) within adds
    exact ⟨effected.1, .inr ⟨record, service, case, ⟨admitted.validated, admitted.known⟩, opens,
      grown⟩⟩

/-- A callback opens at most one case, where a search has found none. -/
theorem process_answers (faithful : Faithful office.peers view keys)
    (searchable : office.services.Searchable) (byName : ByName office.services)
    (within : office.AnswersRecordsWithin) (searched : ∀ id : Int, keys (toString id))
    (request : Callback.Request) (userToken userId : Option String) :
    office.Answers (office.process request userToken userId) view request stored := by
  rcases process_course office byName request userToken userId with
    idle | ⟨record, service, token, user, admitted, course⟩
  · intro run held
    obtain ⟨outcome, -, ends⟩ := idle.ends office.peers
    have ended : (office.process request userToken userId).run run = (outcome, run) := ends run
    rw [ended]
    cases outcome <;> exact unanswered held
  · obtain ⟨name, -, known⟩ := admitted.known
    obtain ⟨id, -, text, -⟩ := validate_id admitted.validated
    have transforms : office.TransformsWithin service :=
      fun record request token state answer => within name service record request token state answer known
    refine (course _ (faithfulCourse_lawful faithful (searchable _ _ known)
      (text ▸ searched id))).to_end (fun result state concludes => ?_) fun failure state breaks => ?_
    · exact answered_of_effected admitted (searchable _ _ known) transforms
        (effected_of_concludes concludes)
    · exact answered_of_effected admitted (searchable _ _ known) transforms
        (effected_of_breaks breaks)

end Mailroom.Office
