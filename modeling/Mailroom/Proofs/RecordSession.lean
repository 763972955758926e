import Mailroom.Proofs.CleanAnswers
import Mailroom.Proofs.History

/-!
# Callbacks on one record

A caseworker may ask for the case of a record any number of times, with other data
in the record each time, while the documents of envelopes are attached to any
cases. Any call may fail, and a creation that fails may have been carried out. The
record has one case at most all the same, every answer that links the record names
this case, and no callback ever finds several.
-/

namespace Mailroom

/-- A callback on the record of an identity and a type, whatever data it holds. -/
def Callback.Request.IsOn (request : Callback.Request) (id : Int) (caseType : Json) : Prop :=
  ∃ record, request.record = some record ∧ record.id = some id ∧ record.caseType = caseType

/-- A callback that was answered with data to store. -/
def Episode.Finalizes (episode : Episode) (result : Callback.Result) : Prop :=
  (∃ request, episode.task = .callback request (.ok result)) ∧ result.data ≠ []

namespace Office

open Mailroom.Flow Simulation

variable {σ : Type}

/-- Callbacks of a kind that were dealt with one after another, while documents were
attached to cases, and the state that this has ended in. -/
inductive Session (office : Office σ) (view : StoreView σ) (kind : Callback.Request → Prop)
    (start : σ) : List Episode → σ → Prop
  | empty : Session office view kind start [] start
  | callback {episodes : List Episode} {run : Run σ}
      (earlier : Session office view kind start episodes run.peers) (request : Callback.Request)
      (ofKind : kind request) (userToken userId : Option String) :
      Session office view kind start
        (episodes ++ [{
          task := .callback request ((office.process request userToken userId).run run).1
          before := view.cases run.peers
          after := view.cases ((office.process request userToken userId).run run).2.peers }])
        ((office.process request userToken userId).run run).2.peers
  | evidence {episodes : List Episode} {run : Run σ}
      (earlier : Session office view kind start episodes run.peers) (envelope : Envelope)
      (case : Case) :
      Session office view kind start episodes
        ((office.attachEvidence envelope case).run run).2.peers

/-- The documents of an envelope were attached to some cases, and nothing else was done. -/
def Supplements (office : Office σ) (envelope : Envelope) : List Case → List Case → Prop :=
  List.Forall₂ fun old new => new = old ∨ Case.Supplemented office.documents envelope old new

variable {office : Office σ} {view : StoreView σ} {keys : String → Prop}
variable {envelope : Envelope} {record : ExceptionRecord} {service : Service} {case : Case}
variable {stored after : List Case} {episodes : List Episode} {key : String}

/-- What attaching documents to a case assures, attaching evidence to it does. -/
theorem attachEvidence_of_attachTo {before done : σ → Prop}
    (starts : ∀ state, before state → done state)
    (law : (office.attachTo envelope case).Assures before (fun _ => done) fun _ => done) :
    (office.attachEvidence envelope case).Assures before (fun _ => done) fun _ => done := by
  refine Assures.bind ((Keeps.reading _).to_end (fun _ _ => id) fun _ => starts) fun existing => ?_
  split
  · exact Assures.after_log (Assures.pure _ starts)
  · refine Assures.after_log (Assures.attempting _ _ law fun outcome => ?_)
    split
    · exact Assures.after_log (Assures.pure _ fun _ => id)
    · split
      · exact Assures.after_log (Assures.pure _ fun _ => id)
      · exact Assures.fail _ fun _ => id

/-- Attaching evidence supplements a case, or leaves all cases alone. -/
theorem attachEvidence_supplements (faithful : Faithful office.peers view keys)
    (distinct : Distinct stored) (envelope : Envelope) (case : Case) :
    (office.attachEvidence envelope case).Assures (view.Holds stored)
      (fun _ => view.Meets (office.Supplements envelope stored))
      (fun _ => view.Meets (office.Supplements envelope stored)) := by
  have untouched (state : σ) (held : view.Holds stored state) :
      view.Meets (office.Supplements envelope stored) state := by
    refine ⟨held.1, held.2 ▸ List.forall₂_same.mpr fun _ _ => .inl rfl⟩
  have wrote {caseType : Json} {written : Option Int} {after : List Case}
      (wrote : Wrote (office.evidenceDraft envelope) caseType (some (Case.idText case.id)) stored
        after written) : office.Supplements envelope stored after := by
    refine (supplements_of_wrote distinct wrote).imp fun old new change => ?_
    split at change
    · exact .inr change
    · exact .inl change
  refine attachEvidence_of_attachTo untouched (Assures.bind
    ((credential_keeps (faithful.quiet _) _).to_end (fun _ _ => id) fun _ => untouched)
    fun credential => (attachDocuments_writes faithful credential _ _ ⟨_, rfl⟩ _ _ _).to_end ?_ ?_)
  · rintro - state ⟨sound, written, done⟩
    exact ⟨sound, wrote done⟩
  · rintro failure state ⟨sound, same | ⟨written, done⟩⟩
    · exact untouched state ⟨sound, same⟩
    · exact ⟨sound, wrote done⟩

/-- The stored cases that name a record. -/
def casesOf (key : String) (stored : List Case) : List Case :=
  stored.filter (·.holds caseRecordPath key)

/-- What is known of the cases that name a record: there is one at most, it is of the
service, and every answer so far that has linked the record names it. -/
structure Linkage (service : Service) (key : String) (episodes : List Episode)
    (stored : List Case) : Prop where
  distinct : Distinct stored
  ofService : ∀ case ∈ casesOf key stored, case.isOfType service.caseTypes = true
  single : (casesOf key stored).length ≤ 1
  named : ∀ episode ∈ episodes, ∀ result, episode.Finalizes result →
    ∃ case ∈ casesOf key stored,
      result.data.get? CaseField.caseReference = some (.str (Case.idText case.id))

/-- Where no case names a record, nothing has to be known. -/
theorem Linkage.of_unlinked (distinct : Distinct stored) (unlinked : casesOf key stored = []) :
    Linkage service key [] stored where
  distinct := distinct
  ofService := by simp [unlinked]
  single := by simp [unlinked]
  named := by simp

/-- A search by the record finds the cases that name it. -/
theorem Linkage.hits_eq (linkage : Linkage service key episodes stored) :
    hits stored service.caseTypes caseRecordPath key = casesOf key stored := by
  refine List.filter_congr fun case isStored => ?_
  cases holds : case.holds caseRecordPath key with
  | false => exact Bool.and_false _
  | true =>
    rw [linkage.ofService case (List.mem_filter.mpr ⟨isStored, holds⟩), Bool.and_true]

/-- Evidence does not change which record a case names. -/
theorem holds_of_supplement {old new : Case}
    (change : new = old ∨ Case.Supplemented office.documents envelope old new) :
    new.holds caseRecordPath key = old.holds caseRecordPath key := by
  rcases change with rfl | supplemented
  · rfl
  · exact supplemented.holds_other (by decide) (by decide)

/-- Evidence leaves identity and type of a case. -/
theorem same_of_supplement {old new : Case}
    (change : new = old ∨ Case.Supplemented office.documents envelope old new) :
    new.id = old.id ∧ new.caseType = old.caseType := by
  rcases change with rfl | supplemented
  · exact ⟨rfl, rfl⟩
  · exact ⟨supplemented.id, supplemented.caseType⟩

/-- Evidence keeps what is known of the cases of a record. -/
theorem Linkage.supplements (linkage : Linkage service key episodes stored)
    (supplements : office.Supplements envelope stored after) :
    Linkage service key episodes after where
  distinct := by
    unfold Distinct
    rw [ids_of_forall₂ supplements fun _ _ change => (same_of_supplement change).1]
    exact linkage.distinct
  ofService new isNew := by
    obtain ⟨isStored, holds⟩ := List.mem_filter.mp isNew
    obtain ⟨old, isOld, change⟩ := source_of_forall₂ supplements new isStored
    have ofType := linkage.ofService old (List.mem_filter.mpr
      ⟨isOld, (holds_of_supplement change).symm.trans holds⟩)
    unfold Case.isOfType at ofType ⊢
    rwa [(same_of_supplement change).2]
  single := by
    have same : (casesOf key after).length = (casesOf key stored).length :=
      length_filter_of_forall₂ supplements fun _ _ => holds_of_supplement
    exact same ▸ linkage.single
  named episode isEpisode result finalizes := by
    obtain ⟨old, isOld, names⟩ := linkage.named episode isEpisode result finalizes
    obtain ⟨isStored, holds⟩ := List.mem_filter.mp isOld
    obtain ⟨new, isNew, change⟩ := target_of_forall₂ supplements old isStored
    refine ⟨new, List.mem_filter.mpr ⟨isNew, (holds_of_supplement change).trans holds⟩, ?_⟩
    rw [(same_of_supplement change).1]
    exact names

/-- A further case of a record keeps what is known, where a search has found none,
and is the only one that names the record. -/
theorem Linkage.adds (linkage : Linkage service record.id episodes stored)
    (within : office.TransformsWithin service)
    (unfound : hits stored service.caseTypes caseRecordPath record.id = []) {id : Option Int}
    (adds : office.Adds record service stored id after) :
    Linkage service record.id episodes after ∧
      ∃ new : Case, new.id = id ∧ after = stored ++ [new] ∧ casesOf record.id after = [new] := by
  obtain ⟨new, named, isNew, marked, ofService, rfl⟩ := adds.grown
  have only : casesOf record.id (stored ++ [new]) = [new] := by
    rw [linkage.hits_eq] at unfound
    unfold casesOf at unfound ⊢
    rw [List.filter_append, unfound, List.nil_append, List.filter_singleton, marked]
    rfl
  refine ⟨⟨distinct_append linkage.distinct isNew, ?_, ?_, ?_⟩, new, named, rfl, only⟩
  · rw [only]
    exact List.forall_mem_singleton.mpr (ofService within)
  · rw [only]
    exact Nat.le_refl 1
  · intro episode isEpisode result finalizes
    obtain ⟨old, isOld, -⟩ := linkage.named episode isEpisode result finalizes
    rw [← linkage.hits_eq, unfound] at isOld
    cases isOld

/-- An answer keeps what is known when it names the case of the record, if it is one
that links it. -/
theorem Linkage.answer (linkage : Linkage service key episodes stored)
    {request : Callback.Request} {result : Callback.Result} {before : List Case}
    (named : result.data ≠ [] → ∃ case ∈ casesOf key stored,
      result.data.get? CaseField.caseReference = some (.str (Case.idText case.id))) :
    Linkage service key (episodes ++ [⟨.callback request (.ok result), before, stored⟩]) stored where
  distinct := linkage.distinct
  ofService := linkage.ofService
  single := linkage.single
  named episode isEpisode other finalizes := by
    rcases List.mem_append.mp isEpisode with earlier | isLast
    · exact linkage.named episode earlier other finalizes
    · obtain ⟨⟨itsRequest, task⟩, filled⟩ := finalizes
      rw [List.mem_singleton.mp isLast] at task
      cases task
      exact named filled

/-- A failure keeps what is known. -/
theorem Linkage.failure (linkage : Linkage service key episodes stored)
    {request : Callback.Request} {failure : Failure} {before : List Case} :
    Linkage service key (episodes ++ [⟨.callback request (.error failure), before, stored⟩])
      stored where
  distinct := linkage.distinct
  ofService := linkage.ofService
  single := linkage.single
  named episode isEpisode other finalizes := by
    rcases List.mem_append.mp isEpisode with earlier | isLast
    · exact linkage.named episode earlier other finalizes
    · obtain ⟨⟨itsRequest, task⟩, -⟩ := finalizes
      rw [List.mem_singleton.mp isLast] at task
      cases task

/-- An answer that links a record to an identity names the case of that identity. -/
theorem named_of_finalized {id : Option Int} {data : Fields} {linked : Case}
    (isCase : linked ∈ casesOf key stored) (itsId : linked.id = id) :
    ∃ case ∈ casesOf key stored, (ExceptionRecord.finalized data (Case.idText id)).get?
      CaseField.caseReference = some (.str (Case.idText case.id)) :=
  ⟨linked, isCase, itsId ▸ (finalizes_finalized _ _).linked⟩

/-- A callback that was let in and ends with a result keeps what is known. -/
theorem Linkage.concludes (linkage : Linkage service record.id episodes stored)
    (searchable : service.Searchable) (within : office.TransformsWithin service)
    {result : Callback.Result} {state : σ}
    (concludes : (office.faithfulCourse view record service stored).Concludes office record service
      case result state) (request : Callback.Request) :
    Linkage service record.id
      (episodes ++ [⟨.callback request (.ok result), stored, view.cases state⟩])
      (view.cases state) := by
  cases concludes with
  | existing found untouched =>
    obtain ⟨linked, single, itsId⟩ :=
      List.map_eq_singleton_iff.mp (found.single searchable.whole_types)
    have isCase : linked ∈ casesOf record.id stored := by
      rw [← linkage.hits_eq, single]
      exact List.mem_singleton_self linked
    rw [untouched.2]
    exact linkage.answer fun _ => named_of_finalized isCase itsId
  | objected found objects untouched =>
    rw [untouched.2]
    exact linkage.answer fun filled => absurd rfl filled
  | nameless found created =>
    exact (linkage.adds within (found.nothing searchable.whole_types) created.2).1.answer
      fun filled => absurd rfl filled
  | linked found moved =>
    obtain ⟨kept, linked, itsId, -, only⟩ :=
      linkage.adds within (found.nothing searchable.whole_types) moved.2
    exact kept.answer fun _ => named_of_finalized (only ▸ List.mem_singleton_self linked) itsId
  | unpaid found unmoved =>
    exact (linkage.adds within (found.nothing searchable.whole_types) unmoved.2).1.answer
      fun filled => absurd rfl filled

/-- A callback that was let in and ends with a failure keeps what is known. -/
theorem Linkage.breaks (linkage : Linkage service record.id episodes stored)
    (searchable : service.Searchable) (within : office.TransformsWithin service)
    {failure : Failure} {state : σ}
    (breaks : (office.faithfulCourse view record service stored).Breaks failure state)
    (request : Callback.Request) :
    Linkage service record.id
      (episodes ++ [⟨.callback request (.error failure), stored, view.cases state⟩])
      (view.cases state) := by
  cases breaks with
  | doubtful kind doubtful =>
    rcases doubtful.2 with same | ⟨-, found, id, adds⟩
    · rw [same]
      exact linkage.failure
    · exact (linkage.adds within (found.nothing searchable.whole_types) adds).1.failure
  | ambiguous found untouched =>
    rw [untouched.2]
    exact linkage.failure
  | unmoved found kind unmoved unreported =>
    exact (linkage.adds within (found.nothing searchable.whole_types) unmoved.2).1.failure

/-- A search never finds several cases of a record. -/
theorem Linkage.not_several (linkage : Linkage service key episodes stored)
    (searchable : service.Searchable) {first second : Option Int} {others : List (Option Int)} :
    ¬Found stored service.caseTypes caseRecordPath key (first :: second :: others) := by
  intro found
  have several := (found searchable.whole_types).length_eq
  rw [linkage.hits_eq, List.length_map, List.length_cons, List.length_cons] at several
  have single := linkage.single
  omega

/-- Where callbacks on one record take place: a store that keeps its word, and a
service that the record belongs to, whose cases can be searched for and are what its
transformation service answers with. -/
structure ServesRecord (office : Office σ) (view : StoreView σ) (keys : String → Prop) (id : Int)
    (caseType : Json) (service : Service) : Prop where
  faithful : Faithful office.peers view keys
  byName : ByName office.services
  known : ∃ name, Callback.serviceOf (some { caseType }) = .ok name ∧
    office.services.get (some name) = .ok service
  searchable : service.Searchable
  within : office.TransformsWithin service
  searched : keys (toString id)

variable {id : Int} {caseType : Json} {request : Callback.Request}
variable {userToken userId : Option String}

/-- The service and the record that a callback on the record is let in with. -/
theorem ServesRecord.admitted (serves : office.ServesRecord view keys id caseType service)
    (isOn : request.IsOn id caseType) {itsService : Service} {token user : String}
    (admitted : Admitted office.services request userToken userId record itsService token user) :
    itsService = service ∧ record.id = toString id ∧ (request.record.getD {}).id = some id ∧
      record.containsPayments = OpenData.isYes
        ((request.record.getD {}).data.member CaseField.containsPayments) := by
  obtain ⟨case, requested, named, rfl⟩ := isOn
  obtain ⟨name, read, known⟩ := admitted.known
  obtain ⟨itsName, itsRead, itsKnown⟩ := serves.known
  have validated := admitted.validated
  rw [requested] at read validated ⊢
  obtain rfl : name = itsName := Except.ok.inj (read.symm.trans itsRead)
  obtain ⟨itsId, itsNamed, text, -, payments⟩ := validate_id validated
  obtain rfl : id = itsId := Option.some.inj (named.symm.trans itsNamed)
  exact ⟨Except.ok.inj (known.symm.trans itsKnown), text, named, payments⟩

/-- A callback on the record is stopped and leaves everything as it is, or takes its
course with the service of the record. -/
theorem ServesRecord.course (serves : office.ServesRecord view keys id caseType service)
    (isOn : request.IsOn id caseType) (userToken userId : Option String) :
    (∃ outcome, Halted outcome ∧
      ∀ run, (office.process request userToken userId).run run = (outcome, run)) ∨
    ∃ record, record.id = toString id ∧ (request.record.getD {}).id = some id ∧
      record.containsPayments = OpenData.isYes
        ((request.record.getD {}).data.member CaseField.containsPayments) ∧
      ∀ course : Course σ, course.Lawful office record service (request.record.getD {}) →
        (office.process request userToken userId).Assures course.untouched
          (course.Concludes office record service (request.record.getD {})) course.Breaks := by
  rcases process_course office serves.byName request userToken userId with
    idle | ⟨record, itsService, token, user, admitted, course⟩
  · exact .inl (idle.ends office.peers)
  · obtain ⟨rfl, read⟩ := serves.admitted isOn admitted
    exact .inr ⟨record, read.1, read.2.1, read.2.2, course⟩

/-- The cases of the record are accounted for lawfully. -/
theorem ServesRecord.lawful (serves : office.ServesRecord view keys id caseType service)
    (named : record.id = toString id) :
    (office.faithfulCourse view record service stored).Lawful office record service case :=
  faithfulCourse_lawful serves.faithful serves.searchable (named ▸ serves.searched)

variable {kind : Callback.Request → Prop} {start finish : σ}

/-- What is known of the cases of a record is known after any session on it.

Proof: by induction on the session. Evidence leaves alone which record a case names.
A callback adds a case only where a search by the record finds none, and such a
search finds all cases that name the record, since they are of its service. -/
theorem Session.linkage (serves : office.ServesRecord view keys id caseType service)
    (session : office.Session view kind start episodes finish)
    (onRecord : ∀ request, kind request → request.IsOn id caseType) (sound : view.sound start)
    (distinct : Distinct (view.cases start))
    (unlinked : casesOf (toString id) (view.cases start) = []) :
    view.sound finish ∧ Linkage service (toString id) episodes (view.cases finish) := by
  induction session with
  | empty => exact ⟨sound, .of_unlinked distinct unlinked⟩
  | @callback episodes run earlier request ofKind userToken userId inductionHypothesis =>
    obtain ⟨soundBefore, linkage⟩ := inductionHypothesis
    rcases serves.course (onRecord request ofKind) userToken userId with
      ⟨outcome, halted, ends⟩ | ⟨record, named, -, -, course⟩
    · rw [ends]
      refine ⟨soundBefore, ?_⟩
      cases outcome with
      | ok result => exact linkage.answer fun filled => absurd halted.1 filled
      | error failure => exact linkage.failure
    · have ended := course _ (serves.lawful named) run ⟨soundBefore, rfl⟩
      rw [← named] at linkage ⊢
      revert ended
      cases ((office.process request userToken userId).run run).1 with
      | ok result =>
        exact fun concludes => ⟨(effected_of_concludes concludes).1,
          linkage.concludes serves.searchable serves.within concludes request⟩
      | error failure =>
        exact fun breaks => ⟨(effected_of_breaks breaks).1,
          linkage.breaks serves.searchable serves.within breaks request⟩
  | @evidence episodes run earlier envelope case inductionHypothesis =>
    obtain ⟨soundBefore, linkage⟩ := inductionHypothesis
    have ended := attachEvidence_supplements serves.faithful linkage.distinct envelope case run
      ⟨soundBefore, rfl⟩
    revert ended
    cases ((office.attachEvidence envelope case).run run).1 <;>
      exact fun ended => ⟨ended.1, linkage.supplements ended.2⟩

/-- No callback in a session finds several cases of the record. -/
theorem Session.unambiguous (serves : office.ServesRecord view keys id caseType service)
    (plain : office.peers.FailsBy Failure.IsPlain)
    (session : office.Session view kind start episodes finish)
    (onRecord : ∀ request, kind request → request.IsOn id caseType) (sound : view.sound start)
    (distinct : Distinct (view.cases start))
    (unlinked : casesOf (toString id) (view.cases start) = []) :
    ∀ episode ∈ episodes, ∀ request ambiguity,
      episode.task ≠ .callback request (.error (.ambiguous ambiguity)) := by
  induction session with
  | empty => simp
  | evidence earlier envelope case inductionHypothesis => exact inductionHypothesis
  | @callback episodes run earlier request ofKind userToken userId inductionHypothesis =>
    intro episode isEpisode itsRequest ambiguity same
    rcases List.mem_append.mp isEpisode with isEarlier | isLast
    · exact inductionHypothesis episode isEarlier itsRequest ambiguity same
    obtain ⟨soundBefore, linkage⟩ := earlier.linkage serves onRecord sound distinct unlinked
    rw [List.mem_singleton.mp isLast] at same
    have failed := (Task.callback.inj same).2
    rcases serves.course (onRecord request ofKind) userToken userId with
      ⟨outcome, halted, ends⟩ | ⟨record, named, -, -, course⟩
    · rw [ends] at failed
      obtain rfl : outcome = _ := failed
      rcases halted with ⟨refusal, impossible⟩ | ⟨fault, impossible⟩ <;> cases impossible
    · have lawful : (failureCourse Failure.IsPlain : Course σ).Lawful office record service
          (request.record.getD {}) := failureCourse_lawful plain fun _ isPlain => isPlain
      have ended := course _ ((serves.lawful named).meet lawful) run ⟨⟨soundBefore, rfl⟩, trivial⟩
      rw [failed] at ended
      rw [← named] at linkage
      cases ended with
      | doubtful isPlain => exact isPlain.2
      | ambiguous found => exact linkage.not_several serves.searchable found.1
      | unmoved found isPlain => exact isPlain.2

/-- A record is linked to one case: no two cases name it, no callback finds several,
and all answers with data to store name the same case. -/
structure LinkedOnce (key : String) (episodes : List Episode) (stored : List Case) : Prop where
  single : (casesOf key stored).length ≤ 1
  unambiguous : ∀ episode ∈ episodes, ∀ request ambiguity,
    episode.task ≠ .callback request (.error (.ambiguous ambiguity))
  oneReference : ∃ reference, ∀ episode ∈ episodes, ∀ result, episode.Finalizes result →
    result.data.get? CaseField.caseReference = some (.str reference)

/-- Callbacks are idempotent: in any session on a record that no case names at first,
at any time, the record is linked to one case.

Proof: what is known of the cases of the record says that there is one at most and
that all answers so far name it. -/
theorem callbacks_link_once (serves : office.ServesRecord view keys id caseType service)
    (plain : office.peers.FailsBy Failure.IsPlain)
    (session : office.Session view (·.IsOn id caseType) start episodes finish)
    (sound : view.sound start) (distinct : Distinct (view.cases start))
    (unlinked : ∀ case ∈ view.cases start, case.holds caseRecordPath (toString id) = false) :
    LinkedOnce (toString id) episodes (view.cases finish) := by
  have none : casesOf (toString id) (view.cases start) = [] := by
    simpa [casesOf, List.filter_eq_nil_iff] using unlinked
  obtain ⟨-, linkage⟩ := session.linkage serves (fun _ isOn => isOn) sound distinct none
  refine ⟨linkage.single,
    session.unambiguous serves plain (fun _ isOn => isOn) sound distinct none, ?_⟩
  cases linked : casesOf (toString id) (view.cases finish) with
  | nil =>
    refine ⟨"", fun episode isEpisode result finalizes => ?_⟩
    obtain ⟨case, isCase, -⟩ := linkage.named episode isEpisode result finalizes
    rw [linked] at isCase
    cases isCase
  | cons case others =>
    have single := linkage.single
    rw [linked, List.length_cons] at single
    obtain rfl : others = [] := List.length_eq_zero_iff.mp (by omega)
    refine ⟨Case.idText case.id, fun episode isEpisode result finalizes => ?_⟩
    obtain ⟨other, isCase, names⟩ := linkage.named episode isEpisode result finalizes
    rw [linked] at isCase
    rw [← List.mem_singleton.mp isCase]
    exact names

/-- The mail room with payments serves callbacks on the record of the paid form. -/
theorem serves_paid_record :
    (PaymentsBook.office (.ok sampleAnswer)).ServesRecord PaymentsBook.view isWhole 7
      paidRecord.caseType sampleService where
  faithful := (PaymentsBook.peers_work _).faithful
  byName := PaymentsBook.office_byName _
  known := ⟨"bulkscan", by decide +kernel, rfl⟩
  searchable := ⟨sample_suited.some_types _ (List.mem_singleton_self _),
    sample_suited.whole_types _ (List.mem_singleton_self _)⟩
  within := by
    rintro record request token state _ - ⟨⟩
    exact sample_suited.answers _ (List.mem_singleton_self _)
  searched := isWhole_toString 7

/-- What comes of the same request after its payments were refused. -/
def paidAgain : Except Failure Callback.Result × Run PaymentsBook :=
  ((PaymentsBook.office (.ok sampleAnswer)).process paidRequest (some "token") (some "user")).run
    (paidCallback { refusals := 1 }).2

/-- Two callbacks on one record, of which the first could not move the payments. -/
def paidEpisodes : List Episode :=
  [{ task := .callback paidRequest (paidCallback { refusals := 1 }).1
     before := []
     after := PaymentsBook.view.cases (paidCallback { refusals := 1 }).2.peers },
   { task := .callback paidRequest paidAgain.1
     before := PaymentsBook.view.cases (paidCallback { refusals := 1 }).2.peers
     after := PaymentsBook.view.cases paidAgain.2.peers }]

/-- The two callbacks are a session on their record. -/
theorem paidEpisodes_session {kind : Callback.Request → Prop} (ofKind : kind paidRequest) :
    (PaymentsBook.office (.ok sampleAnswer)).Session PaymentsBook.view kind { refusals := 1 }
      paidEpisodes paidAgain.2.peers := by
  let run : Run PaymentsBook := { peers := { refusals := 1 } }
  have begun : (PaymentsBook.office (.ok sampleAnswer)).Session PaymentsBook.view kind
    { refusals := 1 } [] run.peers := .empty
  exact .callback (.callback begun paidRequest ofKind (some "token") (some "user")) paidRequest
    ofKind (some "token") (some "user")

/-- Both callbacks link the record to one case. -/
theorem paid_form_is_linked_once :
    LinkedOnce (toString (7 : Int)) paidEpisodes (PaymentsBook.view.cases paidAgain.2.peers) := by
  have isOn : paidRequest.IsOn 7 paidRecord.caseType := ⟨paidRecord, rfl, rfl, rfl⟩
  have empty : PaymentsBook.view.cases ({ refusals := 1 } : PaymentsBook) = [] := rfl
  exact callbacks_link_once serves_paid_record (PaymentsBook.peers_plain _ (by simp))
    (paidEpisodes_session isOn) CaseBook.sound_empty (empty ▸ List.nodup_nil) (by simp [empty])

end Office
end Mailroom
