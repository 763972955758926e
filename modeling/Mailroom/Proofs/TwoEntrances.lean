import Mailroom.Proofs.CallbackDeeds
import Mailroom.Proofs.Redelivery

/-!
# Two entrances

A case of an application comes about in one of two ways: a delivery creates it,
or a caseworker has it opened from the record of the envelope. The two look for
an existing case by different marks. Each way is taken at most once for an
envelope. A delivery sees what was opened from the record only where references
to envelopes are recorded, and a callback never sees what a delivery has created,
so that two cases are possible, and no more.
-/

namespace Mailroom

/-- The cases that have come about, other than records of an envelope. -/
def newCases (envelope : Envelope) (before after : List Case) : List Case :=
  (after.drop before.length).filter fun case =>
    !case.isOfType [Service.recordCaseType envelope.container]

namespace Episode

/-- The cases that came about in an episode, other than records of an envelope. -/
def serviceCases (envelope : Envelope) (episode : Episode) : List Case :=
  newCases envelope episode.before episode.after

/-- The episode is a delivery of an envelope. -/
def Delivers (envelope : Envelope) (episode : Episode) : Prop :=
  ∃ result, episode.task = .delivery envelope result

/-- The episode is a callback on a record of an envelope. -/
def CallsFor (envelope : Envelope) (episode : Episode) : Prop :=
  ∃ request result record, episode.task = .callback request result ∧
    request.record = some record ∧ record.IsRecordOf envelope.id

/-- An episode of a post: a delivery of one of its envelopes, or a callback that
comes with a stored record of one. -/
def IsOf (post : Envelope → Prop) (episode : Episode) : Prop :=
  (∃ envelope result, post envelope ∧ episode.task = .delivery envelope result) ∨
    ∃ request result record envelope, episode.task = .callback request result ∧
      request.record = some record ∧ record ∈ episode.before ∧ post envelope ∧
      record.IsRecordOf envelope.id

end Episode

namespace Office

open Simulation

variable {σ : Type} {office : Office σ} {view : StoreView σ} {keys : String → Prop}
variable {post : Envelope → Prop} {start finish : σ} {episodes : List Episode}
variable {envelope other : Envelope} {stored before after : List Case}

/-- A case of the service of an envelope names it as its origin. -/
def HasCase (office : Office σ) (envelope : Envelope) (stored : List Case) : Prop :=
  ∃ service, office.services.get (some envelope.container) = .ok service ∧
    ∃ case ∈ stored, case.isOfType service.caseTypes = true ∧ case.Refers envelope.id .create

/-- Whether a case is of a type depends on its type alone. -/
theorem isOfType_continues {old new : Case} (continues : old.Continues new) (types : List String) :
    new.isOfType types = old.isOfType types := by
  unfold Case.isOfType
  rw [continues.caseType]

/-- A case of an envelope is kept where no case is lost. -/
theorem HasCase.persists (has : office.HasCase envelope stored) (persists : Persists stored after) :
    office.HasCase envelope after := by
  obtain ⟨service, known, case, isStored, isOfType, refers⟩ := has
  obtain ⟨new, isNew, continues⟩ := persists case isStored
  refine ⟨service, known, new, isNew, ?_, continues.references _ _ refers⟩
  rwa [isOfType_continues continues]

/-- No case is created for an envelope that has one. -/
theorem Creates.not_hasCase {service : Service} {case : Case}
    (created : office.Creates envelope service stored case) : ¬office.HasCase envelope stored := by
  rintro ⟨itsService, known, old, isStored, isOfType, refers⟩
  obtain rfl : service = itsService := Except.ok.inj (created.known.symm.trans known)
  have isHit : old ∈ hits stored service.caseTypes envelopePath envelope.id :=
    List.mem_filter.mpr ⟨isStored, by simp [isOfType, Case.holds_of_refers refers]⟩
  rw [created.unfound] at isHit
  cases isHit

/-- One more case has come about, unless it is a record of the envelope. -/
theorem newCases_append {middle : List Case} (longer : before.length ≤ middle.length)
    (case : Case) :
    newCases envelope before (middle ++ [case]) = newCases envelope before middle ++
      if case.isOfType [Service.recordCaseType envelope.container] then [] else [case] := by
  unfold newCases
  rw [List.drop_append_of_le_length longer, List.filter_append]
  cases isRecord : case.isOfType [Service.recordCaseType envelope.container] <;> simp [isRecord]

/-- No case has come about where evidence was attached. -/
theorem Attaches.length_newCases {middle : List Case} {id : Option Int}
    (attaches : office.Attaches other id middle after) :
    (newCases envelope before after).length = (newCases envelope before middle).length := by
  refine length_filter_of_forall₂ (List.forall₂_drop _ attaches.done) fun old new change => ?_
  split at change
  · rw [isOfType_continues change.continues]
  · rw [change]

/-- Deeds for an envelope add one case other than its record at most, and only
where it had none.

Proof: by induction on the deeds. Once a case was added, the next creation would
have found it; a record does not count, and evidence adds nothing. -/
theorem Deeds.newCases (deeds : office.Deeds envelope before after) :
    before.length ≤ after.length ∧
      (newCases envelope before after = [] ∨
        (newCases envelope before after).length = 1 ∧ ¬office.HasCase envelope before ∧
          office.HasCase envelope after) := by
  induction deeds with
  | refl =>
    refine ⟨Nat.le_refl _, .inl ?_⟩
    simp [Mailroom.newCases]
  | @tail middle after earlier deed inductionHypothesis =>
    obtain ⟨longer, sofar⟩ := inductionHypothesis
    have persists := deed.persists
    cases deed with
    | @created service case deed =>
      refine ⟨by simp; omega, ?_⟩
      rcases sofar with none | ⟨-, -, has⟩
      · have before : ¬office.HasCase envelope before := fun has =>
          deed.not_hasCase (has.persists (Deeds.persists earlier))
        rw [newCases_append longer, none]
        split
        · exact .inl rfl
        · refine .inr ⟨rfl, before, service, deed.known, case, by simp, deed.ofService, ?_⟩
          exact (Case.refers_single deed.marked).mpr ⟨rfl, rfl⟩
      · exact absurd has deed.not_hasCase
    | @filed case deed =>
      refine ⟨by simp; omega, ?_⟩
      have isRecord : case.isOfType [Service.recordCaseType envelope.container] = true := by
        simp [Case.isOfType, deed.caseType]
      rw [newCases_append longer, if_pos isRecord, List.append_nil]
      exact sofar.imp_right fun one => ⟨one.1, one.2.1, one.2.2.persists persists⟩
    | @attached id after deed =>
      have same : (Mailroom.newCases envelope before after).length =
          (Mailroom.newCases envelope before _).length :=
        deed.length_newCases
      refine ⟨by rw [← deed.done.length_eq]; exact longer, ?_⟩
      rcases sofar with none | ⟨one, absent, has⟩
      · exact .inl (List.length_eq_zero_iff.mp (by rw [same, none]; rfl))
      · exact .inr ⟨same.trans one, absent, has.persists persists⟩

/-- A case that was opened from a record of an envelope. -/
structure OpenedFrom (office : Office σ) (envelope : Envelope) (record case : Case)
    (service : Service) : Prop where
  isRecord : record.IsRecordOf envelope.id
  known : ∃ name, Callback.serviceOf (some record) = .ok name ∧
    office.services.get (some name) = .ok service
  ofService : case.isOfType service.caseTypes = true
  marked : case.data.get? CaseField.bulkScanCaseReference = some (.str (Case.idText record.id))
  referred : envelope.id ≠ "" → service.recordsEnvelopes = true → case.Refers envelope.id .create

/-- A case was opened from a record of an envelope, and both are stored. -/
def HasOpened (office : Office σ) (envelope : Envelope) (stored : List Case) : Prop :=
  ∃ record ∈ stored, ∃ case ∈ stored, ∃ service, office.OpenedFrom envelope record case service

/-- The service of a callback depends on the type of the record alone. -/
theorem serviceOf_continues {old new : Case} (continues : old.Continues new) :
    Callback.serviceOf (some new) = Callback.serviceOf (some old) := by
  unfold Callback.serviceOf
  rw [Option.map_some, Option.map_some, continues.caseType]

/-- A case that was opened is kept where no case is lost. -/
theorem HasOpened.persists (has : office.HasOpened envelope stored)
    (persists : Persists stored after) : office.HasOpened envelope after := by
  obtain ⟨record, isRecord, case, isCase, service, opened⟩ := has
  obtain ⟨newRecord, isNewRecord, recordContinues⟩ := persists record isRecord
  obtain ⟨newCase, isNewCase, continues⟩ := persists case isCase
  refine ⟨newRecord, isNewRecord, newCase, isNewCase, service, ?_, ?_, ?_, ?_, ?_⟩
  · exact isRecordOf_continues recordContinues opened.isRecord
  · rw [serviceOf_continues recordContinues]
    exact opened.known
  · rw [isOfType_continues continues]
    exact opened.ofService
  · rw [continues.others _ (by decide) (by decide), recordContinues.id]
    exact opened.marked
  · exact fun named records => continues.references _ _ (opened.referred named records)

/-- The service that a callback on a record belongs to, by its name. -/
theorem serviceOf_record {record : Case} {container name : String}
    (typed : record.caseType = .str (Service.recordCaseType container))
    (read : Callback.serviceOf (some record) = .ok name) :
    name = Text.lower (Text.upper container) := by
  unfold Callback.serviceOf at read
  rw [Option.map_some, typed] at read
  simp only [Option.getD_some] at read
  split at read
  · rw [Callback.stem_recordCaseType] at read
    exact (Except.ok.inj read).symm
  · cases read

/-- Services that record the envelopes of their cases, and that a callback on a
record finds under the name that the envelope came with. -/
structure RecordsOrigin (office : Office σ) (envelope : Envelope) : Prop where
  named : envelope.id ≠ ""
  sameName : Text.lower (Text.upper envelope.container) = envelope.container
  records : ∀ service, office.services.get (some envelope.container) = .ok service →
    service.recordsEnvelopes = true

/-- Where envelopes are recorded, an opened case is one that names its envelope. -/
theorem HasOpened.hasCase (has : office.HasOpened envelope stored)
    (records : RecordsInOrder envelope stored) (origin : office.RecordsOrigin envelope) :
    office.HasCase envelope stored := by
  obtain ⟨record, isStored, case, isCase, service, opened⟩ := has
  obtain ⟨name, read, known⟩ := opened.known
  obtain rfl := serviceOf_record (records.record_type record isStored opened.isRecord) read
  rw [origin.sameName] at known
  exact ⟨service, known, case, isCase, opened.ofService,
    opened.referred origin.named (origin.records service known)⟩

/-- A case is opened from the record that the callback came with. -/
theorem Opens.openedFrom {request : Callback.Request} {record : ExceptionRecord} {service : Service}
    {itsRecord case : Case} (byName : ByName office.services)
    (records : RecordsInOrder envelope stored) (isStored : itsRecord ∈ stored)
    (isRecord : itsRecord.IsRecordOf envelope.id) (requested : request.record = some itsRecord)
    (calls : office.Calls request record service)
    (opens : office.Opens record service stored case) :
    office.OpenedFrom envelope itsRecord case service := by
  obtain ⟨name, read, known⟩ := calls.known
  have validated := calls.validated
  rw [requested] at read validated
  rw [Option.getD_some] at validated
  obtain ⟨id, named, text, itsEnvelope, -⟩ := validate_id validated
  refine ⟨isRecord, ⟨name, read, known⟩, opens.ofService, ?_, fun identified recorded => ?_⟩
  · rw [opens.marked, text, named, Case.idText_some]
  · have mark : record.envelopeId = .str envelope.id := by
      rw [itsEnvelope]
      simp [Fields.member, records.record_mark itsRecord isStored isRecord]
    have marked := opens.referred (by simp [mark, Json.isVacant, identified]) (by
      simp [Services.recordsEnvelopes, byName name service known, known, recorded])
    rw [mark] at marked
    exact (Case.refers_single marked).mpr ⟨rfl, rfl⟩

/-- No case is opened from a record that one was opened from. -/
theorem Opens.not_hasOpened {request : Callback.Request} {record : ExceptionRecord}
    {service : Service} {itsRecord case : Case} (distinct : Distinct stored)
    (one : AtMostOne (Case.IsRecordOf envelope.id) stored) (isStored : itsRecord ∈ stored)
    (isRecord : itsRecord.IsRecordOf envelope.id) (requested : request.record = some itsRecord)
    (calls : office.Calls request record service)
    (opens : office.Opens record service stored case) : ¬office.HasOpened envelope stored := by
  rintro ⟨other, isOther, old, isOld, itsService, opened⟩
  obtain rfl : other = itsRecord := List.inj_on_of_nodup_map distinct isOther isStored
    (one other isOther itsRecord isStored opened.isRecord isRecord)
  obtain ⟨name, read, known⟩ := calls.known
  obtain ⟨itsName, itsRead, itsKnown⟩ := opened.known
  have validated := calls.validated
  rw [requested] at read validated
  rw [Option.getD_some] at validated
  obtain rfl : name = itsName := Except.ok.inj (read.symm.trans itsRead)
  obtain rfl : service = itsService := Except.ok.inj (known.symm.trans itsKnown)
  obtain ⟨id, named, text, -⟩ := validate_id validated
  have marked := opened.marked
  rw [named, Case.idText_some, ← text] at marked
  have holds : old.holds caseRecordPath record.id = true := Case.holds_text marked
  have isHit : old ∈ hits stored service.caseTypes caseRecordPath record.id :=
    List.mem_filter.mpr ⟨isOld, by simp [opened.ofService, holds]⟩
  rw [opens.unfound] at isHit
  cases isHit

/-- How the episodes of a history share the cases of one envelope. -/
structure Shared (office : Office σ) (envelope : Envelope) (episodes : List Episode) : Prop where
  /-- No episode adds more than one case, -/
  single : ∀ episode ∈ episodes, episode.Delivers envelope ∨ episode.CallsFor envelope →
    (episode.serviceCases envelope).length ≤ 1
  /-- no two deliveries add one each, -/
  one_delivery : episodes.Pairwise fun earlier later =>
    earlier.Delivers envelope → later.Delivers envelope →
    earlier.serviceCases envelope = [] ∨ later.serviceCases envelope = []
  /-- nor do two callbacks, -/
  one_callback : episodes.Pairwise fun earlier later =>
    earlier.CallsFor envelope → later.CallsFor envelope →
    earlier.serviceCases envelope = [] ∨ later.serviceCases envelope = []
  /-- and where envelopes are recorded, no delivery does after a callback did. -/
  callback_seen : office.RecordsOrigin envelope → episodes.Pairwise fun earlier later =>
    earlier.CallsFor envelope → later.Delivers envelope →
    earlier.serviceCases envelope = [] ∨ later.serviceCases envelope = []

/-- What is known of one envelope in the course of a history. -/
structure Tally (office : Office σ) (envelope : Envelope) (episodes : List Episode)
    (stored : List Case) : Prop where
  records : RecordsInOrder envelope stored
  delivered : ∀ episode ∈ episodes, episode.Delivers envelope →
    episode.serviceCases envelope ≠ [] → office.HasCase envelope stored
  opened : ∀ episode ∈ episodes, episode.CallsFor envelope →
    episode.serviceCases envelope ≠ [] → office.HasOpened envelope stored
  shared : office.Shared envelope episodes

/-- A further episode that adds a case where there was none of its kind keeps the
tally. -/
theorem Tally.extend {last : Episode} (tally : office.Tally envelope episodes before)
    (persists : Persists before after) (records : RecordsInOrder envelope after)
    (delivery : last.Delivers envelope → last.serviceCases envelope = [] ∨
      (last.serviceCases envelope).length = 1 ∧ ¬office.HasCase envelope before ∧
        office.HasCase envelope after)
    (callback : last.CallsFor envelope → last.serviceCases envelope = [] ∨
      (last.serviceCases envelope).length = 1 ∧ ¬office.HasOpened envelope before ∧
        office.HasOpened envelope after) :
    office.Tally envelope (episodes ++ [last]) after where
  records := records
  delivered episode isEpisode delivers adds := by
    rcases List.mem_append.mp isEpisode with earlier | isLast
    · exact (tally.delivered episode earlier delivers adds).persists persists
    · obtain rfl := List.mem_singleton.mp isLast
      exact ((delivery delivers).resolve_left adds).2.2
  opened episode isEpisode calls adds := by
    rcases List.mem_append.mp isEpisode with earlier | isLast
    · exact (tally.opened episode earlier calls adds).persists persists
    · obtain rfl := List.mem_singleton.mp isLast
      exact ((callback calls).resolve_left adds).2.2
  shared := by
    refine ⟨?_, pairwise_append_last tally.shared.one_delivery ?_,
      pairwise_append_last tally.shared.one_callback ?_,
      fun origin => pairwise_append_last (tally.shared.callback_seen origin) ?_⟩
    · intro episode isEpisode entrance
      rcases List.mem_append.mp isEpisode with earlier | isLast
      · exact tally.shared.single episode earlier entrance
      · obtain rfl := List.mem_singleton.mp isLast
        rcases entrance with delivers | calls
        · rcases delivery delivers with none | ⟨one, -⟩
          · simp [none]
          · exact Nat.le_of_eq one
        · rcases callback calls with none | ⟨one, -⟩
          · simp [none]
          · exact Nat.le_of_eq one
    · intro earlier isEarlier delivers delivers'
      refine (delivery delivers').symm.imp_left fun ⟨_, absent, _⟩ => ?_
      by_contra adds
      exact absent (tally.delivered earlier isEarlier delivers adds)
    · intro earlier isEarlier calls calls'
      refine (callback calls').symm.imp_left fun ⟨_, absent, _⟩ => ?_
      by_contra adds
      exact absent (tally.opened earlier isEarlier calls adds)
    · intro earlier isEarlier calls delivers
      refine (delivery delivers).symm.imp_left fun ⟨_, absent, _⟩ => ?_
      by_contra adds
      exact absent ((tally.opened earlier isEarlier calls adds).hasCase tally.records origin)

/-- A delivery keeps the tally. -/
theorem Tally.delivery (configured : WellConfigured office.services)
    (apart : other.id = envelope.id → other = envelope)
    (tally : office.Tally envelope episodes before)
    (result : Except Failure Routed) (deeds : office.Deeds other before after) :
    office.Tally envelope (episodes ++ [⟨.delivery other result, before, after⟩]) after := by
  refine tally.extend (Deeds.persists deeds) (tally.records.deeds configured apart deeds) ?_ ?_
  · rintro ⟨_, same⟩
    cases same
    exact (Deeds.newCases deeds).2
  · rintro ⟨_, _, _, impossible, -⟩
    cases impossible

/-- One more case of a service keeps the records in order. -/
theorem RecordsInOrder.append {case : Case} (records : RecordsInOrder envelope stored)
    (ordinary : ¬case.IsRecordOf envelope.id) : RecordsInOrder envelope (stored ++ [case]) where
  record_type new isNew isRecord := by
    rcases List.mem_append.mp isNew with before | added
    · exact records.record_type new before isRecord
    · exact absurd (List.mem_singleton.mp added ▸ isRecord) ordinary
  record_mark new isNew isRecord := by
    rcases List.mem_append.mp isNew with before | added
    · exact records.record_mark new before isRecord
    · exact absurd (List.mem_singleton.mp added ▸ isRecord) ordinary
  one_record whole := (records.one_record whole).append fun isRecord => absurd isRecord ordinary

/-- A callback on a stored record keeps the tally. -/
theorem Tally.callback (configured : WellConfigured office.services)
    (byName : ByName office.services)
    (whole : ',' ∉ (Service.recordCaseType envelope.container).toList) (distinct : Distinct before)
    (tally : office.Tally envelope episodes before) {request : Callback.Request}
    (result : Except Failure Callback.Result) {itsRecord : Case}
    (requested : request.record = some itsRecord) (isStored : itsRecord ∈ before)
    (answered : office.Answered request before after) :
    office.Tally envelope (episodes ++ [⟨.callback request result, before, after⟩]) after := by
  rcases answered with rfl | ⟨record, service, case, calls, opens, rfl⟩
  · have none : Episode.serviceCases envelope ⟨.callback request result, after, after⟩ = [] := by
      simp [Episode.serviceCases, newCases]
    exact tally.extend (fun old isOld => ⟨old, isOld, .refl old⟩) tally.records
      (fun _ => .inl none) (fun _ => .inl none)
  · obtain ⟨name, -, known⟩ := calls.known
    have ordinary := caseType_ne_record configured known opens.ofService
    have persists : Persists before (before ++ [case]) := fun old isOld =>
      ⟨old, List.mem_append_left _ isOld, .refl old⟩
    refine tally.extend persists (tally.records.append fun ⟨⟨container, isRecordType⟩, _⟩ =>
      ordinary container isRecordType) ?_ ?_
    · rintro ⟨_, impossible⟩
      cases impossible
    · rintro ⟨_, _, itsOther, same, alsoRequested, isRecord⟩
      cases same
      obtain rfl : itsRecord = itsOther := Option.some.inj (requested.symm.trans alsoRequested)
      have notRecordType : case.isOfType [Service.recordCaseType envelope.container] = false := by
        have notType := ordinary envelope.container
        unfold Case.isOfType
        split <;> simp_all
      refine .inr ⟨?_, ?_, ?_⟩
      · unfold Episode.serviceCases
        rw [newCases_append (Nat.le_refl _)]
        simp [newCases, notRecordType]
      · exact opens.not_hasOpened distinct (tally.records.one_record whole) isStored isRecord requested
          calls
      · exact ⟨itsRecord, List.mem_append_left _ isStored, case, by simp, service,
          opens.openedFrom byName tally.records isStored isRecord requested calls⟩

/-- A callback leaves a state that can occur, with at most one more case. -/
theorem ServesAnyRecord.answered (serves : office.ServesAnyRecord keys)
    (setting : office.Setting view keys post) (request : Callback.Request)
    (userToken userId : Option String) {run : Run σ} (sound : view.sound run.peers) :
    view.sound ((office.process request userToken userId).run run).2.peers ∧
      office.Answered request (view.cases run.peers)
        (view.cases ((office.process request userToken userId).run run).2.peers) := by
  have ended := process_answers setting.faithful setting.configured.searchable serves.byName
    serves.within serves.searched request userToken userId run ⟨sound, rfl⟩
  revert ended
  cases ((office.process request userToken userId).run run).1 <;> exact id

/-- A callback leaves the cases distinct. -/
theorem Answered.distinct {request : Callback.Request}
    (answered : office.Answered request before after) (distinct : Distinct before) :
    Distinct after := by
  rcases answered with rfl | ⟨record, service, case, calls, opens, rfl⟩
  · exact distinct
  · exact distinct_append distinct opens.isNew

/-- An envelope has at most two cases, one by each entrance. In any history of
deliveries and of callbacks that come with stored records, with any calls
failing, the deliveries of an envelope add one case at most, and so do the
callbacks on its record. Where references to envelopes are recorded, no delivery
adds a case once a callback has.

Proof: by induction on the history. What an entrance has added stays marked as
what it is, and the search at the same entrance looks for this mark. -/
theorem one_case_per_entrance (setting : office.Setting view keys post)
    (serves : office.ServesAnyRecord keys)
    (history : office.History view start episodes finish)
    (ofPost : ∀ episode ∈ episodes, episode.IsOf post) (sound : view.sound start)
    (distinct : Distinct (view.cases start))
    (unreferenced : ∀ envelope, post envelope → Unreferenced envelope.id (view.cases start)) :
    ∀ envelope, post envelope → ',' ∉ (Service.recordCaseType envelope.container).toList →
      office.Shared envelope episodes := by
  intro envelope posted whole
  suffices induction : view.sound finish ∧ Distinct (view.cases finish) ∧
      office.Tally envelope episodes (view.cases finish) from induction.2.2.shared
  induction history with
  | empty =>
    refine ⟨sound, distinct, .of_unreferenced (unreferenced envelope posted), by simp, by simp, ?_⟩
    exact ⟨by simp, List.Pairwise.nil, List.Pairwise.nil, fun _ => List.Pairwise.nil⟩
  | @delivery episodes run earlier other inductionHypothesis =>
    obtain ⟨soundBefore, distinctBefore, tally⟩ := inductionHypothesis fun episode isEarlier =>
      ofPost episode (List.mem_append_left _ isEarlier)
    have otherPosted : post other := by
      rcases ofPost _ (List.mem_append_right _ (List.mem_singleton_self _)) with
        ⟨_, _, isPosted, same⟩ | ⟨_, _, _, _, impossible, -⟩
      · cases same
        exact isPosted
      · cases impossible
    obtain ⟨soundAfter, lawful⟩ := setting.delivery_lawful otherPosted soundBefore distinctBefore
    exact ⟨soundAfter, Deeds.distinct lawful.deeds distinctBefore, tally.delivery setting.configured
      (setting.identified other envelope otherPosted posted) _ lawful.deeds⟩
  | @callback episodes run earlier request userToken userId inductionHypothesis =>
    obtain ⟨soundBefore, distinctBefore, tally⟩ := inductionHypothesis fun episode isEarlier =>
      ofPost episode (List.mem_append_left _ isEarlier)
    obtain ⟨soundAfter, answered⟩ := serves.answered setting request userToken userId soundBefore
    refine ⟨soundAfter, answered.distinct distinctBefore, ?_⟩
    rcases ofPost _ (List.mem_append_right _ (List.mem_singleton_self _)) with
      ⟨_, _, _, impossible⟩ | ⟨_, _, record, _, same, requested, isStored, -⟩
    · cases impossible
    · cases same
      exact tally.callback setting.configured serves.byName whole distinctBefore _ requested
        isStored answered

/-- A filled form for the service of the sample. -/
def sampleForm : Envelope :=
  let day : Time.Moment := { date := ⟨2020, 1, 1⟩, clock := .midnight, offset := none }
  { sampleApplication with
    poBox := some "PO"
    deliveryDate := some day
    openingDate := some day
    ocrData := [{ name := "name", value := some "value" }] }

/-- An empty store that fails when it is first asked for a new case. -/
def reluctantBook : CaseBook where
  failures := [(.startCreate, .status (some 500))]

/-- The form was delivered twice. The first delivery could not create a case and has
filed a record; the second one has created the case. -/
def formDelivered : Run CaseBook :=
  sampleOffice.deliverAll [sampleForm, sampleForm] { peers := reluctantBook }

/-- A caseworker asks for a case of the record. -/
def sampleRequest : Callback.Request where
  eventId := EventName.createNewCase
  record := (bookView.cases formDelivered.peers)[0]?
  ignoreWarnings := true

/-- The record has got a case of its own. -/
def formOpened : Except Failure Callback.Result × Run CaseBook :=
  (sampleOffice.process sampleRequest (some "token") (some "user")).run formDelivered

/-- The two deliveries and the callback. -/
def formEpisodes : List Episode :=
  sampleOffice.deliveries bookView [sampleForm, sampleForm] { peers := reluctantBook } ++
    [{ task := .callback sampleRequest formOpened.1
       before := bookView.cases formDelivered.peers
       after := bookView.cases formOpened.2.peers }]

/-- The episodes are a history. -/
theorem formEpisodes_history :
    sampleOffice.History bookView reluctantBook formEpisodes formOpened.2.peers := by
  let run : Run CaseBook := { peers := reluctantBook }
  have begun : sampleOffice.History bookView reluctantBook [] run.peers := .empty
  have delivered : sampleOffice.History bookView reluctantBook
      (sampleOffice.deliveries bookView [sampleForm, sampleForm] run) formDelivered.peers :=
    begun.deliverAll [sampleForm, sampleForm]
  rw [formEpisodes, formOpened]
  exact .callback delivered sampleRequest (some "token") (some "user")

/-- The episodes are deliveries of the form and a callback on its record. -/
theorem formEpisodes_ofPost : ∀ episode ∈ formEpisodes, episode.IsOf (· = sampleForm) := by
  have posted : ∀ envelope ∈ [sampleForm, sampleForm], envelope = sampleForm := by simp
  intro episode isEpisode
  rcases List.mem_append.mp isEpisode with isDelivery | isCallback
  · obtain ⟨envelope, result, posted, same⟩ := deliversOnly_deliveries posted _ episode isDelivery
    exact .inl ⟨envelope, result, posted, same⟩
  · have last := List.mem_singleton.mp isCallback
    have task : episode.task = .callback sampleRequest formOpened.1 := by rw [last]
    have before : episode.before = bookView.cases formDelivered.peers := by rw [last]
    have filed : (bookView.cases formDelivered.peers)[0]?.any (fun record =>
        record.isOfType [Service.recordCaseType "bulkscan"] &&
          record.holds recordEnvelopePath sampleForm.id) = true := by
      decide +kernel
    obtain ⟨record, isFirst, isMatch⟩ := (Option.any_eq_true _ _).mp filed
    obtain ⟨isOfType, holds⟩ := Bool.and_eq_true_iff.mp isMatch
    have requested : sampleRequest.record = some record := by rw [sampleRequest, isFirst]
    have isStored : record ∈ episode.before := before ▸ List.mem_of_getElem? isFirst
    exact .inr ⟨sampleRequest, formOpened.1, record, sampleForm, task, requested, isStored, rfl,
      isRecordOf_of_type isOfType holds⟩

/-- The one and the other entrance add one case of the form each at most. -/
theorem sample_form_shared : sampleOffice.Shared sampleForm formEpisodes := by
  have setting : sampleOffice.Setting bookView isWhole (· = sampleForm) :=
    sample_suited.setting (fun _ _ first second _ => first.trans second.symm)
      (by rintro _ rfl; decide)
  have sound : bookView.sound reluctantBook :=
    ⟨rfl, rfl, by simp [reluctantBook], List.nodup_nil, by simp [reluctantBook]⟩
  have empty : bookView.cases reluctantBook = [] := rfl
  have distinct : Distinct (bookView.cases reluctantBook) := empty ▸ List.nodup_nil
  have unreferenced : Unreferenced sampleForm.id (bookView.cases reluctantBook) := by
    rw [empty]
    exact fun _ => nofun
  have whole : ',' ∉ (Service.recordCaseType sampleForm.container).toList := by decide +kernel
  exact one_case_per_entrance setting sample_suited.serves formEpisodes_history formEpisodes_ofPost
    sound distinct (fun _ same => same ▸ unreferenced) sampleForm rfl whole

/-- Two cases come about for one form: the delivery has created the one, and the
callback on the record, which looks for another mark, the other. -/
theorem form_has_two_cases :
    (bookView.cases formOpened.2.peers).map (fun case =>
      (case.isOfType sampleService.caseTypes, case.holds envelopePath sampleForm.id)) =
        [(false, false), (true, true), (true, true)] := by
  decide +kernel

end Office
end Mailroom
