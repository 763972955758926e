import Mailroom.Proofs.OfficeInMemory
import Mailroom.Proofs.OneCase

/-!
# Redelivery

Envelopes are delivered at least once: a delivery that fails is tried again, and
one that succeeded may come again. However often this happens and in whatever
order, an envelope leads to one case and one record at most, and whatever a
delivery has answered stays true of what is stored.
-/

namespace Mailroom

/-- A task was a delivery of an envelope that ended with a result. -/
def Task.Returned (task : Task) (envelope : Envelope) (routed : Routed) : Prop :=
  task = .delivery envelope (.ok routed)

namespace Office

open Simulation

variable {σ : Type} {office : Office σ} {view : StoreView σ} {keys : String → Prop}
variable {post : Envelope → Prop} {start finish : σ} {episodes : List Episode}
variable {envelope other : Envelope} {stored before after : List Case} {id : Option Int}

/-- The case of an application is stored and names it. -/
theorem CaseFor.is_stored (found : office.CaseFor envelope stored id)
    (orderly : office.Orderly envelope stored) :
    ∃ case ∈ stored, case.id = id ∧ case.Refers envelope.id .create := by
  obtain ⟨service, -, application, one⟩ := found
  have isHit : id ∈ (hits stored service.caseTypes envelopePath envelope.id).map (·.id) := by
    rw [one]
    exact List.mem_singleton_self _
  obtain ⟨case, isHit, named⟩ := List.mem_map.mp isHit
  obtain ⟨isStored, isMatch⟩ := List.mem_filter.mp isHit
  have holds : case.holds envelopePath envelope.id = true := by simp_all
  exact ⟨case, isStored, named, (orderly.found application case isStored holds).1⟩

/-- A case of the type of a record that names an envelope is its record. -/
theorem isRecordOf_of_type {record : Case} {container : String}
    (isOfType : record.isOfType [Service.recordCaseType container] = true)
    (holds : record.holds recordEnvelopePath envelope.id = true) :
    record.IsRecordOf envelope.id := by
  refine ⟨⟨container, ?_⟩, holds⟩
  unfold Case.isOfType at isOfType
  split at isOfType <;> simp_all

/-- The record of an envelope is stored. -/
theorem RecordFor.is_stored (found : RecordFor envelope stored id)
    (whole : ',' ∉ (Service.recordCaseType envelope.container).toList) :
    ∃ record ∈ stored, record.id = id ∧ record.IsRecordOf envelope.id := by
  have isHit := (found whole).symm ▸ List.mem_singleton_self id
  obtain ⟨record, isHit, named⟩ := List.mem_map.mp isHit
  obtain ⟨isStored, isMatch⟩ := List.mem_filter.mp isHit
  obtain ⟨isOfType, holds⟩ := Bool.and_eq_true_iff.mp isMatch
  exact ⟨record, isStored, named, isRecordOf_of_type isOfType holds⟩

/-- What a result says of the stored cases, whatever is done afterwards. -/
structure Vouched (office : Office σ) (view : StoreView σ) (envelope : Envelope)
    (stored : List Case) (routed : Routed) : Prop where
  created : routed.action = .caseCreated →
    ∃ case ∈ stored, case.id = routed.caseId ∧ case.Refers envelope.id .create
  filed : routed.action = .recordFiled →
    ',' ∉ (Service.recordCaseType envelope.container).toList →
    ∃ record ∈ stored, record.id = routed.caseId ∧ record.IsRecordOf envelope.id
  attached : office.peers.FetchesStored view → routed.action = .attachedToCase →
    ∃ case ∈ stored, case.id = routed.caseId ∧ Document.Carried envelope.documents case.data

/-- A case goes on as the record that it is. -/
theorem isRecordOf_continues {old new : Case} {key : String} (continues : old.Continues new)
    (isRecord : old.IsRecordOf key) : new.IsRecordOf key := by
  unfold Case.IsRecordOf recordEnvelopePath at isRecord ⊢
  rw [Case.holds_iff] at isRecord ⊢
  rwa [continues.caseType, continues.others _ (by decide) (by decide)]

/-- What a result says stays true as long as no case is lost. -/
theorem Vouched.persists {routed : Routed} (vouched : office.Vouched view envelope stored routed)
    (persists : Persists stored after) : office.Vouched view envelope after routed where
  created action := by
    obtain ⟨case, isStored, named, refers⟩ := vouched.created action
    obtain ⟨new, isNew, continues⟩ := persists case isStored
    exact ⟨new, isNew, continues.id.trans named, continues.references _ _ refers⟩
  filed action whole := by
    obtain ⟨record, isStored, named, isRecord⟩ := vouched.filed action whole
    obtain ⟨new, isNew, continues⟩ := persists record isStored
    exact ⟨new, isNew, continues.id.trans named, isRecordOf_continues continues isRecord⟩
  attached fetches action := by
    obtain ⟨case, isStored, named, carried⟩ := vouched.attached fetches action
    obtain ⟨new, isNew, continues⟩ := persists case isStored
    exact ⟨new, isNew, continues.id.trans named, continues.carried _ carried⟩

/-- A justified result is true of what is stored after its delivery. -/
theorem Justified.vouched {routed : Routed}
    (justified : office.Justified view envelope before after routed)
    (orderly : office.Orderly envelope after) : office.Vouched view envelope after routed := by
  unfold Justified at justified
  cases action : routed.action with
  | caseCreated =>
    rw [action] at justified
    exact ⟨fun _ => CaseFor.is_stored justified orderly, by simp [action], by simp [action]⟩
  | recordFiled =>
    rw [action] at justified
    exact ⟨by simp [action], fun _ => RecordFor.is_stored justified.1, by simp [action]⟩
  | attachedToCase =>
    rw [action] at justified
    refine ⟨by simp [action], by simp [action], fun fetches _ => ?_⟩
    obtain ⟨case, isStored, named, -⟩ := justified.lacking fetches
    obtain ⟨new, isNew, change⟩ := target_of_forall₂ justified.attaches.done case isStored
    rw [if_pos named] at change
    exact ⟨new, isNew, change.id.trans named, change.carried⟩

/-- What holds for one envelope at the end of a history: everything is in order,
and every result for the envelope is still true. -/
structure Reckoned (office : Office σ) (view : StoreView σ) (envelope : Envelope)
    (episodes : List Episode) (stored : List Case) : Prop where
  orderly : office.Orderly envelope stored
  vouched : ∀ episode ∈ episodes, ∀ routed, episode.task.Returned envelope routed →
    office.Vouched view envelope stored routed

/-- A further delivery keeps what has been reckoned and adds its own result. -/
theorem Reckoned.delivery (configured : WellConfigured office.services)
    (apart : other.id = envelope.id → other = envelope)
    (reckoned : office.Reckoned view envelope episodes before) {result : Except Failure Routed}
    (lawful : office.Lawful view other result before after) :
    office.Reckoned view envelope (episodes ++ [⟨.delivery other result, before, after⟩]) after := by
  have orderly := reckoned.orderly.deeds configured apart lawful.deeds
  refine ⟨orderly, fun episode isEpisode routed returned => ?_⟩
  rcases List.mem_append.mp isEpisode with earlier | last
  · exact (reckoned.vouched episode earlier routed returned).persists (Deeds.persists lawful.deeds)
  · obtain rfl := List.mem_singleton.mp last
    obtain ⟨rfl, rfl⟩ : other = envelope ∧ result = .ok routed := by
      simpa [Task.Returned] using returned
    exact (lawful.justified routed rfl).vouched orderly

/-- Every envelope of the post is reckoned with at the end of a history. -/
theorem History.reckoned (setting : office.Setting view keys post)
    (history : office.History view start episodes finish) (deliveries : DeliversOnly post episodes)
    (sound : view.sound start) (distinct : Distinct (view.cases start))
    (posted : post envelope) (unreferenced : Unreferenced envelope.id (view.cases start)) :
    Distinct (view.cases finish) ∧ office.Reckoned view envelope episodes (view.cases finish) := by
  have induction := history.induct setting deliveries sound distinct
    (motive := office.Reckoned view envelope)
    ⟨Orderly.of_unreferenced unreferenced, by simp⟩
    fun _ other _ _ _ otherPosted _ lawful reckoned => reckoned.delivery setting.configured
      (setting.identified other envelope otherPosted posted) lawful
  exact induction.2

/-- A case that names an envelope as its origin is of the service of that envelope,
and the envelope is a new application. -/
theorem Orderly.origin (orderly : office.Orderly envelope stored) {case : Case}
    (isStored : case ∈ stored) (refers : case.Refers envelope.id .create) :
    envelope.classification.classification? = some .newApplication ∧ ∃ service,
      office.services.get (some envelope.container) = .ok service ∧
      service.createsCasesAutomatically = true ∧ case.isOfType service.caseTypes = true := by
  have application : envelope.classification.classification? = some .newApplication := by
    by_contra otherClass
    exact orderly.uncreated otherClass case isStored refers
  exact ⟨application,
    (orderly.found application case isStored (Case.holds_of_refers refers)).2⟩

/-- At most one case names an envelope as its origin. -/
theorem Orderly.one_created (orderly : office.Orderly envelope stored) :
    AtMostOne (·.Refers envelope.id .create) stored := by
  intro first isFirst second isSecond firstRefers secondRefers
  have application := (orderly.origin isFirst firstRefers).1
  exact orderly.one_found application first isFirst second isSecond
    (Case.holds_of_refers firstRefers) (Case.holds_of_refers secondRefers)

/-- What is stored bears out what deliveries of an envelope have answered. -/
structure BearsOut (envelope : Envelope) (episodes : List Episode) (stored : List Case) :
    Prop where
  /-- A delivery that created the case of the envelope, or found it created, names it, -/
  named_case : ∀ episode ∈ episodes, ∀ routed, episode.task.Returned envelope routed →
    routed.action = .caseCreated →
    ∃ case ∈ stored, case.id = routed.caseId ∧ case.Refers envelope.id .create
  /-- and one that filed its record, or found it filed, names that, provided that its
  type can be told apart in a search. -/
  named_record : ',' ∉ (Service.recordCaseType envelope.container).toList →
    ∀ episode ∈ episodes, ∀ routed, episode.task.Returned envelope routed →
    routed.action = .recordFiled →
    ∃ record ∈ stored, record.id = routed.caseId ∧ record.IsRecordOf envelope.id

/-- What bears out some answers bears out each of them. -/
theorem BearsOut.single (bearsOut : BearsOut envelope episodes stored) {episode : Episode}
    (isEpisode : episode ∈ episodes) : BearsOut envelope [episode] stored := by
  refine ⟨fun same isSame => ?_, fun whole same isSame => ?_⟩
  · exact List.mem_singleton.mp isSame ▸ bearsOut.named_case episode isEpisode
  · exact List.mem_singleton.mp isSame ▸ bearsOut.named_record whole episode isEpisode

/-- What is reckoned with bears out the answers. -/
theorem Reckoned.bearsOut (reckoned : office.Reckoned view envelope episodes stored) :
    BearsOut envelope episodes stored where
  named_case episode isEpisode routed returned :=
    (reckoned.vouched episode isEpisode routed returned).created
  named_record whole episode isEpisode routed returned action :=
    (reckoned.vouched episode isEpisode routed returned).filed action whole

/-- What is stored of an envelope after some episodes, and that it bears out what
the deliveries among them have answered: the case and the record that they name
are the only ones. -/
structure Idempotent (office : Office σ) (envelope : Envelope) (episodes : List Episode)
    (stored : List Case) : Prop extends BearsOut envelope episodes stored where
  /-- There is one case of the envelope, -/
  one_case : AtMostOne (·.Refers envelope.id .create) stored
  /-- which is of the service of the envelope. -/
  own_service : ∀ case ∈ stored, case.Refers envelope.id .create → ∃ service,
    office.services.get (some envelope.container) = .ok service ∧
    case.isOfType service.caseTypes = true
  /-- There is one record, provided that its type can be told apart in a search. -/
  one_record : ',' ∉ (Service.recordCaseType envelope.container).toList →
    AtMostOne (Case.IsRecordOf envelope.id) stored

/-- Redelivery is idempotent. In any history of deliveries, first ones, retries and
redeliveries of any envelopes in any order, with any calls failing, an envelope
leads to one case and one record at most, and every delivery that answers with a
case or a record names the one that there is.

Proof: by induction on the history. The searches of a delivery find exactly what
earlier deliveries have left, because the marks that they search for are kept
when evidence is attached, and because no other envelope leaves such a mark. -/
theorem redelivery_is_idempotent (setting : office.Setting view keys post)
    (history : office.History view start episodes finish) (deliveries : DeliversOnly post episodes)
    (sound : view.sound start) (distinct : Distinct (view.cases start))
    (unreferenced : ∀ envelope, post envelope → Unreferenced envelope.id (view.cases start)) :
    Distinct (view.cases finish) ∧
      ∀ envelope, post envelope → office.Idempotent envelope episodes (view.cases finish) := by
  have kept := (history.induct setting deliveries sound distinct (motive := fun _ _ => True)
    trivial fun _ _ _ _ _ _ _ _ => id).2.1
  refine ⟨kept, fun envelope posted => ?_⟩
  obtain ⟨-, reckoned⟩ :=
    history.reckoned setting deliveries sound distinct posted (unreferenced envelope posted)
  have orderly := reckoned.orderly
  refine ⟨reckoned.bearsOut, orderly.one_created, fun case isStored refers => ?_,
    orderly.one_record⟩
  obtain ⟨-, service, known, -, isOfType⟩ := orderly.origin isStored refers
  exact ⟨service, known, isOfType⟩

/-- An application for the service of the sample. -/
def sampleApplication : Envelope where
  id := "envelope"
  container := "bulkscan"
  classification := .checked .newApplication
  jurisdiction := "BULKSCAN"

/-- The application is delivered, comes again, and is one case. -/
theorem sample_application_redelivered :
    let envelopes := [sampleApplication, sampleApplication]
    let run : Run CaseBook := { peers := {} }
    let finish := (sampleOffice.deliverAll envelopes run).peers
    sampleOffice.Idempotent sampleApplication (sampleOffice.deliveries bookView envelopes run)
      (bookView.cases finish) ∧ (bookView.cases finish).length = 1 := by
  intro envelopes run finish
  have setting : sampleOffice.Setting bookView isWhole (· = sampleApplication) :=
    sample_suited.setting (fun _ _ first second _ => first.trans second.symm)
      (by rintro _ rfl; decide)
  have begun : sampleOffice.History bookView {} [] run.peers := .empty
  have idempotent := redelivery_is_idempotent setting (begun.deliverAll envelopes)
    (deliversOnly_deliveries (by simp [envelopes]) run) CaseBook.sound_empty
    List.nodup_nil (fun _ _ _ => nofun)
  exact ⟨idempotent.2 sampleApplication rfl, by decide +kernel⟩

/-- What a delivery answered that came after another one of the same envelope.
Once the answer was the case that was created, it stays that. A record stays the
same record. Evidence is attached to one case once only. -/
structure Follows (envelope : Envelope) (first second : Routed) : Prop where
  created : first.action = .caseCreated → second = first
  filed : ',' ∉ (Service.recordCaseType envelope.container).toList →
    first.action = .recordFiled → second.action = .recordFiled → second = first
  attached : first.action = .attachedToCase → second.action = .attachedToCase →
    second.caseId ≠ first.caseId

/-- The stored case that a search finds is the only one. -/
theorem hits_length_eq_one {types path : List String} {key : String} {case : Case}
    (distinct : Distinct stored)
    (one : AtMostOne (fun case => case.holds path key = true) stored)
    (isHit : case ∈ hits stored types path key) : (hits stored types path key).length = 1 := by
  have separate : ((hits stored types path key).map (·.id)).Nodup :=
    (List.filter_sublist.map _).nodup distinct
  have isMatch : ∀ other ∈ hits stored types path key,
      other ∈ stored ∧ other.holds path key = true := by
    intro other isHit
    obtain ⟨isStored, isMatch⟩ := List.mem_filter.mp isHit
    exact ⟨isStored, (Bool.and_eq_true_iff.mp isMatch).2⟩
  cases found : hits stored types path key with
  | nil => simp [found] at isHit
  | cons first rest =>
    cases rest with
    | nil => rfl
    | cons second rest =>
      rw [found] at separate isMatch
      have firstMatch := isMatch first (by simp)
      have secondMatch := isMatch second (by simp)
      have same := one first firstMatch.1 second secondMatch.1 firstMatch.2 secondMatch.2
      simp [same] at separate

/-- While the case of an application is stored, a delivery that ends with a result
answers that the case was created. -/
theorem Justified.created_of_stored {routed : Routed} (distinct : Distinct before)
    (orderly : office.Orderly envelope before)
    (justified : office.Justified view envelope before after routed) {case : Case}
    (isStored : case ∈ before) (refers : case.Refers envelope.id .create) :
    routed.action = .caseCreated := by
  obtain ⟨application, service, known, allowed, isOfType⟩ := orderly.origin isStored refers
  unfold Justified at justified
  cases action : routed.action with
  | caseCreated => rfl
  | recordFiled =>
    rw [action] at justified
    refine absurd ?_ (justified.2 application service known allowed)
    have hit : case ∈ hits before service.caseTypes envelopePath envelope.id :=
      List.mem_filter.mpr ⟨isStored, by simp [isOfType, Case.holds_of_refers refers]⟩
    exact hits_length_eq_one distinct (orderly.one_found application) hit
  | attachedToCase =>
    rw [action] at justified
    have evidence := justified.attaches.evidence
    rw [application] at evidence
    cases evidence

/-- A result follows the one of an earlier delivery that is still true. -/
theorem Justified.follows (fetches : office.peers.FetchesStored view) {first second : Routed}
    (distinct : Distinct before) (orderlyBefore : office.Orderly envelope before)
    (orderly : office.Orderly envelope after) (persists : Persists before after)
    (earlier : office.Vouched view envelope before first)
    (justified : office.Justified view envelope before after second) :
    Follows envelope first second where
  created action := by
    obtain ⟨case, isStored, named, refers⟩ := earlier.created action
    have sameAction := justified.created_of_stored distinct orderlyBefore isStored refers
    obtain ⟨old, isOld, namedOld, refersOld⟩ := (earlier.persists persists).created action
    obtain ⟨new, isNew, namedNew, refersNew⟩ := (justified.vouched orderly).created sameAction
    have sameCase := orderly.one_created new isNew old isOld refersNew refersOld
    rw [namedNew, namedOld] at sameCase
    cases first
    cases second
    simp_all
  filed whole firstAction secondAction := by
    obtain ⟨old, isOld, namedOld, isRecordOld⟩ :=
      (earlier.persists persists).filed firstAction whole
    obtain ⟨new, isNew, namedNew, isRecordNew⟩ :=
      (justified.vouched orderly).filed secondAction whole
    have sameRecord := orderly.one_record whole new isNew old isOld isRecordNew isRecordOld
    rw [namedNew, namedOld] at sameRecord
    cases first
    cases second
    simp_all
  attached firstAction secondAction := by
    unfold Justified at justified
    rw [secondAction] at justified
    obtain ⟨old, isOld, namedOld, carried⟩ := earlier.attached fetches firstAction
    obtain ⟨case, isStored, named, existing, read, lacking⟩ := justified.lacking fetches
    intro same
    have sameCase : old = case := List.inj_on_of_nodup_map distinct isOld isStored
      (namedOld.trans (same.symm.trans named.symm))
    exact lacking (carried existing (sameCase ▸ read))

/-- What a delivery of an envelope may answer: a new application becomes a case or
gets a record, evidence is attached or gets a record, everything else gets one. -/
def Fitting (envelope : Envelope) (routed : Routed) : Prop :=
  match routed.action with
  | .caseCreated => envelope.classification.classification? = some .newApplication
  | .attachedToCase => envelope.classification.classification? = some .supplementaryEvidence
  | .recordFiled => True

/-- How the deliveries of one envelope relate to each other and to what is stored. -/
structure Consistent (envelope : Envelope) (episodes : List Episode) (stored : List Case) : Prop
    extends BearsOut envelope episodes stored where
  /-- Every answer is borne out as soon as it is given. -/
  at_once : ∀ episode ∈ episodes, BearsOut envelope [episode] episode.after
  /-- Evidence that was attached is carried by the case that the answer names. -/
  carried : ∀ episode ∈ episodes, ∀ routed, episode.task.Returned envelope routed →
    routed.action = .attachedToCase →
    ∃ case ∈ stored, case.id = routed.caseId ∧ Document.Carried envelope.documents case.data
  /-- Every answer fits the class of the envelope. -/
  fitting : ∀ episode ∈ episodes, ∀ routed, episode.task.Returned envelope routed →
    Fitting envelope routed
  /-- Every answer follows the earlier ones. -/
  follows : episodes.Pairwise fun earlier later => ∀ first second,
    earlier.task.Returned envelope first → later.task.Returned envelope second →
    Follows envelope first second
  /-- Once a case names the envelope as its origin, this is the answer. -/
  settled : ∀ episode ∈ episodes, ∀ case ∈ episode.before, case.Refers envelope.id .create →
    ∀ routed, episode.task.Returned envelope routed →
    routed = { caseId := case.id, action := .caseCreated }
  /-- There is one case of the envelope, -/
  one_case : AtMostOne (·.Refers envelope.id .create) stored
  /-- and one record, -/
  one_record : ',' ∉ (Service.recordCaseType envelope.container).toList →
    AtMostOne (Case.IsRecordOf envelope.id) stored
  /-- and either a case was created from it or its documents were attached to cases. -/
  exclusive : ∀ first ∈ stored, first.Refers envelope.id .create →
    ∀ second ∈ stored, ¬second.Refers envelope.id .update

/-- The answer of a delivery that found the case of its application stored. -/
theorem Justified.settled {routed : Routed} (distinct : Distinct before)
    (orderlyBefore : office.Orderly envelope before) (orderly : office.Orderly envelope after)
    (persists : Persists before after)
    (justified : office.Justified view envelope before after routed) {case : Case}
    (isStored : case ∈ before) (refers : case.Refers envelope.id .create) :
    routed = { caseId := case.id, action := .caseCreated } := by
  have action := justified.created_of_stored distinct orderlyBefore isStored refers
  obtain ⟨new, isNew, named, refersNew⟩ := (justified.vouched orderly).created action
  obtain ⟨kept, isKept, continues⟩ := persists case isStored
  have same := orderly.one_created new isNew kept isKept refersNew
    (continues.references _ _ refers)
  rw [named, continues.id] at same
  cases routed
  simp_all

/-- A justified result fits the class of its envelope. -/
theorem Justified.fitting {routed : Routed}
    (justified : office.Justified view envelope before after routed) : Fitting envelope routed := by
  unfold Justified at justified
  unfold Fitting
  cases action : routed.action with
  | caseCreated =>
    rw [action] at justified
    exact justified.choose_spec.2.1
  | recordFiled => trivial
  | attachedToCase =>
    rw [action] at justified
    exact justified.attaches.evidence

/-- What is in order is consistent, once the answers are. -/
theorem Orderly.exclusive (orderly : office.Orderly envelope stored) {first second : Case}
    (isFirst : first ∈ stored) (created : first.Refers envelope.id .create)
    (isSecond : second ∈ stored) : ¬second.Refers envelope.id .update := by
  refine orderly.unsupplemented ?_ second isSecond
  simp [(orderly.origin isFirst created).1]

/-- Before the first delivery of an envelope, what is in order is consistent. -/
theorem Orderly.consistent (orderly : office.Orderly envelope stored) :
    Consistent envelope [] stored where
  named_case := List.forall_mem_nil _
  named_record _ := List.forall_mem_nil _
  at_once := List.forall_mem_nil _
  carried := List.forall_mem_nil _
  fitting := List.forall_mem_nil _
  follows := .nil
  settled := List.forall_mem_nil _
  one_case := orderly.one_created
  one_record := orderly.one_record
  exclusive _ isFirst created _ isSecond := orderly.exclusive isFirst created isSecond

/-- A further delivery answers in keeping with the earlier ones. -/
theorem Consistent.delivery (fetches : office.peers.FetchesStored view)
    (configured : WellConfigured office.services)
    (apart : other.id = envelope.id → other = envelope) (distinct : Distinct before)
    (reckoned : office.Reckoned view envelope episodes before)
    (consistent : Consistent envelope episodes before) {result : Except Failure Routed}
    (lawful : office.Lawful view other result before after) :
    Consistent envelope (episodes ++ [⟨.delivery other result, before, after⟩]) after := by
  have reckonedAfter := reckoned.delivery configured apart lawful
  have orderly := reckonedAfter.orderly
  have persists := Deeds.persists lawful.deeds
  -- only a delivery of this very envelope has an answer to compare
  have answered {routed : Routed}
      (returned : Task.Returned (.delivery other result) envelope routed) :
      office.Justified view envelope before after routed := by
    obtain ⟨rfl, rfl⟩ : other = envelope ∧ result = .ok routed := by
      simpa [Task.Returned] using returned
    exact lawful.justified routed rfl
  exact {
    toBearsOut := reckonedAfter.bearsOut
    at_once := List.forall_mem_append.mpr ⟨consistent.at_once, List.forall_mem_singleton.mpr
      (reckonedAfter.bearsOut.single List.mem_concat_self)⟩
    carried := fun episode isEpisode routed returned =>
      (reckonedAfter.vouched episode isEpisode routed returned).attached fetches
    fitting := List.forall_mem_append.mpr ⟨consistent.fitting, List.forall_mem_singleton.mpr
      fun _ returned => (answered returned).fitting⟩
    follows := pairwise_append_last consistent.follows fun earlier isEarlier first _ returnedFirst
      returnedSecond => (answered returnedSecond).follows fetches distinct reckoned.orderly orderly
        persists (reckoned.vouched earlier isEarlier first returnedFirst)
    settled := List.forall_mem_append.mpr ⟨consistent.settled, List.forall_mem_singleton.mpr
      fun _ isStored refers _ returned => (answered returned).settled distinct reckoned.orderly
        orderly persists isStored refers⟩
    one_case := orderly.one_created
    one_record := orderly.one_record
    exclusive := fun _ isFirst created _ isSecond => orderly.exclusive isFirst created isSecond }

/-- Deliveries of an envelope are consistent. In any history of deliveries, with any
calls failing, a new application is answered with its record until it has become
a case, and from then on always with that case; evidence is attached to one case
at most once, and otherwise gets a record, always the same; everything else gets
its record. Whatever case or record an answer names is stored when the answer is
given and stays stored. Neither a case nor a record is made twice.

Proof: by induction on the history. At every delivery the earlier answers are
still true of what is stored, and what is stored decides the answer. -/
theorem deliveries_are_consistent (setting : office.Setting view keys post)
    (fetches : office.peers.FetchesStored view)
    (history : office.History view start episodes finish) (deliveries : DeliversOnly post episodes)
    (sound : view.sound start) (distinct : Distinct (view.cases start))
    (unreferenced : ∀ envelope, post envelope → Unreferenced envelope.id (view.cases start)) :
    ∀ envelope, post envelope → Consistent envelope episodes (view.cases finish) := by
  intro envelope posted
  have initially : office.Orderly envelope (view.cases start) :=
    .of_unreferenced (unreferenced envelope posted)
  have induction := history.induct setting deliveries sound distinct
    (motive := fun episodes stored => office.Reckoned view envelope episodes stored ∧
      Consistent envelope episodes stored)
    ⟨⟨initially, by simp⟩, initially.consistent⟩
    fun _ other _ _ _ otherPosted distinctBefore lawful ⟨reckoned, consistent⟩ =>
      have apart := setting.identified other envelope otherPosted posted
      ⟨reckoned.delivery setting.configured apart lawful,
        consistent.delivery fetches setting.configured apart distinctBefore reckoned lawful⟩
  exact induction.2.2.2

/-- A case of the service of the sample, under the number one. -/
def sampleBook : CaseBook where
  cases := [(1, { id := some 1, caseType := .str "Bulk_Scanned" })]

/-- Evidence for this case. -/
def sampleEvidence : Envelope where
  id := "envelope"
  container := "bulkscan"
  classification := .checked .supplementaryEvidence
  jurisdiction := "BULKSCAN"
  documents := [{ uuid := some "uuid", controlNumber := some "number" }]
  caseRef := some "1"

/-- The store with this case is sound. -/
theorem sampleBook_sound : CaseBook.Sound sampleBook where
  undisturbed := rfl
  snapshots := rfl
  named := by simp [sampleBook]
  once := by decide
  issued := by decide

/-- The evidence is delivered, comes again, and is consistent. -/
theorem sample_evidence_redelivered :
    let envelopes := [sampleEvidence, sampleEvidence]
    let run : Run CaseBook := { peers := sampleBook }
    Consistent sampleEvidence (sampleOffice.deliveries bookView envelopes run)
      (bookView.cases (sampleOffice.deliverAll envelopes run).peers) := by
  intro envelopes run
  have setting : sampleOffice.Setting bookView isWhole (· = sampleEvidence) :=
    sample_suited.setting (fun _ _ first second _ => first.trans second.symm)
      (by rintro _ rfl; decide)
  have begun : sampleOffice.History bookView sampleBook [] run.peers := .empty
  refine deliveries_are_consistent setting (peersInMemory_work sampleAnswer).fetchesStored
    (begun.deliverAll envelopes) (deliversOnly_deliveries (by simp [envelopes]) run)
    sampleBook_sound (List.nodup_singleton _) ?_ sampleEvidence rfl
  rintro _ rfl case isStored
  obtain rfl := List.mem_singleton.mp isStored
  decide +kernel

/-- Evidence that comes again does not get the same answer. The first delivery has
attached its documents to the case, so that the second one has nothing new for
it and files a record. -/
theorem evidence_is_answered_differently :
    let first := (sampleOffice.route sampleEvidence).run { peers := sampleBook }
    let second := (sampleOffice.route sampleEvidence).run first.2
    first.1.toOption = some { caseId := some 1, action := .attachedToCase } ∧
      second.1.toOption = some { caseId := some 1539007368674001, action := .recordFiled } ∧
      (bookView.cases second.2.peers).map (·.holds envelopePath sampleEvidence.id) = [true, false] ∧
      (bookView.cases second.2.peers).map (·.isOfType [Service.recordCaseType "bulkscan"]) =
        [false, true] := by
  decide +kernel

end Office
end Mailroom
