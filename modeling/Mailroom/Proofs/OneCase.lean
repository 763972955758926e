import Mailroom.Proofs.RoutingDeeds

/-!
# One case and one record

Among the stored cases one envelope has at most one case that was created from
it and at most one record. Neither follows from what is stored alone, so the
invariant says more: every case that a search for a new application finds is of
its service and names the application as its origin, and every record of the
envelope is of the type that a search for it goes through. Deeds for other
envelopes keep this because their marks name other envelopes, those for the
envelope itself because its searches found nothing.
-/

namespace Mailroom

/-- The stored cases with a property are one and the same case. -/
def AtMostOne (property : Case → Prop) (stored : List Case) : Prop :=
  ∀ first ∈ stored, ∀ second ∈ stored, property first → property second → first.id = second.id

/-- Whether a case is an exception record of an envelope. -/
def Case.IsRecordOf (envelopeId : String) (case : Case) : Prop :=
  (∃ name, case.caseType = .str (Service.recordCaseType name)) ∧
    case.holds recordEnvelopePath envelopeId = true

namespace AtMostOne

variable {property : Case → Prop} {stored after : List Case}

/-- Another case may be added when it or all others lack the property. -/
theorem append {case : Case} (one : AtMostOne property stored)
    (alone : property case → ∀ other ∈ stored, ¬property other) :
    AtMostOne property (stored ++ [case]) := by
  intro first isFirst second isSecond firstHas secondHas
  rcases List.mem_append.mp isFirst with firstOld | firstNew <;>
    rcases List.mem_append.mp isSecond with secondOld | secondNew
  · exact one first firstOld second secondOld firstHas secondHas
  · obtain rfl := List.mem_singleton.mp secondNew
    exact absurd firstHas (alone secondHas first firstOld)
  · obtain rfl := List.mem_singleton.mp firstNew
    exact absurd secondHas (alone firstHas second secondOld)
  · rw [List.mem_singleton.mp firstNew, List.mem_singleton.mp secondNew]

/-- Cases that change gain no second one with the property when none gains it. -/
theorem of_sources (one : AtMostOne property stored)
    (source : ∀ new ∈ after, property new → ∃ old ∈ stored, new.id = old.id ∧ property old) :
    AtMostOne property after := by
  intro first isFirst second isSecond firstHas secondHas
  obtain ⟨former, isFormer, sameFirst, formerHas⟩ := source first isFirst firstHas
  obtain ⟨latter, isLatter, sameSecond, latterHas⟩ := source second isSecond secondHas
  rw [sameFirst, sameSecond]
  exact one former isFormer latter isLatter formerHas latterHas

end AtMostOne

namespace Office

variable {σ : Type} {office : Office σ} {envelope other : Envelope} {stored after : List Case}

/-- A deed makes no second case with a property that evidence does not give and
that is only given to a new case where no stored one has it. -/
theorem Deed.atMostOne {property : Case → Prop} (deed : office.Deed other stored after)
    (one : AtMostOne property stored)
    (supplemented : ∀ old new, other.classification.classification? = some .supplementaryEvidence →
      Case.Supplemented office.documents other old new → property new → property old)
    (created : ∀ service case, office.Creates other service stored case → property case →
      ∀ old ∈ stored, ¬property old)
    (filed : ∀ case, Files other stored case → property case → ∀ old ∈ stored, ¬property old) :
    AtMostOne property after := by
  cases deed with
  | created deed => exact one.append (created _ _ deed)
  | filed deed => exact one.append (filed _ deed)
  | attached deed =>
    refine one.of_sources fun new isNew has => ?_
    obtain ⟨old, isOld, change⟩ := source_of_forall₂ deed.done new isNew
    split at change
    · exact ⟨old, isOld, change.id, supplemented old new deed.evidence change has⟩
    · exact ⟨old, isOld, congrArg Case.id change, change ▸ has⟩

/-- The stored records of an envelope are in order. -/
structure RecordsInOrder (envelope : Envelope) (stored : List Case) : Prop where
  record_type : ∀ case ∈ stored, case.IsRecordOf envelope.id →
    case.caseType = .str (Service.recordCaseType envelope.container)
  record_mark : ∀ case ∈ stored, case.IsRecordOf envelope.id →
    case.data.get? CaseField.envelopeId = some (.str envelope.id)
  one_record : ',' ∉ (Service.recordCaseType envelope.container).toList →
    AtMostOne (Case.IsRecordOf envelope.id) stored

/-- What is stored of an envelope is in order. -/
structure Orderly (office : Office σ) (envelope : Envelope) (stored : List Case) : Prop
    extends RecordsInOrder envelope stored where
  found : envelope.classification.classification? = some .newApplication →
    ∀ case ∈ stored, case.holds envelopePath envelope.id = true →
      case.Refers envelope.id .create ∧ ∃ service,
        office.services.get (some envelope.container) = .ok service ∧
        service.createsCasesAutomatically = true ∧ case.isOfType service.caseTypes = true
  one_found : envelope.classification.classification? = some .newApplication →
    AtMostOne (fun case => case.holds envelopePath envelope.id = true) stored
  uncreated : envelope.classification.classification? ≠ some .newApplication →
    ∀ case ∈ stored, ¬case.Refers envelope.id .create
  unsupplemented : envelope.classification.classification? ≠ some .supplementaryEvidence →
    ∀ case ∈ stored, ¬case.Refers envelope.id .update

/-- Nothing that is stored names an envelope. -/
def Unreferenced (envelopeId : String) (stored : List Case) : Prop :=
  ∀ case ∈ stored, case.holds envelopePath envelopeId = false ∧
    case.holds recordEnvelopePath envelopeId = false

/-- Where nothing names an envelope, there is no record of it. -/
theorem not_record_of_unreferenced (unreferenced : Unreferenced envelope.id stored) {case : Case}
    (isStored : case ∈ stored) : ¬case.IsRecordOf envelope.id := by
  intro isRecord
  have holds := isRecord.2
  simp [unreferenced case isStored] at holds

/-- Where nothing names an envelope, its records are in order. -/
theorem RecordsInOrder.of_unreferenced (unreferenced : Unreferenced envelope.id stored) :
    RecordsInOrder envelope stored where
  record_type _ isStored isRecord :=
    absurd isRecord (not_record_of_unreferenced unreferenced isStored)
  record_mark _ isStored isRecord :=
    absurd isRecord (not_record_of_unreferenced unreferenced isStored)
  one_record _ _ isFirst _ _ isRecord _ :=
    absurd isRecord (not_record_of_unreferenced unreferenced isFirst)

/-- Where nothing names an envelope, everything is in order. -/
theorem Orderly.of_unreferenced (unreferenced : Unreferenced envelope.id stored) :
    office.Orderly envelope stored where
  toRecordsInOrder := .of_unreferenced unreferenced
  found _ case isStored holds := by simp [unreferenced case isStored] at holds
  one_found _ first isFirst _ _ holds _ := by simp [unreferenced first isFirst] at holds
  uncreated _ case isStored refers := by
    have holds := Case.holds_of_refers refers
    simp [unreferenced case isStored] at holds
  unsupplemented _ case isStored refers := by
    have holds := Case.holds_of_refers refers
    simp [unreferenced case isStored] at holds

/-- A case that is created is found for its own envelope only. -/
theorem Creates.key_eq {service : Service} {case : Case} {key : String}
    (created : office.Creates other service stored case)
    (holds : case.holds envelopePath key = true) : key = other.id :=
  Case.holds_single created.marked holds

/-- A case of a configured service is of no type that exception records have. -/
theorem caseType_ne_record (configured : WellConfigured office.services) {service : Service}
    {name : Option String} (known : office.services.get name = .ok service) {case : Case}
    (ofService : case.isOfType service.caseTypes = true) (container : String) :
    case.caseType ≠ .str (Service.recordCaseType container) := by
  intro isRecordType
  unfold Case.isOfType at ofService
  rw [isRecordType] at ofService
  exact configured.ordinary _ _ known _ (by simpa using ofService) container rfl

/-- A case that is created is no record. -/
theorem Creates.not_record {service : Service} {case : Case} {key : String}
    (configured : WellConfigured office.services)
    (created : office.Creates other service stored case) : ¬case.IsRecordOf key :=
  fun ⟨⟨container, isRecordType⟩, _⟩ =>
    caseType_ne_record configured created.known created.ofService container isRecordType

/-- A record that is filed is found by no search for cases of envelopes. -/
theorem Files.not_found {case : Case} {key : String} (filed : Files other stored case) :
    ¬case.holds envelopePath key = true := by
  intro holds
  obtain ⟨value, found, -⟩ := Case.holds_iff.mp holds
  cases filed.unmarked.symm.trans found

/-- A record that is filed is one of its own envelope only. -/
theorem Files.key_eq {case : Case} {key : String} (filed : Files other stored case)
    (isRecord : case.IsRecordOf key) : key = other.id := by
  obtain ⟨value, found, holds⟩ := Case.holds_iff.mp isRecord.2
  obtain rfl : Json.str other.id = value := Option.some.inj (filed.marked.symm.trans found)
  have same : other.id = key := by simpa [Simulation.CaseBook.holds] using holds
  exact same.symm

/-- Attached evidence makes no case a record and no record a case. -/
theorem isRecordOf_supplemented {store : Document.Store} {old new : Case} {key : String}
    (changed : Case.Supplemented store other old new) :
    new.IsRecordOf key ↔ old.IsRecordOf key := by
  unfold Case.IsRecordOf recordEnvelopePath
  rw [changed.caseType, changed.holds_other (by decide) (by decide)]

/-- The records of an envelope stay in order under deeds for any envelope that is it
or has another identity. -/
theorem RecordsInOrder.deed (configured : WellConfigured office.services)
    (apart : other.id = envelope.id → other = envelope) (records : RecordsInOrder envelope stored)
    (deed : office.Deed other stored after) : RecordsInOrder envelope after where
  record_type new isNew isRecord := by
    cases deed.descends new isNew with
    | kept isStored => exact records.record_type new isStored isRecord
    | supplemented old isStored evidence changed =>
      rw [changed.caseType]
      exact records.record_type old isStored ((isRecordOf_supplemented changed).mp isRecord)
    | created service created => exact absurd isRecord (created.not_record configured)
    | filed filed =>
      obtain rfl := apart (filed.key_eq isRecord).symm
      exact filed.caseType
  record_mark new isNew isRecord := by
    cases deed.descends new isNew with
    | kept isStored => exact records.record_mark new isStored isRecord
    | supplemented old isStored evidence changed =>
      rw [changed.others _ (by decide) (by decide)]
      exact records.record_mark old isStored ((isRecordOf_supplemented changed).mp isRecord)
    | created service created => exact absurd isRecord (created.not_record configured)
    | filed filed =>
      obtain rfl := apart (filed.key_eq isRecord).symm
      exact filed.marked
  one_record whole := by
    refine deed.atMostOne (records.one_record whole) ?_ ?_ ?_
    · exact fun old new _ changed isRecord => (isRecordOf_supplemented changed).mp isRecord
    · exact fun service case created isRecord => absurd isRecord (created.not_record configured)
    · intro case filed isRecord old isStored oldIsRecord
      obtain rfl := apart (filed.key_eq isRecord).symm
      have itsType := records.record_type old isStored oldIsRecord
      have isHit : old ∈ hits stored [Service.recordCaseType other.container] recordEnvelopePath
          other.id :=
        List.mem_filter.mpr ⟨isStored, by simp [Case.isOfType, itsType, oldIsRecord.2]⟩
      rw [filed.unfound whole] at isHit
      cases isHit

/-- An application has at most one case that a search for it finds, and keeps it
under deeds for any envelope that is it or has another identity. -/
theorem Orderly.deed (configured : WellConfigured office.services)
    (apart : other.id = envelope.id → other = envelope) (orderly : office.Orderly envelope stored)
    (deed : office.Deed other stored after) : office.Orderly envelope after where
  toRecordsInOrder := orderly.toRecordsInOrder.deed configured apart deed
  found application new isNew holds := by
    cases deed.descends new isNew with
    | kept isStored => exact orderly.found application new isStored holds
    | supplemented old isStored evidence changed =>
      rcases changed.holds_before holds with before | same
      · obtain ⟨refers, service, known, allowed, isOfType⟩ :=
          orderly.found application old isStored before
        refine ⟨changed.keeps_reference refers, service, known, allowed, ?_⟩
        simpa [Case.isOfType, changed.caseType] using isOfType
      · rw [← apart same.symm, evidence] at application
        cases application
    | created service created =>
      obtain rfl := apart (created.key_eq holds).symm
      exact ⟨(Case.refers_single created.marked).mpr ⟨rfl, rfl⟩, service, created.known,
        created.allowed, created.ofService⟩
    | filed filed => exact absurd holds filed.not_found
  one_found application := by
    refine deed.atMostOne (orderly.one_found application) ?_ ?_ ?_
    · intro old new evidence changed holds
      refine (changed.holds_before holds).resolve_right fun same => ?_
      rw [← apart same.symm, evidence] at application
      cases application
    · intro service case created holds old isStored oldHolds
      obtain rfl := apart (created.key_eq holds).symm
      obtain ⟨-, itsService, known, -, isOfType⟩ := orderly.found application old isStored oldHolds
      obtain rfl : service = itsService := Except.ok.inj (created.known.symm.trans known)
      have isHit : old ∈ hits stored service.caseTypes envelopePath other.id :=
        List.mem_filter.mpr ⟨isStored, by simp [isOfType, oldHolds]⟩
      rw [created.unfound] at isHit
      cases isHit
    · exact fun case filed holds => absurd holds filed.not_found
  uncreated otherClass new isNew refers := by
    cases deed.descends new isNew with
    | kept isStored => exact orderly.uncreated otherClass new isStored refers
    | supplemented old isStored evidence changed =>
      rcases changed.reference_before refers with before | ⟨-, impossible⟩
      · exact orderly.uncreated otherClass old isStored before
      · cases impossible
    | created service created =>
      obtain rfl := apart (created.key_eq (Case.holds_of_refers refers)).symm
      exact otherClass created.application
    | filed filed => exact absurd (Case.holds_of_refers refers) filed.not_found
  unsupplemented otherClass new isNew refers := by
    cases deed.descends new isNew with
    | kept isStored => exact orderly.unsupplemented otherClass new isStored refers
    | supplemented old isStored evidence changed =>
      rcases changed.reference_before refers with before | ⟨same, -⟩
      · exact orderly.unsupplemented otherClass old isStored before
      · exact otherClass (apart same.symm ▸ evidence)
    | created service created => cases ((Case.refers_single created.marked).mp refers).2
    | filed filed => exact absurd (Case.holds_of_refers refers) filed.not_found

/-- Deeds leave the records in order. -/
theorem RecordsInOrder.deeds (configured : WellConfigured office.services)
    (apart : other.id = envelope.id → other = envelope) (records : RecordsInOrder envelope stored)
    (deeds : office.Deeds other stored after) : RecordsInOrder envelope after := by
  induction deeds with
  | refl => exact records
  | tail _ deed inductionHypothesis => exact inductionHypothesis.deed configured apart deed

/-- Deeds leave everything in order. -/
theorem Orderly.deeds (configured : WellConfigured office.services)
    (apart : other.id = envelope.id → other = envelope) (orderly : office.Orderly envelope stored)
    (deeds : office.Deeds other stored after) : office.Orderly envelope after := by
  induction deeds with
  | refl => exact orderly
  | tail _ deed inductionHypothesis => exact inductionHypothesis.deed configured apart deed

end Office
end Mailroom
