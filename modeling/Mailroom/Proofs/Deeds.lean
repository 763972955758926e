import Mailroom.Callback.Process
import Mailroom.Proofs.AttachedDocuments
import Mailroom.Proofs.StoreAccess
import Mathlib.Data.List.Nodup
import Mathlib.Logic.Relation

/-!
# Deeds

What the mail room can do to the stored cases, said once: create a case from a
new application, attach evidence to a case, file a record, and open a case for a
caseworker. Each deed comes with what was known when it was done, above all
that a search had found no case or record of the kind, and with the marks that
it leaves. What follows for whole deliveries and runs is derived from this list
alone.
-/

namespace Mailroom

/-- The cases can be told apart by their identities. -/
def Distinct (stored : List Case) : Prop :=
  (stored.map (·.id)).Nodup

/-- A case under an identity that no stored case has. -/
structure Case.New (stored : List Case) (case : Case) : Prop where
  named : case.id.isSome
  fresh : ∀ other ∈ stored, other.id ≠ case.id

namespace Office

variable {σ : Type} (office : Office σ)

/-- A case is created from a new application. -/
structure Creates (envelope : Envelope) (service : Service) (stored : List Case) (case : Case) :
    Prop where
  isNew : case.New stored
  application : envelope.classification.classification? = some .newApplication
  known : office.services.get (some envelope.container) = .ok service
  allowed : service.createsCasesAutomatically = true
  ofService : case.isOfType service.caseTypes = true
  unfound : hits stored service.caseTypes envelopePath envelope.id = []
  marked : case.data.get? CaseField.bulkScanEnvelopes =
    some (.arr (EnvelopeReference.single (.str envelope.id) (.str EnvelopeEffect.create.text)))

/-- The evidence of an envelope is attached to the case of an identity. -/
structure Attaches (envelope : Envelope) (id : Option Int) (stored after : List Case) : Prop where
  evidence : envelope.classification.classification? = some .supplementaryEvidence
  done : List.Forall₂ (fun old new =>
    if old.id = id then Case.Supplemented office.documents envelope old new else new = old)
    stored after

/-- A record is filed for an envelope. -/
structure Files (envelope : Envelope) (stored : List Case) (case : Case) : Prop where
  isNew : case.New stored
  caseType : case.caseType = .str (Service.recordCaseType envelope.container)
  unfound : ',' ∉ (Service.recordCaseType envelope.container).toList →
    hits stored [Service.recordCaseType envelope.container] recordEnvelopePath envelope.id = []
  marked : case.data.get? CaseField.envelopeId = some (.str envelope.id)
  unmarked : case.data.get? CaseField.bulkScanEnvelopes = none

/-- A case is opened for a caseworker from a record. -/
structure Opens (record : ExceptionRecord) (service : Service) (stored : List Case) (case : Case) :
    Prop where
  isNew : case.New stored
  ofService : case.isOfType service.caseTypes = true
  unfound : hits stored service.caseTypes caseRecordPath record.id = []
  marked : case.data.get? CaseField.bulkScanCaseReference = some (.str record.id)
  referred : record.envelopeId.isVacant = false →
    office.services.recordsEnvelopes service.name = true →
    case.data.get? CaseField.bulkScanEnvelopes =
      some (.arr (EnvelopeReference.single record.envelopeId (.str EnvelopeEffect.create.text)))

/-- One thing that is done to the stored cases for an envelope. -/
inductive Deed (envelope : Envelope) (stored : List Case) : List Case → Prop
  | created {service : Service} {case : Case} (deed : office.Creates envelope service stored case) :
      Deed envelope stored (stored ++ [case])
  | attached {id : Option Int} {after : List Case} (deed : office.Attaches envelope id stored after) :
      Deed envelope stored after
  | filed {case : Case} (deed : Files envelope stored case) : Deed envelope stored (stored ++ [case])

/-- All that is done for an envelope in turn. -/
abbrev Deeds (envelope : Envelope) : List Case → List Case → Prop :=
  Relation.ReflTransGen (office.Deed envelope)

variable {office} {envelope : Envelope} {stored after : List Case}

/-- A case after a deed is a stored one, perhaps with evidence attached, or it is
the one that the deed has added. -/
inductive Descends (office : Office σ) (envelope : Envelope) (stored : List Case) (new : Case) : Prop
  | kept (isStored : new ∈ stored)
  | supplemented (old : Case) (isStored : old ∈ stored)
      (evidence : envelope.classification.classification? = some .supplementaryEvidence)
      (changed : Case.Supplemented office.documents envelope old new)
  | created (service : Service) (deed : office.Creates envelope service stored new)
  | filed (deed : Files envelope stored new)

/-- Cases that change one by one, but not in identity, have the same identities. -/
theorem ids_of_forall₂ {changed : Case → Case → Prop} (changes : List.Forall₂ changed stored after)
    (same : ∀ old new, changed old new → new.id = old.id) :
    after.map (·.id) = stored.map (·.id) := by
  induction changes with
  | nil => rfl
  | cons change _ inductionHypothesis =>
    rw [List.map_cons, List.map_cons, inductionHypothesis, same _ _ change]

/-- Cases that change one by one, but not in kind, stay as many of a kind. -/
theorem length_filter_of_forall₂ {changed : Case → Case → Prop} {kind : Case → Bool}
    (changes : List.Forall₂ changed stored after)
    (same : ∀ old new, changed old new → kind new = kind old) :
    (after.filter kind).length = (stored.filter kind).length := by
  induction changes with
  | nil => rfl
  | cons change _ inductionHypothesis =>
    rw [List.filter_cons, List.filter_cons, same _ _ change]
    split
    · rw [List.length_cons, List.length_cons, inductionHypothesis]
    · exact inductionHypothesis

/-- A case after a deed descends from the stored ones. -/
theorem Deed.descends (deed : office.Deed envelope stored after) :
    ∀ new ∈ after, office.Descends envelope stored new := by
  intro new isNew
  cases deed with
  | @created service case deed =>
    rcases List.mem_append.mp isNew with before | added
    · exact .kept before
    · exact .created service (List.mem_singleton.mp added ▸ deed)
  | @filed case deed =>
    rcases List.mem_append.mp isNew with before | added
    · exact .kept before
    · exact .filed (List.mem_singleton.mp added ▸ deed)
  | @attached id after deed =>
    obtain ⟨old, isOld, change⟩ := source_of_forall₂ deed.done new isNew
    split at change
    · exact .supplemented old isOld deed.evidence change
    · exact .kept (change ▸ isOld)

end Office

/-- What a deed leaves of a stored case: all of its references to envelopes, the
documents that it carries, and every other member. -/
structure Case.Continues (old new : Case) : Prop where
  id : new.id = old.id
  caseType : new.caseType = old.caseType
  references : ∀ envelopeId effect, old.Refers envelopeId effect → new.Refers envelopeId effect
  carried : ∀ documents, Document.Carried documents old.data → Document.Carried documents new.data
  others : ∀ name, name ≠ CaseField.scannedDocuments → name ≠ CaseField.bulkScanEnvelopes →
    new.data.get? name = old.data.get? name

/-- A case that nothing was done to. -/
theorem Case.Continues.refl (case : Case) : case.Continues case :=
  ⟨rfl, rfl, fun _ _ refers => refers, fun _ carried => carried, fun _ _ _ => rfl⟩

/-- One stretch after another. -/
theorem Case.Continues.trans {first second third : Case} (earlier : first.Continues second)
    (later : second.Continues third) : first.Continues third where
  id := later.id.trans earlier.id
  caseType := later.caseType.trans earlier.caseType
  references envelopeId effect refers :=
    later.references envelopeId effect (earlier.references envelopeId effect refers)
  carried documents carries := later.carried documents (earlier.carried documents carries)
  others name notDocuments notReferences :=
    (later.others name notDocuments notReferences).trans
      (earlier.others name notDocuments notReferences)

/-- Attached evidence is such a stretch. -/
theorem Case.Supplemented.continues {store : Document.Store} {envelope : Envelope} {old new : Case}
    (done : Case.Supplemented store envelope old new) : old.Continues new :=
  ⟨done.id, done.caseType, fun _ _ => done.keeps_reference, fun _ => done.keeps_carried, done.others⟩

/-- Every stored case goes on under the same identity. -/
def Persists (stored after : List Case) : Prop :=
  ∀ old ∈ stored, ∃ new ∈ after, old.Continues new

namespace Office

variable {σ : Type} {office : Office σ} {envelope : Envelope} {stored after : List Case}

/-- A deed loses no case. -/
theorem Deed.persists (deed : office.Deed envelope stored after) : Persists stored after := by
  intro old isOld
  cases deed with
  | created => exact ⟨old, List.mem_append_left _ isOld, .refl old⟩
  | filed => exact ⟨old, List.mem_append_left _ isOld, .refl old⟩
  | @attached id after deed =>
    obtain ⟨new, isNew, change⟩ := target_of_forall₂ deed.done old isOld
    split at change
    · exact ⟨new, isNew, change.continues⟩
    · exact ⟨new, isNew, change ▸ .refl new⟩

/-- No deeds lose a case. -/
theorem Deeds.persists (deeds : office.Deeds envelope stored after) : Persists stored after := by
  induction deeds with
  | refl => exact fun old isOld => ⟨old, isOld, .refl old⟩
  | tail _ deed inductionHypothesis =>
    intro old isOld
    obtain ⟨middle, isMiddle, earlier⟩ := inductionHypothesis old isOld
    obtain ⟨new, isNew, later⟩ := deed.persists middle isMiddle
    exact ⟨new, isNew, earlier.trans later⟩

/-- A new case can be told from the stored ones. -/
theorem distinct_append {case : Case} (distinct : Distinct stored) (isNew : case.New stored) :
    Distinct (stored ++ [case]) := by
  unfold Distinct at distinct ⊢
  rw [List.map_append, List.nodup_append]
  refine ⟨distinct, by simp, fun id isOld other isOther => ?_⟩
  obtain ⟨old, isStored, rfl⟩ := List.mem_map.mp isOld
  obtain rfl : other = case.id := by simpa using isOther
  exact isNew.fresh old isStored

/-- A deed leaves the cases distinct. -/
theorem Deed.distinct (deed : office.Deed envelope stored after) (distinct : Distinct stored) :
    Distinct after := by
  cases deed with
  | created deed => exact distinct_append distinct deed.isNew
  | filed deed => exact distinct_append distinct deed.isNew
  | @attached id after deed =>
    have same : after.map (·.id) = stored.map (·.id) := by
      refine ids_of_forall₂ deed.done fun old new change => ?_
      split at change
      · exact change.id
      · rw [change]
    unfold Distinct
    rwa [same]

/-- Deeds leave the cases distinct. -/
theorem Deeds.distinct (deeds : office.Deeds envelope stored after) (distinct : Distinct stored) :
    Distinct after := by
  induction deeds with
  | refl => exact distinct
  | tail _ deed inductionHypothesis => exact deed.distinct inductionHypothesis

end Office
end Mailroom
