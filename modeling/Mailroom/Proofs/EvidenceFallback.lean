import Mailroom.Proofs.LegibleDocuments
import Mailroom.Proofs.OfficeWithPayments
import Mailroom.Proofs.Redelivery

/-!
# When evidence falls back to a record

Evidence that does not reach its case gets an exception record. Its case may not exist, may hold
all its documents already, or may refuse them, and whoever identifies the mail room may refuse to:
all of that leads to a record. This module says exactly what does not.

A piece of work leads from a run to another one with a value, or breaks off. Where parts of it
follow each other, it breaks off in one part after the parts before have led there. So what breaks
off the routing of evidence is found by going through its parts, on the very runs they are done on.
-/

namespace Mailroom

namespace Flow

variable {σ α β : Type} {work : Flow σ α} {next : α → Flow σ β} {run : Run σ} {failure : Failure}

/-- Work that comes to a value, with the run that it leaves. -/
def Leads (work : Flow σ α) (run : Run σ) (value : α) (after : Run σ) : Prop :=
  work.run run = (.ok value, after)

/-- Work that breaks off with a failure. -/
def Breaks (work : Flow σ α) (run : Run σ) (failure : Failure) : Prop :=
  (work.run run).1 = .error failure

/-- Of work that nothing is known of, nothing is assured. -/
theorem Assures.anyhow (work : Flow σ α) {before : σ → Prop} :
    work.Assures before (fun _ _ => True) (fun _ _ => True) := by
  intro run _
  cases (work.run run).1 <;> trivial

/-- One piece of work after another breaks off in the first, or in the second where the first
has led. -/
theorem bind_breaks : (work >>= next).Breaks run failure ↔ work.Breaks run failure ∨
    ∃ value after, work.Leads run value after ∧ (next value).Breaks after failure := by
  unfold Breaks Leads
  rw [bind_run]
  rcases work.run run with ⟨result, after⟩
  cases result with
  | ok value =>
    refine ⟨fun broken => .inr ⟨value, after, rfl, broken⟩, ?_⟩
    rintro (⟨⟨⟩⟩ | ⟨_, _, ⟨⟩, broken⟩)
    exact broken
  | error other =>
    refine ⟨fun broken => .inl (Except.error.inj broken ▸ rfl), ?_⟩
    rintro (broken | ⟨_, _, ⟨⟩, -⟩)
    exact Except.error.inj broken ▸ rfl

/-- What follows an attempt is done with its outcome, where it has ended. -/
theorem attempt_bind_breaks {next : Except Failure α → Flow σ β} :
    (attempt work >>= next).Breaks run failure ↔
      (next (work.run run).1).Breaks (work.run run).2 failure := by
  unfold Breaks
  rw [bind_run, attempt_run]

end Flow

/-- Whether a failure only says that there is no such case. -/
def Failure.isAbsence : Failure → Bool
  | .call (.caseNotFound _) | .call (.invalidReference _) => true
  | _ => false

namespace Office

open Mailroom.Flow

variable {σ : Type} {office : Office σ} {envelope : Envelope} {run : Run σ} {failure : Failure}

/-- The case that an envelope names is looked up in vain, unless there is no such case. -/
theorem findByReference_breaks : (office.findByReference envelope).Breaks run failure ↔
    ∃ reference, envelope.caseRef = some reference ∧ reference.isEmpty = false ∧
      (office.fetchCase (Text.trim reference) envelope.jurisdiction).Breaks run failure ∧
      failure.isAbsence = false := by
  unfold findByReference
  cases carried : envelope.caseRef with
  | none => exact ⟨nofun, nofun⟩
  | some reference =>
    dsimp only
    cases given : reference.isEmpty with
    | true =>
      refine ⟨nofun, ?_⟩
      rintro ⟨_, ⟨⟩, filled, -⟩
      cases given.symm.trans filled
    | false =>
      rw [if_neg Bool.false_ne_true, attempt_bind_breaks]
      constructor
      · intro broken
        split at broken
        case h_4 other notFound invalid ended =>
          obtain rfl := Except.error.inj broken
          refine ⟨reference, rfl, given, ended, ?_⟩
          unfold Failure.isAbsence
          split
          · exact (notFound _ rfl).elim
          · exact (invalid _ rfl).elim
          · rfl
        all_goals cases broken
      · rintro ⟨_, ⟨⟩, -, broken, otherwise⟩
        rw [show _ = _ from broken]
        split
        case h_1 same => cases same
        case h_2 same =>
          cases same
          cases otherwise
        case h_3 same =>
          cases same
          cases otherwise
        case h_4 same =>
          cases same
          rfl

/-- The search by a legacy reference breaks off, or the fetch of the one case that it finds. -/
theorem findByLegacyId_breaks {legacyRef : String} :
    (office.findByLegacyId envelope legacyRef).Breaks run failure ↔
      (office.casesByLegacyId legacyRef envelope.container).Breaks run failure ∨
        ∃ id after, (office.casesByLegacyId legacyRef envelope.container).Leads run [id] after ∧
          (office.fetchCase (Case.idText id) envelope.jurisdiction).Breaks after failure := by
  unfold findByLegacyId
  rw [bind_breaks]
  refine or_congr Iff.rfl ⟨?_, ?_⟩
  · rintro ⟨ids, after, found, broken⟩
    split at broken
    case h_1 => cases broken
    case h_2 id =>
      rw [map_eq_pure_bind, bind_breaks] at broken
      obtain broken | ⟨case, fetched, -, broken⟩ := broken
      · exact ⟨id, after, found, broken⟩
      · cases broken
    case h_3 => cases broken
  · rintro ⟨id, after, found, broken⟩
    refine ⟨[id], after, found, ?_⟩
    dsimp only
    rw [map_eq_pure_bind, bind_breaks]
    exact .inl broken

/-- The case of an envelope is not found out when the lookup by its reference breaks off, or the
one by its legacy reference after that has led nowhere. -/
theorem findCase_breaks : (office.findCase envelope).Breaks run failure ↔
    (office.findByReference envelope).Breaks run failure ∨
      ∃ after legacyRef, (office.findByReference envelope).Leads run none after ∧
        envelope.legacyCaseRef = some legacyRef ∧ legacyRef.isEmpty = false ∧
        (office.findByLegacyId envelope legacyRef).Breaks after failure := by
  unfold findCase
  rw [bind_breaks]
  refine or_congr Iff.rfl ⟨?_, ?_⟩
  · rintro ⟨found, after, led, broken⟩
    split at broken
    case h_1 => cases broken
    case h_2 =>
      split at broken
      case h_1 => cases broken
      case h_2 legacyRef carried =>
        split at broken
        case isTrue => cases broken
        case isFalse filled =>
          exact ⟨after, legacyRef, led, carried, Bool.eq_false_iff.mpr filled, broken⟩
  · rintro ⟨after, legacyRef, led, carried, filled, broken⟩
    refine ⟨none, after, led, ?_⟩
    dsimp only
    rw [carried]
    dsimp only
    rw [if_neg (Bool.eq_false_iff.mp filled)]
    exact broken

/-- What cuts off the attaching of evidence with a fault: the case as it was when the event was
started, or a collaborator that has the fault. -/
inductive CutsOff (office : Office σ) (envelope : Envelope) (fault : Fault) : Prop
  /-- The case cannot be supplemented as it was then. -/
  | snapshot {caller : CaseStore.Caller} {target : CaseStore.Target} {event : String} {state : σ}
      {started : StartedEvent}
      (answered : (office.peers.cases.start caller target event state).1.result = .ok started)
      (unreadable : office.evidenceData envelope started.case = .error fault)
  /-- The event cannot be started. -/
  | start {caller : CaseStore.Caller} {target : CaseStore.Target} {event : String} {state : σ}
      (faulty : (office.peers.cases.start caller target event state).1.result =
        .error (.faulty fault))
  /-- The submission cannot be made. -/
  | submit {caller : CaseStore.Caller} {target : CaseStore.Target} {submission : Submission}
      {state : σ}
      (faulty : (office.peers.cases.submit caller target submission state).1.result =
        .error (.faulty fault))
  /-- The system user cannot be logged in. -/
  | login {login : Login} {state : σ}
      (faulty : (office.peers.login login state).1.result = .error (.faulty fault))
  /-- The system user cannot be identified. -/
  | details {token : String} {state : σ}
      (faulty : (office.peers.userDetails token state).1.result = .error (.faulty fault))
  /-- No token can be leased. -/
  | lease {state : σ} (faulty : (office.peers.lease state).1.result = .error (.faulty fault))

/-- How attaching evidence may fail: with a refusal, which is answered with a record, or cut off. -/
def FailsToAttach (office : Office σ) (envelope : Envelope) (failure : Failure) : Prop :=
  isAttachmentRefusal failure = true ∨
    ∃ fault, failure = .faulty fault ∧ office.CutsOff envelope fault

/-- How a write may fail on the way, where the store's own failures are not refusals yet. -/
def FailsToWrite (office : Office σ) (envelope : Envelope) (failure : Failure) : Prop :=
  (∃ reason, failure = .store reason) ∨ office.FailsToAttach envelope failure

/-- A failed authentication is a refusal. -/
theorem failsToAttach_of_identity (ofKind : failure.IsOf .authentication)
    (faulty : ∀ fault, failure = .faulty fault → office.CutsOff envelope fault) :
    office.FailsToAttach envelope failure := by
  obtain ⟨reason, rfl⟩ | ⟨fault, rfl⟩ := ofKind
  · exact .inl rfl
  · exact .inr ⟨fault, rfl, faulty fault rfl⟩

/-- A failed call to the store is its own failure, or is cut off. -/
theorem failsToWrite_of_store (ofKind : failure.IsOf .store)
    (faulty : ∀ fault, failure = .faulty fault → office.CutsOff envelope fault) :
    office.FailsToWrite envelope failure := by
  obtain ⟨reason, rfl⟩ | ⟨fault, rfl⟩ := ofKind
  · exact .inl ⟨reason, rfl⟩
  · exact .inr (.inr ⟨fault, rfl, faulty fault rfl⟩)

/-- Nobody to log in, or a login that fails, is a refusal. -/
theorem credential_attaching (documented : office.peers.Documented) (jurisdiction : String) :
    (office.credential (some jurisdiction)).Confines (fun _ => True)
      (office.FailsToAttach envelope) := by
  refine credential_passes _ (fun _ _ _ => ⟨.inl rfl, trivial⟩) fun login => ?_
  refine Assures.bind (confines_of_kind fun state failure failed => ?_) fun token =>
    Assures.bind (confines_of_kind fun state failure failed => ?_) fun _ => Confines.pure _
  · exact failsToAttach_of_identity (documented.login login state failure failed)
      fun fault same => .login (same ▸ failed)
  · exact failsToAttach_of_identity (documented.details token state failure failed)
      fun fault same => .details (same ▸ failed)

/-- So is a lease that fails. -/
theorem caller_attaching (documented : office.peers.Documented) (userToken : String) :
    (office.caller userToken).Confines (fun _ => True) (office.FailsToAttach envelope) := by
  refine Confines.bind (confines_of_kind fun state failure failed => ?_) fun _ => Confines.pure _
  exact failsToAttach_of_identity (documented.lease state failure failed)
    fun fault same => .lease (same ▸ failed)

/-- Evidence is written, or the store fails to, unless what was drafted is cut off. -/
theorem write_attaching (documented : office.peers.Documented) (caller : CaseStore.Caller)
    (target : CaseStore.Target) (event context : String) :
    (office.write caller target event (office.evidenceDraft envelope) context).Confines
      (fun _ => True) (office.FailsToWrite envelope) := by
  refine Assures.through (fun started _ => ∃ state,
    (office.peers.cases.start caller target event state).1.result = .ok started)
    (Assures.ask _ fun state _ => ?_) fun started => Assures.after_log ?_
  · cases answered : (office.peers.cases.start caller target event state).1.result with
    | ok started => exact ⟨state, answered⟩
    | error failure =>
      exact ⟨failsToWrite_of_store (documented.start caller target event state failure answered)
        fun fault same => .start (same ▸ answered), trivial⟩
  refine Assures.through (fun _ _ => True) (Assures.lift _ ?_) fun submission =>
    confines_of_kind fun state failure failed => ?_
  · rintro - ⟨state, answered⟩
    unfold evidenceDraft
    split
    case h_1 => trivial
    case h_2 fault unreadable =>
      exact ⟨.inr (.inr ⟨fault, rfl, .snapshot answered unreadable⟩), trivial⟩
  · exact failsToWrite_of_store (documented.submit caller target submission state failure failed)
      fun fault same => .submit (same ▸ failed)

/-- Attaching evidence fails with a refusal, unless a fault cuts it off: what the store fails to
do is reported as a refusal of the call. -/
theorem attachTo_attaching (documented : office.peers.Documented) (case : Case) :
    (office.attachTo envelope case).Confines (fun _ => True) (office.FailsToAttach envelope) := by
  refine Assures.bind (credential_attaching documented _) fun credential => ?_
  have written : (office.writeAs credential envelope.jurisdiction case.caseType
      (some (Case.idText case.id)) EventName.attachScannedDocs (office.evidenceDraft envelope)
      (envelope.fileContext ++ " Case ref: " ++ Case.idText case.id)).Confines (fun _ => True)
      (office.FailsToWrite envelope) := by
    refine guarded_passes _ (Assures.bind ?_ fun caller => write_attaching documented caller _ _ _)
    exact (caller_attaching documented _).to_end (fun _ _ => id) fun _ _ => And.imp_left .inr
  refine Assures.attempting _ _ written fun outcome => ?_
  split
  · exact Assures.pure _ fun _ _ => trivial
  case h_2 =>
    split
    · exact Assures.fail _ fun _ _ => ⟨.inl rfl, trivial⟩
    · exact Assures.fail _ fun _ _ => ⟨.inl rfl, trivial⟩
  case h_3 failure unstored =>
    refine Assures.fail _ fun _ ⟨fails, _⟩ => ⟨fails.resolve_left ?_, trivial⟩
    rintro ⟨reason, rfl⟩
    exact unstored reason rfl

/-- Evidence is attached, or not, unless the documents of the case cannot be read or a fault cuts
the attaching off. -/
theorem attachEvidence_confines (documented : office.peers.Documented) (envelope : Envelope)
    (case : Case) :
    (office.attachEvidence envelope case).Confines (fun _ => True) fun failure =>
      ∃ fault, failure = .faulty fault ∧
        (Document.onCase (some case.data) = .error fault ∨ office.CutsOff envelope fault) := by
  refine Assures.through (fun _ _ => True) (Assures.reading _ fun _ _ => ?_) fun existing => ?_
  · cases isRead : Document.onCase (some case.data) with
    | ok existing => trivial
    | error fault => exact ⟨⟨fault, rfl, .inl rfl⟩, trivial⟩
  split
  · exact Assures.after_log (Assures.pure _ fun _ => id)
  · refine Assures.after_log (Assures.attempting _ _ (attachTo_attaching documented case)
      fun outcome => ?_)
    split
    · exact Assures.after_log (Assures.pure _ fun _ _ => trivial)
    case h_2 failure =>
      split
      case isTrue => exact Assures.after_log (Assures.pure _ fun _ _ => trivial)
      case isFalse unrefused =>
        refine Assures.fail _ fun _ ⟨ended, _⟩ => ⟨?_, trivial⟩
        obtain ⟨fault, same, cut⟩ := ended.resolve_left unrefused
        exact ⟨fault, same, .inr cut⟩

/-- The documents of a case that cannot be read break the attaching off. -/
theorem attachEvidence_breaks {case : Case} {fault : Fault}
    (unreadable : Document.onCase (some case.data) = .error fault) :
    (office.attachEvidence envelope case).Breaks run (.faulty fault) := by
  unfold attachEvidence
  rw [unreadable]
  rfl

/-- The case that evidence was attached to, if it was. -/
def tryEvidence (office : Office σ) (envelope : Envelope) : Flow σ (Option Case) := do
  match ← office.findCase envelope with
  | none => return none
  | some case =>
    if ← office.attachEvidence envelope case then return some case
    else
      Flow.log .info ("Creating exception record as supplementary evidence failed for envelope "
        ++ envelope.id ++ " case " ++ Case.idText case.id)
      return none

/-- What is left to do with evidence that was attached to a case, or to none. -/
def settleEvidence (office : Office σ) (envelope : Envelope) : Option Case → Flow σ Routed
  | some case => do
    office.registerPayments envelope case.id false
    return ⟨case.id, .attachedToCase⟩
  | none => office.routeToRecord envelope

/-- Evidence is tried on its case, and then settled. -/
theorem routeEvidence_eq : office.routeEvidence envelope =
    office.tryEvidence envelope >>= office.settleEvidence envelope := by
  unfold routeEvidence tryEvidence
  rw [bind_assoc]
  congr 1
  funext found
  cases found with
  | none => rw [pure_bind]; rfl
  | some case =>
    dsimp only
    rw [bind_assoc]
    congr 1
    funext attached
    cases attached with
    | true => simp only [if_true, pure_bind]; rfl
    | false =>
      simp only [Bool.false_eq_true, if_false, bind_assoc, pure_bind]
      rfl

/-- Trying evidence on its case breaks off when the case is not found out, or while the evidence
is attached to it. -/
theorem tryEvidence_breaks : (office.tryEvidence envelope).Breaks run failure ↔
    (office.findCase envelope).Breaks run failure ∨
      ∃ case found, (office.findCase envelope).Leads run (some case) found ∧
        (office.attachEvidence envelope case).Breaks found failure := by
  unfold tryEvidence
  rw [bind_breaks]
  refine or_congr Iff.rfl ⟨?_, ?_⟩
  · rintro ⟨found, after, led, broken⟩
    cases found with
    | none => cases broken
    | some case =>
      obtain broken | ⟨attached, _, -, broken⟩ := bind_breaks.mp broken
      · exact ⟨case, after, led, broken⟩
      · cases attached <;> cases broken
  · rintro ⟨case, found, led, broken⟩
    exact ⟨some case, found, led, bind_breaks.mpr (.inl broken)⟩

/-- What upsets the routing of evidence on a run, so that it ends with a failure. -/
inductive Upset (office : Office σ) (envelope : Envelope) (run : Run σ) (failure : Failure) : Prop
  /-- The lookup by the reference fails, and not because there is no such case. -/
  | lookup {reference : String} (carried : envelope.caseRef = some reference)
      (filled : reference.isEmpty = false)
      (broken : (office.fetchCase (Text.trim reference) envelope.jurisdiction).Breaks run failure)
      (otherwise : failure.isAbsence = false)
  /-- The search by the legacy reference fails. -/
  | search {unnamed : Run σ} {legacyRef : String}
      (led : (office.findByReference envelope).Leads run none unnamed)
      (carried : envelope.legacyCaseRef = some legacyRef) (filled : legacyRef.isEmpty = false)
      (broken : (office.casesByLegacyId legacyRef envelope.container).Breaks unnamed failure)
  /-- The one case that has the legacy reference cannot be fetched, even if only because there is
  no such case any more. -/
  | vanished {unnamed found : Run σ} {legacyRef : String} {id : Option Int}
      (led : (office.findByReference envelope).Leads run none unnamed)
      (carried : envelope.legacyCaseRef = some legacyRef) (filled : legacyRef.isEmpty = false)
      (hit : (office.casesByLegacyId legacyRef envelope.container).Leads unnamed [id] found)
      (broken : (office.fetchCase (Case.idText id) envelope.jurisdiction).Breaks found failure)
  /-- The documents of the case that was found cannot be read. -/
  | unreadable {case : Case} {found : Run σ} {fault : Fault}
      (led : (office.findCase envelope).Leads run (some case) found)
      (unreadable : Document.onCase (some case.data) = .error fault)
      (same : failure = .faulty fault)
  /-- A fault cuts the attaching off. -/
  | cutOff {case : Case} {found : Run σ} {fault : Fault}
      (led : (office.findCase envelope).Leads run (some case) found)
      (broken : (office.attachEvidence envelope case).Breaks found failure)
      (cut : office.CutsOff envelope fault) (same : failure = .faulty fault)
  /-- The payments cannot be registered against the case. -/
  | casePayments {case : Case} {attached : Run σ}
      (led : (office.tryEvidence envelope).Leads run (some case) attached)
      (broken : (office.registerPayments envelope case.id false).Breaks attached failure)
  /-- The record that is due cannot be searched for or filed. -/
  | record {due : Run σ} (led : (office.tryEvidence envelope).Leads run none due)
      (broken : (office.fileRecord envelope).Breaks due failure)
  /-- The payments cannot be registered against the record. -/
  | recordPayments {due filed : Run σ} {id : Option Int}
      (led : (office.tryEvidence envelope).Leads run none due)
      (files : (office.fileRecord envelope).Leads due id filed)
      (broken : (office.registerPayments envelope id true).Breaks filed failure)

/-- A record is due, and cannot be filed or have its payments registered. -/
theorem routeToRecord_breaks : (office.routeToRecord envelope).Breaks run failure ↔
    (office.fileRecord envelope).Breaks run failure ∨
      ∃ id filed, (office.fileRecord envelope).Leads run id filed ∧
        (office.registerPayments envelope id true).Breaks filed failure := by
  unfold routeToRecord
  rw [bind_breaks]
  refine or_congr Iff.rfl (exists_congr fun id => exists_congr fun filed => and_congr Iff.rfl ?_)
  rw [bind_breaks]
  exact ⟨fun broken => broken.resolve_right nofun, .inl⟩

/-- What breaks off the lookup upsets the routing. -/
theorem upset_of_findCase (broken : (office.findCase envelope).Breaks run failure) :
    office.Upset envelope run failure := by
  rw [findCase_breaks, findByReference_breaks] at broken
  obtain ⟨reference, carried, filled, broken, otherwise⟩ |
    ⟨unnamed, legacyRef, led, carried, filled, broken⟩ := broken
  · exact .lookup carried filled broken otherwise
  · obtain broken | ⟨id, found, hit, broken⟩ := findByLegacyId_breaks.mp broken
    · exact .search led carried filled broken
    · exact .vanished led carried filled hit broken

/-- So does what breaks off the attaching to the case that was found. -/
theorem upset_of_attachEvidence (documented : office.peers.Documented) {case : Case}
    {found : Run σ} (led : (office.findCase envelope).Leads run (some case) found)
    (broken : (office.attachEvidence envelope case).Breaks found failure) :
    office.Upset envelope run failure := by
  have ended := attachEvidence_confines documented envelope case found trivial
  rw [show _ = _ from broken] at ended
  obtain ⟨⟨fault, same, unreadable | cut⟩, -⟩ := ended
  · exact .unreadable led unreadable same
  · exact .cutOff led broken cut same

/-- And so does what breaks off the rest. -/
theorem upset_of_settleEvidence {tried : Option Case} {settled : Run σ}
    (led : (office.tryEvidence envelope).Leads run tried settled)
    (broken : (office.settleEvidence envelope tried).Breaks settled failure) :
    office.Upset envelope run failure := by
  cases tried with
  | some case => exact .casePayments led ((bind_breaks.mp broken).resolve_right nofun)
  | none =>
    obtain broken | ⟨id, filed, files, broken⟩ := routeToRecord_breaks.mp broken
    · exact .record led broken
    · exact .recordPayments led files broken

/-- Evidence is not routed exactly when something upsets it. -/
theorem routeEvidence_breaks (documented : office.peers.Documented) :
    (office.routeEvidence envelope).Breaks run failure ↔ office.Upset envelope run failure := by
  rw [routeEvidence_eq, bind_breaks, tryEvidence_breaks]
  constructor
  · rintro ((broken | ⟨case, found, led, broken⟩) | ⟨tried, settled, led, broken⟩)
    · exact upset_of_findCase broken
    · exact upset_of_attachEvidence documented led broken
    · exact upset_of_settleEvidence led broken
  · intro upset
    have unfound {unnamed : Run σ} {legacyRef : String}
        (led : (office.findByReference envelope).Leads run none unnamed)
        (carried : envelope.legacyCaseRef = some legacyRef) (filled : legacyRef.isEmpty = false)
        (broken : (office.findByLegacyId envelope legacyRef).Breaks unnamed failure) :
        (office.findCase envelope).Breaks run failure :=
      findCase_breaks.mpr (.inr ⟨unnamed, legacyRef, led, carried, filled, broken⟩)
    cases upset with
    | lookup carried filled broken otherwise =>
      have named := findByReference_breaks.mpr ⟨_, carried, filled, broken, otherwise⟩
      exact .inl (.inl (findCase_breaks.mpr (.inl named)))
    | search led carried filled broken =>
      exact .inl (.inl (unfound led carried filled (findByLegacyId_breaks.mpr (.inl broken))))
    | vanished led carried filled hit broken =>
      have gone := findByLegacyId_breaks.mpr (.inr ⟨_, _, hit, broken⟩)
      exact .inl (.inl (unfound led carried filled gone))
    | unreadable led unreadable same =>
      exact .inl (.inr ⟨_, _, led, same ▸ attachEvidence_breaks unreadable⟩)
    | cutOff led broken cut same => exact .inl (.inr ⟨_, _, led, broken⟩)
    | casePayments led broken => exact .inr ⟨_, _, led, bind_breaks.mpr (.inl broken)⟩
    | record led broken => exact .inr ⟨_, _, led, routeToRecord_breaks.mpr (.inl broken)⟩
    | recordPayments led files broken =>
      exact .inr ⟨_, _, led, routeToRecord_breaks.mpr (.inr ⟨_, _, files, broken⟩)⟩

/-- Evidence that is routed is attached to its case or leads to a record. -/
theorem routeEvidence_leads : (office.routeEvidence envelope).Assures (fun _ => True)
    (fun routed _ => routed.action = .attachedToCase ∨ routed.action = .recordFiled)
    (fun _ _ => True) := by
  rw [routeEvidence_eq]
  refine Assures.through (fun _ _ => True) (Assures.anyhow _) fun tried => ?_
  cases tried with
  | some case =>
    exact Assures.through (fun _ _ => True) (Assures.anyhow _) fun _ =>
      Assures.pure _ fun _ _ => .inl rfl
  | none =>
    refine Assures.through (fun _ _ => True) (Assures.anyhow _) fun _ => ?_
    exact Assures.through (fun _ _ => True) (Assures.anyhow _) fun _ =>
      Assures.pure _ fun _ _ => .inr rfl

/-- An envelope of evidence is routed as evidence. -/
theorem route_breaks (documented : office.peers.Documented)
    (evidence : envelope.classification.classification? = some .supplementaryEvidence) :
    (office.route envelope).Breaks run failure ↔ office.Upset envelope run failure := by
  unfold route
  rw [evidence]
  exact routeEvidence_breaks documented

/-- Evidence for a case whose documents are not legible is never routed, whatever is in it. -/
theorem evidence_for_illegible_case_fails (documented : office.peers.Documented)
    (evidence : envelope.classification.classification? = some .supplementaryEvidence)
    {case : Case} {found : Run σ} (led : (office.findCase envelope).Leads run (some case) found)
    (illegible : Document.legible case.data = false) :
    ∃ fault, (office.route envelope).Breaks run (.faulty fault) := by
  rw [← Document.onCase_isOk] at illegible
  cases isRead : Document.onCase (some case.data) with
  | ok documents =>
    rw [isRead] at illegible
    cases illegible
  | error fault =>
    exact ⟨fault, (route_breaks documented evidence).mpr (.unreadable led isRead rfl)⟩

/-- Evidence falls back to a record. Its routing ends with a failure exactly when something upsets
it, and otherwise with its documents on the case or with a record. So neither a case that does not
exist nor any refusal while the documents are attached keeps it from a record. What does is: a
lookup that fails in any other way, or in any way at all once the legacy reference has led to a
case; a case whose documents cannot be read; a fault that cuts the attaching off; and whatever
keeps the record from being filed or the payments from being registered.

Proof: the routing breaks off in one of its parts, on the run that the parts before it have led to.
All that attaching fails with is a refusal, unless it is a fault; the store's own failures are
turned into refusals on their way out. -/
theorem evidence_falls_back_unless_upset (documented : office.peers.Documented)
    (evidence : envelope.classification.classification? = some .supplementaryEvidence)
    (run : Run σ) :
    let ended := (office.route envelope).run run
    (∀ failure, ended.1 = .error failure ↔ office.Upset envelope run failure) ∧
      ((∀ failure, ¬ office.Upset envelope run failure) → ∃ routed, ended.1 = .ok routed ∧
        (routed.action = .attachedToCase ∨ routed.action = .recordFiled)) := by
  intro ended
  have breaks (failure : Failure) : ended.1 = .error failure ↔ office.Upset envelope run failure :=
    route_breaks documented evidence
  have routed : (office.route envelope).Assures (fun _ => True)
      (fun routed _ => routed.action = .attachedToCase ∨ routed.action = .recordFiled)
      (fun _ _ => True) := by
    unfold route
    rw [evidence]
    exact routeEvidence_leads
  have ends := routed run trivial
  refine ⟨breaks, fun calm => ?_⟩
  change Ending _ _ ended.1 ended.2.peers at ends
  revert ends
  cases result : ended.1 with
  | ok routed => exact fun attachedOrFiled => ⟨routed, rfl, attachedOrFiled⟩
  | error failure => exact absurd ((breaks failure).mp result) (calm failure)

open Simulation

/-- A mail room for the sample service whose store refuses the next start of an update. -/
def refusingPayments : PaymentsBook where
  book := { sampleBook with failures := [(.startUpdate, .status (some 503))] }

/-- Evidence that the store refuses leads to a record, and nothing has upset it. -/
theorem refused_evidence_is_filed :
    let run : Run PaymentsBook := { peers := refusingPayments }
    let office := PaymentsBook.office (.ok sampleAnswer)
    (∃ routed, ((office.route sampleEvidence).run run).1 = .ok routed ∧
      routed.action = .recordFiled) ∧
      ∀ failure, ¬ office.Upset sampleEvidence run failure := by
  intro run office
  have documented : office.peers.Documented := PaymentsBook.peers_documented _ fun _ => nofun
  have shown : ((office.route sampleEvidence).run run).1.toOption.any
      (·.action == .recordFiled) = true := by
    decide +kernel
  obtain ⟨routed, answered, filed⟩ := ok_of_any shown
  have evidence : sampleEvidence.classification.classification? = some .supplementaryEvidence := rfl
  obtain ⟨breaks, -⟩ := evidence_falls_back_unless_upset documented evidence run
  refine ⟨⟨routed, answered, eq_of_beq filed⟩, fun failure upset => ?_⟩
  cases answered.symm.trans ((breaks failure).mpr upset)

/-- Evidence for the case of the sample by its legacy reference. -/
def legacyEvidence : Envelope :=
  { sampleEvidence with caseRef := none, legacyCaseRef := some "legacy" }

/-- A store whose case has the legacy reference, but is gone when it is fetched. -/
def vanishingCase : PaymentsBook where
  book := { sampleBook with
    legacyIds := [(1, "legacy")], failures := [(.fetch, .status (some 404))] }

/-- A store whose case has a document with a date that is none. -/
def illegibleDate : PaymentsBook where
  book := { cases := [(1, {
    id := some 1
    caseType := .str "Bulk_Scanned"
    data := [(CaseField.scannedDocuments,
      .arr [OpenData.element [("scannedDate", .str "yesterday")]])] })] }

/-- Evidence gets no record when its case vanishes between the search and the fetch, although the
failure only says so, nor when a date on its case cannot be read. -/
theorem evidence_is_left_without_record :
    let office := PaymentsBook.office (.ok sampleAnswer)
    (∃ failure, ((office.route legacyEvidence).run { peers := vanishingCase }).1 = .error failure ∧
      failure.isAbsence = true) ∧
      ∃ failure, ((office.route sampleEvidence).run { peers := illegibleDate }).1 =
        .error failure ∧ isAttachmentRefusal failure = false := by
  intro office
  constructor
  · have shown : (failureOf? ((office.route legacyEvidence).run { peers := vanishingCase }).1).any
        Failure.isAbsence = true := by
      decide +kernel
    exact error_of_any shown
  · have shown : (failureOf? ((office.route sampleEvidence).run { peers := illegibleDate }).1).any
        (!isAttachmentRefusal ·) = true := by
      decide +kernel
    obtain ⟨failure, failed, unrefused⟩ := error_of_any shown
    exact ⟨failure, failed, by simpa using unrefused⟩

end Office
end Mailroom
