import Mailroom.Routing.Evidence
import Mailroom.Proofs.StoreAccess

/-!
# What a worker says to the case store

A worker that attaches evidence starts an event and submits what it drafted from
the answer, at most once each. All that its collaborators know of it is what was
said so far, so their answers may be any at all: every exchange with the case
store that writes is recorded with its answer, every other question as an aside.

A worker answers that it attached the documents exactly when its submission was
accepted, and that submission was drafted from the answer to its start.
-/

namespace Mailroom

open Mailroom.Flow

/-- An exchange of a worker with its collaborators. -/
inductive Exchange where
  /-- An event was started, with this answer. -/
  | start (target : CaseStore.Target) (answer : Except Failure StartedEvent)
  /-- Something was submitted, with this answer. -/
  | submit (target : CaseStore.Target) (submission : Submission) (answer : Except Failure Case)
  /-- Something else was asked. -/
  | aside

namespace Exchange

/-- Whether something was submitted and accepted. -/
def isAccepted : Exchange → Bool
  | .submit _ _ (.ok _) => true
  | _ => false

/-- A question that is recorded as an aside. -/
def beside {α : Type} (question : Ask (List Exchange) α) : Ask (List Exchange) α :=
  fun said => ((question said).1, said ++ [.aside])

end Exchange

/-- Collaborators that answer from what was said so far, and remember all of it. -/
def Peers.recorded (peers : Peers (List Exchange)) : Peers (List Exchange) where
  cases := {
    search := fun caller types query => Exchange.beside (peers.cases.search caller types query)
    fetch := fun caller reference => Exchange.beside (peers.cases.fetch caller reference)
    start := fun caller target event said =>
      let reply := (peers.cases.start caller target event said).1
      (reply, said ++ [.start target reply.result])
    submit := fun caller target submission said =>
      let reply := (peers.cases.submit caller target submission said).1
      (reply, said ++ [.submit target submission reply.result]) }
  login := fun login => Exchange.beside (peers.login login)
  userDetails := fun token => Exchange.beside (peers.userDetails token)
  lease := Exchange.beside peers.lease
  transform := fun url request token => Exchange.beside (peers.transform url request token)
  pay := fun command => Exchange.beside (peers.pay command)

/-- What an aside keeps is kept by all questions that do not write. -/
theorem Peers.recorded_quiet (peers : Peers (List Exchange)) {kept : List Exchange → Prop}
    (keeps : ∀ said, kept said → kept (said ++ [.aside])) : peers.recorded.Quiet kept where
  search _ _ _ := keeps
  fetch _ _ := keeps
  login _ := keeps
  details _ := keeps
  lease := keeps
  transform _ _ _ := keeps
  pay _ := keeps

/-- An office whose collaborators remember what was said. -/
def Office.recorded (office : Office (List Exchange)) : Office (List Exchange) :=
  { office with peers := office.peers.recorded }

/-- What was said before anything was written. -/
def OnlyAsides (said : List Exchange) : Prop :=
  ∀ exchange ∈ said, exchange = .aside

/-- What was said when an event was started on a case and nothing was submitted yet. -/
def Begun (reference : String) (started : StartedEvent) (said : List Exchange) : Prop :=
  ∃ asides target, OnlyAsides asides ∧ target.caseRef = some reference ∧
    said = asides ++ [.start target (.ok started)]

/-- What was said when the draft from a started event was accepted. -/
def Concluded (reference : String) (draft : Office.Draft) (said : List Exchange) : Prop :=
  ∃ before target started submission answer, Begun reference started before ∧
    draft started = .ok submission ∧ target.caseRef = some reference ∧
    said = before ++ [.submit target submission (.ok answer)]

/-- What was said when no submission was accepted. -/
def Unaccepted (said : List Exchange) : Prop :=
  ∀ exchange ∈ said, exchange.isAccepted = false

/-- No submission is among asides. -/
theorem OnlyAsides.unaccepted {said : List Exchange} (asides : OnlyAsides said) :
    Unaccepted said := by
  intro exchange member
  rw [asides exchange member]
  rfl

/-- One more exchange that accepts nothing. -/
theorem Unaccepted.append {said : List Exchange} (none : Unaccepted said) {exchange : Exchange}
    (isNone : exchange.isAccepted = false) : Unaccepted (said ++ [exchange]) := by
  intro other member
  rcases List.mem_append.mp member with before | last
  · exact none other before
  · rw [List.mem_singleton.mp last]
    exact isNone

/-- No submission was accepted when an event was only started. -/
theorem Begun.unaccepted {reference : String} {started : StartedEvent} {said : List Exchange}
    (begun : Begun reference started said) : Unaccepted said := by
  obtain ⟨asides, target, only, -, rfl⟩ := begun
  exact only.unaccepted.append rfl

namespace Office

variable {office : Office (List Exchange)}

/-- Nothing but asides stays so with one more. -/
theorem asides_quiet : office.recorded.peers.Quiet OnlyAsides := by
  refine Peers.recorded_quiet _ fun said asides exchange member => ?_
  rcases List.mem_append.mp member with before | last
  · exact asides exchange before
  · exact List.mem_singleton.mp last

/-- A write in two phases is a start and a submission of its draft, and it
succeeds when that is accepted. -/
theorem write_talk (caller : CaseStore.Caller) {target : CaseStore.Target} {reference : String}
    (targeted : target.caseRef = some reference) (event : String) (draft : Draft)
    (context : String) :
    (office.recorded.write caller target event draft context).Assures OnlyAsides
      (fun _ => Concluded reference draft) (fun _ => Unaccepted) := by
  refine Assures.through (Begun reference) (Assures.ask _ fun said asides => ?_) fun started => ?_
  · change Ending _ _ (office.peers.cases.start caller target event said).1.result
      (said ++ [.start target (office.peers.cases.start caller target event said).1.result])
    cases (office.peers.cases.start caller target event said).1.result with
    | error failure => exact asides.unaccepted.append rfl
    | ok started => exact ⟨said, target, asides, targeted, rfl⟩
  refine Assures.after_log ?_
  refine Assures.through (fun submission said => draft started = .ok submission ∧
    Begun reference started said) ?_ fun submission => Assures.given fun drafted =>
      Assures.ask _ fun said begun => ?_
  · cases drafted : draft started with
    | error failure => exact Assures.fail failure fun _ => Begun.unaccepted
    | ok submission => exact Assures.pure submission fun _ begun => ⟨rfl, begun⟩
  · change Ending _ _ (office.peers.cases.submit caller target submission said).1.result
      (said ++ [.submit target submission
        (office.peers.cases.submit caller target submission said).1.result])
    cases (office.peers.cases.submit caller target submission said).1.result with
    | error failure => exact begun.unaccepted.append rfl
    | ok answer => exact ⟨said, target, started, submission, answer, begun, drafted, targeted, rfl⟩

/-- A write with the credential of a system user is said like any other. -/
theorem writeAs_talk (credential : Credential) (jurisdiction : String) (caseType : Json)
    (reference event : String) (draft : Draft) (context : String) :
    (office.recorded.writeAs credential jurisdiction caseType (some reference) event draft
      context).Assures OnlyAsides (fun _ => Concluded reference draft) (fun _ => Unaccepted) := by
  refine guarded_assures (Assures.through (fun _ => OnlyAsides) ?_ fun caller => ?_) _
  · exact (caller_keeps asides_quiet _).to_end (fun _ _ => id) fun _ _ => OnlyAsides.unaccepted
  · exact write_talk caller rfl event draft context

/-- Attaching documents to a case succeeds when their submission is accepted. -/
theorem attachTo_talk (envelope : Envelope) (case : Case) :
    (office.recorded.attachTo envelope case).Assures OnlyAsides
      (fun _ => Concluded (Case.idText case.id) (office.evidenceDraft envelope))
      (fun _ => Unaccepted) := by
  refine Assures.through (fun _ => OnlyAsides) ?_ fun credential => ?_
  · exact (credential_keeps asides_quiet _).to_end (fun _ _ => id) fun _ _ => OnlyAsides.unaccepted
  refine Assures.attempting _ _ (writeAs_talk credential envelope.jurisdiction case.caseType
    (Case.idText case.id) EventName.attachScannedDocs (office.evidenceDraft envelope) _)
    fun outcome => ?_
  split
  · exact Assures.pure _ fun _ => id
  · split
    · exact Assures.fail _ fun _ => id
    · exact Assures.fail _ fun _ => id
  · exact Assures.fail _ fun _ => id

/-- Attaching evidence answers yes when its submission was accepted, and ends in
any other way when none was. -/
theorem attachEvidence_talk (envelope : Envelope) (case : Case) :
    (office.recorded.attachEvidence envelope case).Assures OnlyAsides
      (fun attached said => if attached then
        Concluded (Case.idText case.id) (office.evidenceDraft envelope) said else Unaccepted said)
      (fun _ => Unaccepted) := by
  refine Assures.through (fun _ => OnlyAsides) (Assures.reading _ fun said asides => ?_)
    fun existing => ?_
  · cases Document.onCase (some case.data) with
    | ok value => exact asides
    | error fault => exact asides.unaccepted
  split
  · exact Assures.after_log (Assures.pure _ fun _ => OnlyAsides.unaccepted)
  · refine Assures.after_log ?_
    refine Assures.attempting _ _ (attachTo_talk envelope case) fun outcome => ?_
    split
    · exact Assures.after_log (Assures.pure _ fun _ => id)
    · split
      · exact Assures.after_log (Assures.pure _ fun _ => id)
      · exact Assures.fail _ fun _ => id

end Office

/-- A worker that attaches the documents of an envelope to a case, as it has seen
the case at some time. The answers that it gets depend on what was said. -/
structure EvidenceWorker where
  office : Office (List Exchange)
  envelope : Envelope
  seen : Case
  run : Run (List Exchange)

namespace EvidenceWorker

variable (worker : EvidenceWorker)

/-- The work as a whole: its result and the run that it leaves. -/
def work : Except Failure Bool × Run (List Exchange) :=
  (worker.office.recorded.attachEvidence worker.envelope worker.seen).run
    { worker.run with peers := [] }

/-- What the worker answers in the end. -/
def result : Except Failure Bool :=
  worker.work.1

/-- All that the worker says, and is answered. -/
def talk : List Exchange :=
  worker.work.2.peers

/-- How the worker refers to the case. -/
def reference : String :=
  Case.idText worker.seen.id

/-- What the worker submits after a started event. -/
def draft : Office.Draft :=
  worker.office.evidenceDraft worker.envelope

/-- Either the worker's submission was accepted in the end and it answers yes, or
none was accepted and it does not. -/
theorem concluded_or_unaccepted :
    worker.result = .ok true ∧ Concluded worker.reference worker.draft worker.talk ∨
      worker.result ≠ .ok true ∧ Unaccepted worker.talk := by
  have said : Ending (fun attached said => if attached = true then
      Concluded worker.reference worker.draft said else Unaccepted said)
      (fun _ => Unaccepted) worker.result worker.talk :=
    Office.attachEvidence_talk worker.envelope worker.seen { worker.run with peers := [] }
      (List.forall_mem_nil _)
  cases answered : worker.result with
  | error failure =>
    rw [answered] at said
    exact .inr ⟨nofun, said⟩
  | ok attached =>
    rw [answered] at said
    cases attached with
    | false => exact .inr ⟨nofun, said⟩
    | true => exact .inl ⟨rfl, said⟩

variable {worker}

/-- A submission of the worker that is accepted was drafted from the start before
it, and the worker answers yes. -/
theorem of_accepted {said : List Exchange} {exchange : Exchange}
    (isSaid : said ++ [exchange] <+: worker.talk) (accepted : exchange.isAccepted = true) :
    worker.result = .ok true ∧ ∃ target started submission answer,
      Begun worker.reference started said ∧ worker.draft started = .ok submission ∧
      target.caseRef = some worker.reference ∧
      exchange = .submit target submission (.ok answer) := by
  rcases worker.concluded_or_unaccepted with ⟨yes, concluded⟩ | ⟨-, unaccepted⟩
  · obtain ⟨before, target, started, submission, answer, begun, drafted, targeted, whole⟩ :=
      concluded
    rw [whole, List.prefix_concat_iff] at isSaid
    rcases isSaid with same | earlier
    · obtain ⟨rfl, last⟩ := List.append_inj' same rfl
      exact ⟨yes, target, started, submission, answer, begun, drafted, targeted,
        List.singleton_inj.mp last⟩
    · have inside : exchange ∈ before := earlier.subset (by simp)
      cases (begun.unaccepted exchange inside).symm.trans accepted
  · have inside : exchange ∈ worker.talk := isSaid.subset (by simp)
    cases (unaccepted exchange inside).symm.trans accepted

/-- A worker that answers yes has had a submission accepted. -/
theorem accepted_of_result (yes : worker.result = .ok true) :
    ∃ exchange ∈ worker.talk, exchange.isAccepted = true := by
  rcases worker.concluded_or_unaccepted with ⟨-, concluded⟩ | ⟨no, -⟩
  · obtain ⟨before, target, started, submission, answer, -, -, -, whole⟩ := concluded
    exact ⟨.submit target submission (.ok answer), by simp [whole], rfl⟩
  · exact absurd yes no

end EvidenceWorker
end Mailroom
