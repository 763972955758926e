import Mailroom.Proofs.AttachedDocuments
import Mailroom.Proofs.DocumentAddress
import Mailroom.Proofs.EvidenceTalk
import Mailroom.Proofs.OfficeInMemory

/-!
# Evidence attached by many workers at once

Any number of workers attach the documents of their envelopes to one case, each
with its own view of it, however old. The store accepts what is submitted with a
token only while the case is as it was at the start that handed the token out.

A worker decides on its view, but merges into the case that its start came with,
and an accepted submission finds the case unchanged since. So every accepted
submission supplements the case as it stands, whatever the order of the steps,
and what holds of one supplement after another holds in the end.
-/

namespace Mailroom

open Mailroom.Flow

namespace Document

/-- What duplicates are told by. -/
def marks (document : Document) : Option String × Option String :=
  (document.uuid, document.controlNumber)

/-- No two of the documents are duplicates. -/
def Distinct (documents : List Document) : Prop :=
  documents.Pairwise fun first second => first.isDuplicateOf second = false

/-- Documents that are marked like distinct ones are distinct. -/
theorem Distinct.of_marks {documents others : List Document} (distinct : Distinct documents)
    (same : others.map marks = documents.map marks) : Distinct others := by
  let apart (first second : Option String × Option String) : Prop :=
    (first.1 == second.1 || first.2 == second.2) = false
  have onMarks (list : List Document) : Distinct list ↔ (list.map marks).Pairwise apart := by
    rw [List.pairwise_map]
    rfl
  rwa [onMarks, same, ← onMarks]

/-- A document that is marked like one that has no duplicate has none. -/
theorem isDuplicateOf_of_marks {document other : Document} (same : other.marks = document.marks)
    (present : Document) : present.isDuplicateOf other = present.isDuplicateOf document := by
  obtain ⟨uuid, number⟩ := Prod.mk.inj same
  rw [isDuplicateOf, uuid, number, isDuplicateOf]

/-- Distinct documents stay so when distinct ones are added of which there is no
duplicate yet. -/
theorem Distinct.append_missing {present incoming more : List Document}
    (distinct : Distinct present) (distinctToo : Distinct incoming)
    (same : more.map marks = (notAmong present incoming).map marks) :
    Distinct (present ++ more) := by
  have missing : Distinct (notAmong present incoming) := List.Pairwise.filter _ distinctToo
  refine List.pairwise_append.mpr ⟨distinct, missing.of_marks same, ?_⟩
  intro first isPresent second isMore
  have marked : second.marks ∈ (notAmong present incoming).map marks :=
    same ▸ List.mem_map_of_mem isMore
  obtain ⟨document, isMissing, sameMarks⟩ := List.mem_map.mp marked
  rw [isDuplicateOf_of_marks sameMarks.symm, isDuplicateOf_comm]
  exact (mem_notAmong.mp isMissing).2 first isPresent

/-- A document whose identity can be read back from its address. -/
def IsPlain (document : Document) : Prop :=
  ∀ uuid ∈ document.uuid, Url.IsPlainSegment uuid.toList

/-- Elements that were written can be read, and plain documents keep their marks. -/
theorem mapM_toElements {store : Store} (web : store.IsOnWeb) {fallback : Option Time.Moment}
    {documents : List Document} {elements : List Json}
    (dated : ∀ document ∈ documents, document.Dated fallback)
    (written : toElements store fallback documents = .ok elements) :
    ∃ more, elements.mapM ofElement = .ok more ∧
      ((∀ document ∈ documents, document.IsPlain) → more.map marks = documents.map marks) := by
  have each := mapM_eq_ok.mp written
  clear written
  induction each with
  | nil => exact ⟨[], rfl, fun _ => rfl⟩
  | @cons document element rest elements itsElement _ inductionHypothesis =>
    rw [List.forall_mem_cons] at dated
    obtain ⟨more, isRead, sameMarks⟩ := inductionHypothesis dated.2
    obtain ⟨uuid, segment, named, found, itsDocument⟩ :=
      ofElement_toElement web dated.1 itsElement
    refine ⟨_ :: more, mapM_eq_ok.mpr (.cons itsDocument (mapM_eq_ok.mp isRead)), fun plain => ?_⟩
    rw [List.forall_mem_cons] at plain
    have same : segment = uuid :=
      Option.some.inj (found.symm.trans (web.segment_eq (plain.1 uuid named)))
    rw [List.map_cons, List.map_cons, sameMarks plain.2, marks, marks, named, same]

end Document

namespace Case

/-- A case that another one goes on from: the same case, with more documents after
those that were there, all of which can still be read. -/
structure Extends (old new : Case) : Prop where
  id : new.id = old.id
  elements : ∀ former, Document.collectionOf (some old.data) = .ok former →
    ∃ more, Document.collectionOf (some new.data) = .ok (former ++ more)
  documents : ∀ former, Document.onCase (some old.data) = .ok former →
    ∃ more, Document.onCase (some new.data) = .ok (former ++ more)

/-- A case goes on from itself. -/
theorem Extends.refl (case : Case) : case.Extends case where
  id := rfl
  elements former collected := ⟨[], by rw [collected, List.append_nil]⟩
  documents former isRead := ⟨[], by rw [isRead, List.append_nil]⟩

/-- A case goes on from what its predecessor goes on from. -/
theorem Extends.trans {first second third : Case} (one : first.Extends second)
    (two : second.Extends third) : first.Extends third where
  id := two.id.trans one.id
  elements former collected := by
    obtain ⟨more, between⟩ := one.elements former collected
    obtain ⟨last, final⟩ := two.elements _ between
    exact ⟨more ++ last, by rw [final, List.append_assoc]⟩
  documents former isRead := by
    obtain ⟨more, between⟩ := one.documents former isRead
    obtain ⟨last, final⟩ := two.documents _ between
    exact ⟨more ++ last, by rw [final, List.append_assoc]⟩

variable {store : Document.Store} {envelope : Envelope} {old new : Case}

/-- The documents of a case after evidence was attached at an address on the web:
the former ones, and the missing ones after them as they are read back. -/
theorem Supplemented.documents_eq (done : Supplemented store envelope old new)
    (web : store.IsOnWeb)
    (dated : ∀ document ∈ envelope.documents, document.Dated envelope.deliveryDate) :
    ∃ present more, Document.onCase (some old.data) = .ok present ∧
      Document.onCase (some new.data) = .ok (present ++ more) ∧
      ((∀ document ∈ envelope.documents, document.IsPlain) → more.map Document.marks =
        (Document.notAmong present envelope.documents).map Document.marks) := by
  obtain ⟨present, former, elements, isRead, collected, written, stored⟩ := done.collection
  have missing : Document.notAmong present envelope.documents ⊆ envelope.documents :=
    List.filter_subset_self _
  obtain ⟨more, moreRead, sameMarks⟩ := Document.mapM_toElements web
    (fun document isMissing => dated document (missing isMissing)) written
  refine ⟨present, more, isRead, ?_, fun plain => sameMarks fun document isMissing =>
    plain document (missing isMissing)⟩
  have formerRead : former.mapM Document.ofElement = .ok present := by
    unfold Document.onCase at isRead
    rwa [collected] at isRead
  rw [Document.onCase_of_collection stored, List.mapM_append, formerRead, moreRead]
  rfl

/-- A case with more evidence goes on from the case before. -/
theorem Supplemented.extends (done : Supplemented store envelope old new) (web : store.IsOnWeb)
    (dated : ∀ document ∈ envelope.documents, document.Dated envelope.deliveryDate) :
    old.Extends new where
  id := done.id
  elements former collected := by
    obtain ⟨present, former', elements, -, collected', -, stored⟩ := done.collection
    obtain rfl : former = former' := Except.ok.inj (collected.symm.trans collected')
    exact ⟨elements, Document.collectionOf_of_collection stored⟩
  documents former isRead := by
    obtain ⟨present, more, isRead', after, -⟩ := done.documents_eq web dated
    obtain rfl : former = present := Except.ok.inj (isRead.symm.trans isRead')
    exact ⟨more, after⟩

end Case

/-- A case in the store, and the tokens that were handed out for it,
each with the case as it was at that start. -/
structure CaseWithTokens where
  case : Case
  issued : List (Json × Case)

/-- A token stands for one state of the case. -/
def CaseWithTokens.Stands (state : CaseWithTokens) (token : Json) (snapshot : Case) : Prop :=
  (token, snapshot) ∈ state.issued ∧
    ∀ other, (token, other) ∈ state.issued → other = snapshot

/-- What an exchange with the store does to a case: a start comes with the case and
a token that stands for it as it is, and a submission is accepted only when its
token was handed out for the case as it is. Nothing else has an effect. -/
inductive Takes : Exchange → CaseWithTokens → CaseWithTokens → Prop where
  /-- An event is started on the case. -/
  | started {state : CaseWithTokens} {target : CaseStore.Target} {started : StartedEvent}
      (here : target.caseRef = some (Case.idText state.case.id))
      (current : started.case = some state.case)
      (unused : ∀ other, (started.token, other) ∈ state.issued → other = state.case) :
      Takes (.start target (.ok started)) state
        { state with issued := (started.token, state.case) :: state.issued }
  /-- A submission for the case is carried out. -/
  | accepted {state : CaseWithTokens} {target : CaseStore.Target} {submission : Submission}
      {answer changed : Case}
      (here : target.caseRef = some (Case.idText state.case.id))
      (unchanged : (submission.token, state.case) ∈ state.issued)
      (revised : Case.Revised submission.data state.case changed) :
      Takes (.submit target submission (.ok answer)) state { state with case := changed }
  /-- A start fails. -/
  | notStarted {state : CaseWithTokens} {target : CaseStore.Target} {failure : Failure} :
      Takes (.start target (.error failure)) state state
  /-- A submission fails. -/
  | notAccepted {state : CaseWithTokens} {target : CaseStore.Target} {submission : Submission}
      {failure : Failure} : Takes (.submit target submission (.error failure)) state state
  /-- An event is started on another case. -/
  | startedElsewhere {state : CaseWithTokens} {target : CaseStore.Target} {started : StartedEvent}
      (elsewhere : target.caseRef ≠ some (Case.idText state.case.id)) :
      Takes (.start target (.ok started)) state state
  /-- A submission for another case is carried out. -/
  | acceptedElsewhere {state : CaseWithTokens} {target : CaseStore.Target} {submission : Submission}
      {answer : Case} (elsewhere : target.caseRef ≠ some (Case.idText state.case.id)) :
      Takes (.submit target submission (.ok answer)) state state
  /-- Something else is asked. -/
  | aside {state : CaseWithTokens} : Takes .aside state state

/-- Only what is accepted changes the case. -/
theorem Takes.case_eq {exchange : Exchange} {before after : CaseWithTokens}
    (taken : Takes exchange before after) (unaccepted : exchange.isAccepted = false) :
    after.case = before.case := by
  cases taken with
  | accepted => cases unaccepted
  | _ => rfl

/-- The case stays the same one. -/
theorem Takes.id_eq {exchange : Exchange} {before after : CaseWithTokens}
    (taken : Takes exchange before after) : after.case.id = before.case.id := by
  cases taken with
  | accepted here unchanged revised => exact revised.id
  | _ => rfl

/-- A token goes on standing for what it stood for. -/
theorem Takes.stands {exchange : Exchange} {before after : CaseWithTokens}
    (taken : Takes exchange before after) {token : Json} {snapshot : Case}
    (stands : before.Stands token snapshot) : after.Stands token snapshot := by
  cases taken with
  | started here current unused =>
    refine ⟨List.mem_cons_of_mem _ stands.1, fun other member => ?_⟩
    rcases List.mem_cons.mp member with same | before
    · obtain ⟨rfl, rfl⟩ := Prod.mk.inj same
      exact (unused snapshot stands.1).symm
    · exact stands.2 other before
  | _ => exact stands

/-- A step of a worker: an exchange, and the case with its tokens before and after. -/
structure EvidenceStep (ι : Type) where
  worker : ι
  exchange : Exchange
  before : CaseWithTokens
  after : CaseWithTokens

section Interleaving

variable {ι : Type} [DecidableEq ι] {workers : ι → EvidenceWorker} {start now : CaseWithTokens}
variable {steps : List (EvidenceStep ι)}

/-- What a worker has said in the steps so far. -/
def saidBy (worker : ι) (steps : List (EvidenceStep ι)) : List Exchange :=
  (steps.filter fun step => step.worker = worker).map (·.exchange)

/-- The steps of many workers in any order, from one state to another: whoever
comes next says what comes next in its talk, and the store takes it. -/
inductive Interleaving (workers : ι → EvidenceWorker) (start : CaseWithTokens) :
    List (EvidenceStep ι) → CaseWithTokens → Prop where
  /-- Nobody has said anything. -/
  | none : Interleaving workers start [] start
  /-- Some worker goes on. -/
  | next {steps : List (EvidenceStep ι)} {before after : CaseWithTokens} (worker : ι)
      {exchange : Exchange} (run : Interleaving workers start steps before)
      (spoken : saidBy worker steps ++ [exchange] <+: (workers worker).talk)
      (taken : Takes exchange before after) :
      Interleaving workers start (steps ++ [⟨worker, exchange, before, after⟩]) after

/-- A worker has said all that it has to say. -/
def IsFinished (workers : ι → EvidenceWorker) (worker : ι) (steps : List (EvidenceStep ι)) : Prop :=
  saidBy worker steps = (workers worker).talk

/-- Whatever a worker has said, it said in one of the steps. -/
theorem mem_saidBy {worker : ι} {exchange : Exchange} :
    exchange ∈ saidBy worker steps ↔
      ∃ step ∈ steps, step.worker = worker ∧ step.exchange = exchange := by
  simp [saidBy, and_assoc]

/-- The case stays the same one throughout. -/
theorem Interleaving.id_eq (run : Interleaving workers start steps now) :
    now.case.id = start.case.id := by
  induction run with
  | none => rfl
  | next _ _ _ taken inductionHypothesis => exact taken.id_eq.trans inductionHypothesis

/-- A start on the case came with the case as it was, and with a token that stands
for that from then on. -/
theorem Interleaving.stands (run : Interleaving workers start steps now)
    {step : EvidenceStep ι} (isStep : step ∈ steps) {target : CaseStore.Target}
    {started : StartedEvent} (itsExchange : step.exchange = .start target (.ok started))
    (here : target.caseRef = some (Case.idText start.case.id)) :
    ∃ snapshot, started.case = some snapshot ∧ now.Stands started.token snapshot := by
  induction run with
  | none => cases isStep
  | @next steps before after worker exchange run spoken taken inductionHypothesis =>
    rcases List.mem_append.mp isStep with earlier | last
    · obtain ⟨snapshot, current, stands⟩ := inductionHypothesis earlier
      exact ⟨snapshot, current, taken.stands stands⟩
    · obtain rfl := List.mem_singleton.mp last
      obtain rfl : exchange = .start target (.ok started) := itsExchange
      cases taken with
      | started _ current unused =>
        refine ⟨before.case, current, List.mem_cons_self, fun other member => ?_⟩
        rcases List.mem_cons.mp member with same | earlier
        · exact (Prod.mk.inj same).2
        · exact unused other earlier
      | startedElsewhere elsewhere => exact absurd (run.id_eq ▸ here) elsewhere

end Interleaving

/-- Workers that attach evidence to one case, each with some view of it: they keep
documents at one address on the web, and the moments of their documents exist, as
those of every envelope that was accepted do. -/
structure AttachToOneCase {ι : Type} (workers : ι → EvidenceWorker) (store : Document.Store)
    (case : Case) : Prop where
  web : store.IsOnWeb
  documents : ∀ worker, (workers worker).office.documents = store
  seen : ∀ worker, (workers worker).seen.id = case.id
  dated : ∀ worker, ∀ document ∈ (workers worker).envelope.documents,
    document.Dated (workers worker).envelope.deliveryDate

section Interleaving

variable {ι : Type} [DecidableEq ι] {workers : ι → EvidenceWorker} {start now : CaseWithTokens}
variable {steps : List (EvidenceStep ι)} {store : Document.Store}

/-- A submission that is accepted supplements the case as it stands, and its worker
answers yes: the worker merged into the case of its start, which is still the same. -/
theorem Interleaving.supplemented (attach : AttachToOneCase workers store start.case)
    (run : Interleaving workers start steps now) {worker : ι} {exchange : Exchange}
    {after : CaseWithTokens} (spoken : saidBy worker steps ++ [exchange] <+: (workers worker).talk)
    (taken : Takes exchange now after) (accepted : exchange.isAccepted = true) :
    (workers worker).result = .ok true ∧
      Case.Supplemented store (workers worker).envelope now.case after.case := by
  obtain ⟨yes, target, started, submission, answer, begun, drafted, targeted, rfl⟩ :=
    EvidenceWorker.of_accepted spoken accepted
  have same : (workers worker).reference = Case.idText start.case.id :=
    congrArg Case.idText (attach.seen worker)
  obtain ⟨asides, itsTarget, -, here, said⟩ := begun
  obtain ⟨step, isStep, -, itsExchange⟩ := mem_saidBy.mp
    (show Exchange.start itsTarget (.ok started) ∈ saidBy worker steps by simp [said])
  -- its own start is one of the steps, so its token still stands for what that came with
  obtain ⟨snapshot, current, stands⟩ := run.stands isStep itsExchange (same ▸ here)
  unfold EvidenceWorker.draft Office.evidenceDraft at drafted
  cases built : (workers worker).office.evidenceData (workers worker).envelope started.case with
  | error fault => simp [built] at drafted
  | ok data =>
    rw [built] at drafted
    obtain rfl := Except.ok.inj drafted
    cases taken with
    | accepted _ unchanged revised =>
      obtain rfl : now.case = snapshot := stands.2 _ unchanged
      rw [current] at built
      rw [← attach.documents worker]
      exact ⟨yes, Case.supplemented_of_revised built revised⟩
    | acceptedElsewhere elsewhere =>
      exact absurd (targeted.trans (congrArg some (same.trans (run.id_eq ▸ rfl)))) elsewhere

/-- What holds of the case at first, and of every supplement when it held before,
holds of the case after any steps. -/
theorem Interleaving.preserves (attach : AttachToOneCase workers store start.case)
    (run : Interleaving workers start steps now) {kept : Case → Prop} (atFirst : kept start.case)
    (stays : ∀ worker old new, Case.Supplemented store (workers worker).envelope old new →
      kept old → kept new) : kept now.case := by
  induction run with
  | none => exact atFirst
  | @next steps before after worker exchange run spoken taken inductionHypothesis =>
    cases accepted : exchange.isAccepted with
    | false => exact taken.case_eq accepted ▸ inductionHypothesis
    | true =>
      exact stays worker _ _ (run.supplemented attach spoken taken accepted).2
        inductionHypothesis

/-- The documents of a worker whose submission was accepted are carried from then on. -/
theorem Interleaving.carried (attach : AttachToOneCase workers store start.case)
    (run : Interleaving workers start steps now) {step : EvidenceStep ι} (isStep : step ∈ steps)
    (accepted : step.exchange.isAccepted = true) :
    Document.Carried (workers step.worker).envelope.documents now.case.data := by
  induction run with
  | none => cases isStep
  | @next steps before after worker exchange run spoken taken inductionHypothesis =>
    rcases List.mem_append.mp isStep with earlier | last
    · have carried := inductionHypothesis earlier
      cases isAccepted : exchange.isAccepted with
      | false => exact taken.case_eq isAccepted ▸ carried
      | true => exact (run.supplemented attach spoken taken isAccepted).2.keeps_carried carried
    · obtain rfl := List.mem_singleton.mp last
      exact (run.supplemented attach spoken taken accepted).2.carried

/-- A step changed the case only when something was accepted in it. -/
theorem Interleaving.case_eq (run : Interleaving workers start steps now) {step : EvidenceStep ι}
    (isStep : step ∈ steps) (unaccepted : step.exchange.isAccepted = false) :
    step.after.case = step.before.case := by
  induction run with
  | none => cases isStep
  | next worker run spoken taken inductionHypothesis =>
    rcases List.mem_append.mp isStep with earlier | last
    · exact inductionHypothesis earlier
    · obtain rfl := List.mem_singleton.mp last
      exact taken.case_eq unaccepted

/-- The case goes on from what it was. -/
theorem Interleaving.extends (attach : AttachToOneCase workers store start.case)
    (run : Interleaving workers start steps now) : start.case.Extends now.case := by
  refine run.preserves attach (Case.Extends.refl _) fun worker old new done soFar => ?_
  exact soFar.trans (done.extends attach.web (attach.dated worker))

/-- Distinct documents stay distinct. -/
theorem Interleaving.distinct (attach : AttachToOneCase workers store start.case)
    (run : Interleaving workers start steps now) {documents : List Document}
    (isRead : Document.onCase (some start.case.data) = .ok documents)
    (distinct : Document.Distinct documents)
    (brought : ∀ worker, Document.Distinct (workers worker).envelope.documents ∧
      ∀ document ∈ (workers worker).envelope.documents, document.IsPlain) :
    ∃ present, Document.onCase (some now.case.data) = .ok present ∧ Document.Distinct present := by
  let kept (case : Case) : Prop :=
    ∃ present, Document.onCase (some case.data) = .ok present ∧ Document.Distinct present
  have atFirst : kept start.case := ⟨documents, isRead, distinct⟩
  refine run.preserves attach atFirst ?_
  rintro worker old new done ⟨former, formerRead, formerDistinct⟩
  obtain ⟨present, more, isRead, after, sameMarks⟩ :=
    done.documents_eq attach.web (attach.dated worker)
  obtain rfl : former = present := Except.ok.inj (formerRead.symm.trans isRead)
  exact ⟨_, after, formerDistinct.append_missing (brought worker).1 (sameMarks (brought worker).2)⟩

end Interleaving

/-- Attaching an envelope again whose documents all have duplicates on the case asks
nobody anything. -/
theorem Office.attachEvidence_again {σ : Type} (office : Office σ) {envelope : Envelope}
    {case : Case} {documents : List Document}
    (isRead : Document.onCase (some case.data) = .ok documents)
    (none : Document.notAmong documents envelope.documents = []) (run : Run σ) :
    ((office.attachEvidence envelope case).run run).1 = .ok false ∧
      ((office.attachEvidence envelope case).run run).2.peers = run.peers := by
  have law : (office.attachEvidence envelope case).Assures (· = run.peers)
      (fun attached state => attached = false ∧ state = run.peers) (fun _ _ => False) := by
    refine Assures.through (fun existing state => existing = documents ∧ state = run.peers)
      (Assures.reading _ fun state same => ?_) fun existing => Assures.given fun same => ?_
    · rw [isRead]
      exact ⟨rfl, same⟩
    · rw [same, none, if_pos List.isEmpty_nil]
      exact Assures.after_log (Assures.pure _ fun _ unchanged => ⟨rfl, unchanged⟩)
  have ended := law run rfl
  cases answered : ((office.attachEvidence envelope case).run run).1 with
  | error failure =>
    rw [answered] at ended
    exact ended.elim
  | ok attached =>
    rw [answered] at ended
    exact ⟨congrArg _ ended.1, ended.2⟩

/-- What many workers leave of a case that they attach evidence to. -/
structure NothingLost {ι : Type} [DecidableEq ι] (workers : ι → EvidenceWorker) (start : Case)
    (steps : List (EvidenceStep ι)) (now : Case) : Prop where
  /-- The elements that were there first are there first. -/
  elements : ∀ former, Document.collectionOf (some start.data) = .ok former →
    ∃ more, Document.collectionOf (some now.data) = .ok (former ++ more)
  /-- A worker that did not answer yes has changed nothing. -/
  unchanged : ∀ worker, IsFinished workers worker steps → (workers worker).result ≠ .ok true →
    ∀ step ∈ steps, step.worker = worker → step.after.case = step.before.case
  /-- All documents of a worker that answered yes have duplicates on the case. -/
  carried : ∀ worker, IsFinished workers worker steps → (workers worker).result = .ok true →
    ∃ documents, Document.onCase (some now.data) = .ok documents ∧
      ∀ document ∈ (workers worker).envelope.documents,
        ∃ other ∈ documents, document.isDuplicateOf other = true
  /-- Attaching its envelope again with a view of the case as it is asks nobody. -/
  again : ∀ worker, IsFinished workers worker steps → (workers worker).result = .ok true →
    ∀ {σ : Type} (office : Office σ) (run : Run σ),
      ((office.attachEvidence (workers worker).envelope now).run run).1 = .ok false ∧
        ((office.attachEvidence (workers worker).envelope now).run run).2.peers = run.peers
  /-- When the documents that were there and those of every envelope are distinct,
  and their addresses name them, the documents on the case are distinct. -/
  distinct : ∀ former, Document.onCase (some start.data) = .ok former → Document.Distinct former →
    (∀ worker, Document.Distinct (workers worker).envelope.documents ∧
      ∀ document ∈ (workers worker).envelope.documents, document.IsPlain) →
    ∃ present, Document.onCase (some now.data) = .ok present ∧ Document.Distinct present

/-- No document is lost and none is duplicated, whatever the workers have seen of the
case and in whatever order their steps are taken.

Proof: by induction on the steps. An accepted submission was drafted from the case
as it stands, so each one supplements the case that the others have left. -/
theorem evidence_of_many_is_kept {ι : Type} [DecidableEq ι] {workers : ι → EvidenceWorker}
    {start now : CaseWithTokens} {steps : List (EvidenceStep ι)} {store : Document.Store}
    {former : List Document} (attach : AttachToOneCase workers store start.case)
    (converts : Document.onCase (some start.case.data) = .ok former)
    (run : Interleaving workers start steps now) :
    NothingLost workers start.case steps now.case := by
  obtain ⟨more, isRead⟩ := (run.extends attach).documents former converts
  -- a worker that has finished and answers yes has had its submission accepted in some step
  have carried (worker : ι) (finished : IsFinished workers worker steps)
      (yes : (workers worker).result = .ok true) :
      Document.notAmong (former ++ more) (workers worker).envelope.documents = [] := by
    obtain ⟨exchange, inTalk, accepted⟩ := EvidenceWorker.accepted_of_result yes
    obtain ⟨step, isStep, rfl, rfl⟩ := mem_saidBy.mp (finished ▸ inTalk)
    exact run.carried attach isStep accepted _ isRead
  constructor
  case elements => exact (run.extends attach).elements
  case unchanged =>
    intro worker finished no step isStep itsStep
    refine run.case_eq isStep ?_
    rcases (workers worker).concluded_or_unaccepted with ⟨yes, -⟩ | ⟨-, unaccepted⟩
    · exact absurd yes no
    · exact unaccepted _ (finished ▸ mem_saidBy.mpr ⟨step, isStep, itsStep, rfl⟩)
  case carried =>
    intro worker finished yes
    exact ⟨_, isRead, Document.notAmong_eq_nil.mp (carried worker finished yes)⟩
  case again =>
    intro worker finished yes σ office again
    exact office.attachEvidence_again isRead (carried worker finished yes) again
  case distinct =>
    intro documents isRead distinct brought
    exact run.distinct attach isRead distinct brought

section Rivals

open Simulation

/-- The documents of the sample are kept on the web. -/
theorem sample_isOnWeb : sampleOffice.documents.IsOnWeb where
  address := by
    have plain : "localhost".toList.all Url.isPlainHost = true := by decide +kernel
    exact ⟨"http", by decide, "localhost".toList, [], by decide +kernel, by decide +kernel,
      List.all_eq_true.mp plain, .inl rfl⟩
  unmarked := by
    rw [List.forall_mem_cons, List.forall_mem_singleton]
    decide +kernel

/-- A case with one document. -/
def rivalledCase : Case where
  id := some 1
  data := [(CaseField.scannedDocuments, .arr [OpenData.element [("controlNumber", .str "former")]])]

/-- What the start of an event on it comes to for each of two workers. -/
def rivalledStart (first : Bool) : StartedEvent where
  token := .str (if first then "first" else "second")
  eventId := .null
  case := some rivalledCase

/-- Collaborators that start the event for both, and accept what the first submits. -/
def rivalledPeers (first : Bool) : Peers (List Exchange) where
  cases := {
    search := fun _ _ _ said => (.answer [], said)
    fetch := fun _ _ said => (.answer rivalledCase, said)
    start := fun _ _ _ said => (.answer (rivalledStart first), said)
    submit := fun _ _ _ said => (if first then .answer rivalledCase else
      .refuse (.store (.reported "conflict" (some 409))), said) }
  login := fun _ said => (.answer "user token", said)
  userDetails := fun _ said => (.answer ⟨.str "user", .null⟩, said)
  lease := fun said => (.answer "service token", said)
  transform := fun _ _ _ said => (.answer sampleAnswer, said)
  pay := fun _ said => (.answer (), said)

/-- Two workers that bring the same paper, scanned twice, and have seen the case
before it had a document. -/
def rivals (first : Bool) : EvidenceWorker where
  office := { sampleOffice with peers := rivalledPeers first }
  envelope := {
    id := if first then "first" else "second"
    container := "bulkscan"
    classification := .checked .supplementaryEvidence
    jurisdiction := "BULKSCAN"
    documents := [
      { uuid := some (if first then "first" else "second"), controlNumber := some "number" }] }
  seen := { id := some 1 }
  run := {
    peers := []
    credentials := [("bulkscan", ⟨"user token", .str "user", .null⟩)] }

/-- Both start, and then both submit: one is accepted, the other one finds that the
case has changed. -/
theorem rivals_lose_nothing :
    (rivals true).result = .ok true ∧ (rivals false).result = .ok false ∧
    ∃ steps now, IsFinished rivals true steps ∧ IsFinished rivals false steps ∧
      NothingLost rivals rivalledCase steps now := by
  obtain ⟨target, submission, here, token, talk⟩ : ∃ target submission,
      target.caseRef = some (Case.idText rivalledCase.id) ∧ submission.token = .str "first" ∧
      (rivals true).talk = [.aside, .start target (.ok (rivalledStart true)),
        .submit target submission (.ok rivalledCase)] := ⟨_, _, rfl, rfl, rfl⟩
  obtain ⟨other, otherSubmission, failure, hereToo, otherTalk⟩ : ∃ other otherSubmission failure,
      other.caseRef = some (Case.idText rivalledCase.id) ∧
      (rivals false).talk = [.aside, .start other (.ok (rivalledStart false)),
        .submit other otherSubmission (.error failure)] := ⟨_, _, _, rfl, rfl⟩
  let start : CaseWithTokens := { case := rivalledCase, issued := [] }
  let begun : CaseWithTokens := { start with issued := [(.str "first", rivalledCase)] }
  let both : CaseWithTokens := { start with
    issued := [(.str "second", rivalledCase), (.str "first", rivalledCase)] }
  let changed : Case := { rivalledCase with data := rivalledCase.data.merge submission.data }
  have starts : Takes (.start target (.ok (rivalledStart true))) start begun :=
    .started here rfl nofun
  have startsToo : Takes (.start other (.ok (rivalledStart false))) begun both :=
    .started hereToo rfl (by simp [begun, rivalledStart])
  have accepts : Takes (.submit target submission (.ok rivalledCase)) both
      { both with case := changed } :=
    .accepted here (by simp [both, start, token]) ⟨rfl, rfl, fun _ => rfl⟩
  have begins : Interleaving rivals start [] start := .none
  have asked := begins.next true (by rw [talk]; exact ⟨_, rfl⟩) .aside
  have askedToo := asked.next false (by rw [otherTalk]; exact ⟨_, rfl⟩) .aside
  have started := askedToo.next true (by rw [talk]; exact ⟨_, rfl⟩) starts
  have startedToo := started.next false (by rw [otherTalk]; exact ⟨_, rfl⟩) startsToo
  have accepted := startedToo.next true (by rw [talk]; exact ⟨_, rfl⟩) accepts
  have refused := accepted.next false (by rw [otherTalk]; exact ⟨_, rfl⟩) .notAccepted
  have attach : AttachToOneCase rivals sampleOffice.documents start.case := by
    constructor
    case web => exact sample_isOnWeb
    case documents => exact fun _ => rfl
    case seen => exact fun _ => rfl
    case dated =>
      intro worker document brought
      obtain rfl := List.mem_singleton.mp brought
      exact ⟨nofun, nofun⟩
  refine ⟨rfl, rfl, _, _, ?_, ?_, evidence_of_many_is_kept attach rfl refused⟩
  · exact talk.symm
  · exact otherTalk.symm

end Rivals
end Mailroom
