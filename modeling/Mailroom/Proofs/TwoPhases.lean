import Mailroom.Proofs.History
import Mailroom.Proofs.Journal
import Mailroom.Proofs.OfficeInMemory
import Mathlib.Data.List.TakeWhile

/-!
# Writing in two phases

Nothing is submitted to the case store but right after a start that was answered, as part of
the same operation, with the token of this start and with data that was drafted from its
answer. A start may go without a submission; it never has two of them, and none when it has
failed.

So it is nobody's fault but the store's when a submission is refused for its token: where
each start hands out a fresh token for its event on its case, every token is used once, for
what it was handed out for.
-/

namespace Mailroom

namespace Call

/-- Whether an event is started. -/
def isStart : Call → Bool
  | .start .. => true
  | _ => false

/-- Whether something is submitted. -/
def isSubmit : Call → Bool
  | .submit .. => true
  | _ => false

/-- The token that a start has handed out. -/
def issued? : Call → Option Json
  | .start _ _ _ _ (.ok started) => some started.token
  | _ => none

end Call

namespace Office

open Mailroom.Flow

variable {σ : Type}

/-- What the mail room drafts for a target and an event. -/
inductive Drafted (office : Office σ) (target : CaseStore.Target) (event : String) : Draft → Prop
  /-- A case of a new application. -/
  | application (envelopeId : String) (data : Fields) (creates : target.caseRef = none) :
      Drafted office target event (caseDraft envelopeId data)
  /-- The record of an envelope. -/
  | record (envelope : Envelope) (creates : target.caseRef = none)
      (typed : target.caseType = .str (Service.recordCaseType envelope.container)) :
      Drafted office target event (office.recordDraft envelope)
  /-- Evidence for a case. -/
  | evidence (envelope : Envelope) (updates : target.caseRef.isSome)
      (named : event = EventName.attachScannedDocs) :
      Drafted office target event (office.evidenceDraft envelope)
  /-- A case that a caseworker opens from a record. -/
  | opened (record : ExceptionRecord) (service : Service) (data : Fields)
      (creates : target.caseRef = none) :
      Drafted office target event (office.newCaseDraft record service data)

/-- What is submitted was drafted for the target and the event from the answer to the start. -/
def Builds (office : Office σ) (target : CaseStore.Target) (event : String)
    (started : StartedEvent) (submission : Submission) : Prop :=
  ∃ draft, office.Drafted target event draft ∧ draft started = .ok submission

/-- A journal in which every submission is part of a write. -/
inductive Disciplined (office : Office σ) : List Call → Prop
  | empty : Disciplined office []
  | asks {journal : List Call} {call : Call} (earlier : Disciplined office journal)
      (free : call.isSubmit = false) : Disciplined office (journal ++ [call])
  | submits {journal : List Call} {party : Party} {caller : CaseStore.Caller}
      {target : CaseStore.Target} {event : String} {started : StartedEvent}
      {submission : Submission} {answer : Except Failure Case}
      (earlier : Disciplined office (journal ++ [.start party caller target event (.ok started)]))
      (built : office.Builds target event started submission) :
      Disciplined office (journal ++ [.start party caller target event (.ok started)] ++
        [.submit party caller target submission answer])

variable {office : Office σ} {party : Party} {caller : CaseStore.Caller}
  {target : CaseStore.Target} {event : String} {started : StartedEvent} {submission : Submission}

/-- What was drafted carries the token of the start, and names the event as the start did or
as it was asked for. -/
theorem Builds.of_start (built : office.Builds target event started submission) :
    submission.token = started.token ∧
      (submission.event.id = started.eventId ∨ submission.event.id = .str event) := by
  obtain ⟨draft, drafted, builds⟩ := built
  cases drafted with
  | application envelopeId data creates =>
    obtain rfl := Except.ok.inj builds
    exact ⟨rfl, .inl rfl⟩
  | record envelope creates typed =>
    unfold recordDraft at builds
    split at builds
    · obtain rfl := Except.ok.inj builds
      exact ⟨rfl, .inl rfl⟩
    · cases builds
  | evidence envelope updates named =>
    unfold evidenceDraft at builds
    split at builds
    · obtain rfl := Except.ok.inj builds
      exact ⟨rfl, .inr (congrArg Json.str named.symm)⟩
    · cases builds
  | opened record service data creates =>
    obtain rfl := Except.ok.inj builds
    exact ⟨rfl, .inl rfl⟩

/-! ### Every piece of work is disciplined -/

/-- The property of a state that its journal is disciplined. -/
abbrev KeepsDiscipline (office : Office σ) {α : Type} (work : Flow (σ × List Call) α) : Prop :=
  work.Keeps fun state => office.Disciplined state.2

/-- Discipline goes from pieces of work to composed work. -/
theorem discipline_compositional (office : Office σ) :
    Compositional (σ := σ × List Call) office.KeepsDiscipline where
  pure value := Keeps.pure value
  fail failure := Keeps.fail failure
  bind first second := Keeps.bind first second
  attempt law := Keeps.attempt law
  log level message := Keeps.log level message
  count metric := Assures.count metric fun _ => id
  correlated correlation law run := law { run with correlation }

/-- All calls but submissions keep a journal disciplined. -/
theorem journaled_quiet (office : Office σ) (party : Party) :
    (office.journaled party).peers.Quiet fun state => office.Disciplined state.2 where
  search _ _ _ _ disciplined := disciplined.asks rfl
  fetch _ _ _ disciplined := disciplined.asks rfl
  login _ _ disciplined := disciplined.asks rfl
  details _ _ disciplined := disciplined.asks rfl
  lease _ disciplined := disciplined.asks rfl
  transform _ _ _ _ disciplined := disciplined.asks rfl
  pay _ _ disciplined := disciplined.asks rfl

/-- A write is a start and, if that was answered, a submission of what was drafted from the
answer. -/
theorem write_disciplined (caller : CaseStore.Caller) {draft : Draft}
    (drafted : office.Drafted target event draft) (context : String) :
    office.KeepsDiscipline ((office.journaled party).write caller target event draft context) := by
  refine Assures.through (fun started state => ∃ journal, office.Disciplined state.2 ∧
    state.2 = journal ++ [.start party caller target event (.ok started)]) ?_ fun started => ?_
  · refine Assures.ask _ fun state disciplined => ?_
    change Ending _ _ (office.peers.cases.start caller target event state.1).1.result _
    cases answered : (office.peers.cases.start caller target event state.1).1.result with
    | error failure => exact disciplined.asks rfl
    | ok started =>
      refine ⟨state.2, disciplined.asks rfl, ?_⟩
      change state.2 ++ [Call.start party caller target event
        (office.peers.cases.start caller target event state.1).1.result] = _
      rw [answered]
  refine Assures.after_log ?_
  refine Assures.through (fun submission state => draft started = .ok submission ∧
    ∃ journal, office.Disciplined state.2 ∧
      state.2 = journal ++ [.start party caller target event (.ok started)]) ?_ fun submission => ?_
  · refine Assures.lift _ fun state reached => ?_
    cases builds : draft started with
    | error failure =>
      obtain ⟨journal, disciplined, -⟩ := reached
      exact disciplined
    | ok submission => exact ⟨rfl, reached⟩
  refine Assures.given fun builds => Assures.ask _ fun state reached => ?_
  obtain ⟨journal, disciplined, said⟩ := reached
  have written (answer : Except Failure Case) :
      office.Disciplined (state.2 ++ [.submit party caller target submission answer]) := by
    rw [said] at disciplined ⊢
    exact disciplined.submits ⟨draft, drafted, builds⟩
  change Ending _ _ (office.peers.cases.submit caller target submission state.1).1.result _
  cases answered : (office.peers.cases.submit caller target submission state.1).1.result with
  | ok answer => exact written _
  | error failure => exact written _

/-- A write with the credential of a system user. -/
theorem writeAs_disciplined (credential : Credential) (jurisdiction : String) (caseType : Json)
    (caseRef : Option String) {draft : Draft} (context : String)
    (drafted : office.Drafted ⟨credential.userId, some jurisdiction, caseType, caseRef⟩ event
      draft) :
    office.KeepsDiscipline ((office.journaled party).writeAs credential jurisdiction caseType
      caseRef event draft context) := by
  refine guarded_assures (Keeps.bind ?_ fun caller => write_disciplined caller drafted context) _
  exact caller_keeps (office.journaled_quiet party) _

/-- Every part of a delivery and of a callback is disciplined, in particular the four writes. -/
theorem parts_disciplined (office : Office σ) (party : Party) :
    (office.journaled party).Parts office.KeepsDiscipline where
  toCompositional := office.discipline_compositional
  search _ _ _ _ := searchIds_keeps (office.journaled_quiet party) _ _ _ _
  lease := Keeps.ask (office.journaled_quiet party).lease
  transform url request token :=
    Keeps.ask ((office.journaled_quiet party).transform url request token)
  pay command := Keeps.ask ((office.journaled_quiet party).pay command)

/-- Fetching a case is disciplined. -/
theorem fetchCase_disciplined (reference jurisdiction : String) :
    office.KeepsDiscipline ((office.journaled party).fetchCase reference jurisdiction) := by
  have quiet := office.journaled_quiet party
  refine Keeps.bind (credential_keeps quiet _) fun credential => ?_
  refine Keeps.bind (Keeps.attempt (guarded_assures ?_ _)) fun outcome => ?_
  · exact Keeps.bind (caller_keeps quiet _) fun caller => Keeps.ask (quiet.fetch caller reference)
  · split
    · exact Keeps.pure _
    · exact Keeps.fail _
    · exact Keeps.fail _

/-- Filing a record is disciplined. -/
theorem fileNewRecord_disciplined (envelope : Envelope) :
    office.KeepsDiscipline ((office.journaled party).fileNewRecord envelope) := by
  refine Assures.after_log (Keeps.bind (credential_keeps (office.journaled_quiet party) _) ?_)
  intro credential
  refine Keeps.bind (writeAs_disciplined _ _ _ _ _ (.record envelope rfl rfl)) fun created => ?_
  exact Assures.after_log (Keeps.pure _)

/-- Attaching evidence is disciplined. -/
theorem attachTo_disciplined (envelope : Envelope) (case : Case) :
    office.KeepsDiscipline ((office.journaled party).attachTo envelope case) := by
  refine Keeps.bind (credential_keeps (office.journaled_quiet party) _) fun credential => ?_
  refine Keeps.bind (Keeps.attempt (writeAs_disciplined _ _ _ _ _ (.evidence envelope rfl rfl))) ?_
  intro outcome
  split
  · exact Keeps.pure _
  · split
    · exact Keeps.fail _
    · exact Keeps.fail _
  · exact Keeps.fail _

/-- A delivery keeps the journal disciplined. -/
theorem deliver_disciplined (office : Office σ) (message : Json) :
    office.KeepsDiscipline ((office.journaled .systemUser).deliver message) := by
  have parts : (office.journaled .systemUser).DeliveryParts office.KeepsDiscipline := {
    toParts := office.parts_disciplined .systemUser
    fetch := fetchCase_disciplined
    create := fun jurisdiction caseType event envelopeId data context =>
      Keeps.bind (credential_keeps (office.journaled_quiet _) _) fun credential =>
        Keeps.bind (writeAs_disciplined _ _ _ _ _ (.application envelopeId data rfl)) fun _ =>
          Keeps.pure _
    file := fileNewRecord_disciplined
    attach := attachTo_disciplined }
  exact parts.deliver message

/-- A callback keeps the journal disciplined. -/
theorem process_disciplined (office : Office σ) (request : Callback.Request)
    (userToken userId : Option String) :
    office.KeepsDiscipline ((office.journaled .caseworker).process request userToken userId) := by
  have parts : (office.journaled .caseworker).CallbackParts office.KeepsDiscipline := {
    toParts := office.parts_disciplined .caseworker
    openCase := fun caller userId jurisdiction caseType event record service data context =>
      Keeps.bind (write_disciplined caller (.opened record service data rfl) context) fun _ =>
        Keeps.pure _ }
  exact parts.process request userToken userId

/-- The journal of a session is disciplined. -/
theorem journal_disciplined (office : Office σ) (peers : σ) (jobs : List Job) :
    office.Disciplined (office.journal peers jobs) := by
  refine office.session_induct (fun run => office.Disciplined run.peers.2) .empty ?_ ?_ jobs
  · intro message run disciplined
    exact (office.deliver_disciplined message).after_run disciplined
  · intro request userToken userId run disciplined
    exact (office.process_disciplined request userToken userId).after_run disciplined

/-! ### What a disciplined journal shows -/

variable {journal before after : List Call}

/-- A submission directly follows the start that it belongs to. -/
theorem Disciplined.follows {answer : Except Failure Case}
    (disciplined : office.Disciplined journal)
    (parts : journal = before ++ .submit party caller target submission answer :: after) :
    ∃ earlier event started,
      before = earlier ++ [.start party caller target event (.ok started)] ∧
      office.Builds target event started submission := by
  -- from the start to the end of the journal: the submission is its last call, or stands before
  induction disciplined generalizing before after with
  | empty => cases before <;> cases parts
  | @asks journal call earlier free inductionHypothesis =>
    rcases parts_append_last parts with ⟨-, -, rfl⟩ | ⟨rest, -, inside⟩
    · cases free
    · exact inductionHypothesis inside
  | @submits journal _ _ _ event started _ _ earlier built inductionHypothesis =>
    rcases parts_append_last parts with ⟨-, rfl, same⟩ | ⟨rest, -, inside⟩
    · cases same
      exact ⟨journal, event, started, rfl, built⟩
    · exact inductionHypothesis inside

/-- The calls after a start and before the next one. -/
def untilStart (calls : List Call) : List Call :=
  calls.takeWhile fun call => !call.isStart

/-- After a start comes one submission at most before the next start, it comes at once, and the
start has been answered. -/
theorem Disciplined.submits_after (disciplined : office.Disciplined journal) {start : Call}
    {first second : List Call} {answer : Except Failure Case}
    (parts : journal = before ++ start :: after)
    (inside : untilStart after =
      first ++ .submit party caller target submission answer :: second) :
    first = [] ∧ ∃ event started, start = .start party caller target event (.ok started) := by
  obtain ⟨rest, split⟩ : ∃ rest, after =
      first ++ .submit party caller target submission answer :: second ++ rest := by
    rw [← inside]
    exact ⟨_, List.takeWhile_append_dropWhile.symm⟩
  have whole : journal = (before ++ start :: first) ++
      .submit party caller target submission answer :: (second ++ rest) := by
    rw [parts, split]
    simp
  obtain ⟨earlier, event, started, directly, -⟩ := disciplined.follows whole
  rcases List.eq_nil_or_concat first with rfl | ⟨others, last, rfl⟩
  · obtain ⟨-, same⟩ := List.append_inj' directly rfl
    exact ⟨rfl, event, started, List.singleton_inj.mp same⟩
  · -- the call before the submission would be a start, but it is none
    rw [List.concat_eq_append, ← List.cons_append, ← List.append_assoc] at directly
    obtain ⟨-, same⟩ := List.append_inj' directly rfl
    have isLast : last ∈ untilStart after := by rw [inside]; simp
    have noStart := List.mem_takeWhile_imp isLast
    rw [List.singleton_inj.mp same] at noStart
    cases noStart

/-- A token may be used for a submission when a start has handed it out for the case type, the
case and the event of this submission, and no submission has carried it before. -/
def OpenFor (before : List Call) (target : CaseStore.Target) (submission : Submission) : Prop :=
  (∃ party caller issuedFor event started,
    .start party caller issuedFor event (.ok started) ∈ before ∧
    started.token = submission.token ∧ issuedFor.caseType = target.caseType ∧
    issuedFor.caseRef = target.caseRef ∧ submission.event.id = .str event) ∧
  ∀ party caller other used answer,
    .submit party caller other used answer ∈ before → used.token ≠ submission.token

/-- How a case store shows in a journal that hands out a fresh token with every start, names the
event in its answer, and refuses for its token no submission that may use it. -/
structure IssuesTokens (journal : List Call) (refuses : Failure → Prop) : Prop where
  fresh : (journal.filterMap Call.issued?).Nodup
  names : ∀ party caller target event started,
    .start party caller target event (.ok started) ∈ journal → started.eventId = .str event
  honours : ∀ before party caller target submission failure after,
    journal = before ++ .submit party caller target submission (.error failure) :: after →
    refuses failure → ¬OpenFor before target submission

/-- In a disciplined journal every submission may use its token. -/
theorem Disciplined.openFor (disciplined : office.Disciplined journal) {refuses : Failure → Prop}
    (issues : IssuesTokens journal refuses) {answer : Except Failure Case}
    (parts : journal = before ++ .submit party caller target submission answer :: after) :
    OpenFor before target submission := by
  obtain ⟨earlier, event, started, rfl, built⟩ := disciplined.follows parts
  obtain ⟨token, named⟩ := built.of_start
  have isStart : .start party caller target event (.ok started) ∈
      earlier ++ [Call.start party caller target event (.ok started)] := by simp
  constructor
  · refine ⟨party, caller, target, event, started, isStart, token.symm, rfl, rfl, ?_⟩
    rcases named with asStarted | asAsked
    · rw [asStarted]
      refine issues.names party caller target event started ?_
      rw [parts]
      exact List.mem_append_left _ isStart
    · exact asAsked
  · intro party' caller' other used answer' isSubmit sameToken
    -- the start of the other submission would have handed out the same token before
    have inEarlier : .submit party' caller' other used answer' ∈ earlier := by simpa using isSubmit
    obtain ⟨first, second, rfl⟩ := List.append_of_mem inEarlier
    have otherParts : journal = first ++ .submit party' caller' other used answer' ::
        (second ++ .start party caller target event (.ok started) ::
          .submit party caller target submission answer :: after) := by
      rw [parts]
      simp
    obtain ⟨start, event', started', rfl, otherBuilt⟩ := disciplined.follows otherParts
    have fresh := issues.fresh
    rw [otherParts] at fresh
    have clash : started'.token = started.token := by
      rw [← otherBuilt.of_start.1, sameToken, token]
    simp [List.filterMap_append, List.filterMap_cons, Call.issued?, List.nodup_append,
      clash] at fresh

/-- Every write that shows in a journal has two phases. -/
structure TwoPhased (office : Office σ) (journal : List Call) : Prop where
  /-- A submission directly follows the start of the same operation, made by the same party with
  the same tokens on the same target. It carries the token of the start, and was drafted from the
  answer to it. -/
  follows : ∀ before party caller target submission answer after,
    journal = before ++ .submit party caller target submission answer :: after →
    ∃ earlier event started,
      before = earlier ++ [.start party caller target event (.ok started)] ∧
      submission.token = started.token ∧ office.Builds target event started submission
  /-- There is one submission at most between a start and the next one. -/
  once : ∀ before party caller target event answer after,
    journal = before ++ .start party caller target event answer :: after →
    (untilStart after).countP Call.isSubmit ≤ 1
  /-- There is none after a start that has failed. -/
  unstarted : ∀ before party caller target event failure after,
    journal = before ++ .start party caller target event (.error failure) :: after →
    ∀ call ∈ untilStart after, call.isSubmit = false
  /-- A store that issues tokens never refuses a submission for its token. -/
  honoured : ∀ refuses, IssuesTokens journal refuses →
    ∀ party caller target submission failure,
      .submit party caller target submission (.error failure) ∈ journal → ¬refuses failure

/-- A list holds one element of a kind at most when such an element can only be its first. -/
theorem countP_le_one {α : Type} {kind : α → Bool} {items : List α}
    (first : ∀ before item after, items = before ++ item :: after → kind item = true →
      before = []) : items.countP kind ≤ 1 := by
  cases items with
  | nil => exact Nat.zero_le 1
  | cons item rest =>
    have none : rest.countP kind = 0 := by
      rw [List.countP_eq_zero]
      intro other isOther ofKind
      obtain ⟨before, after, rfl⟩ := List.append_of_mem isOther
      cases first (item :: before) other after rfl ofKind
    rw [List.countP_cons, none]
    split
    · exact Nat.le_refl 1
    · exact Nat.zero_le 1

/-- In every session of deliveries and callbacks, whatever the collaborators answer, all writes
have two phases. -/
theorem sessions_write_in_two_phases (office : Office σ) (peers : σ) (jobs : List Job) :
    office.TwoPhased (office.journal peers jobs) := by
  have disciplined := office.journal_disciplined peers jobs
  generalize office.journal peers jobs = journal at disciplined
  constructor
  case follows =>
    intro before party caller target submission answer after parts
    obtain ⟨earlier, event, started, directly, built⟩ := disciplined.follows parts
    exact ⟨earlier, event, started, directly, built.of_start.1, built⟩
  case once =>
    intro before party caller target event answer after parts
    refine countP_le_one fun first call second inside isSubmit => ?_
    cases call with
    | submit => exact (disciplined.submits_after parts inside).1
    | login | search | fetch | start | aside => cases isSubmit
  case unstarted =>
    intro before party caller target event failure after parts call isCall
    obtain ⟨first, second, inside⟩ := List.append_of_mem isCall
    cases call with
    | submit =>
      obtain ⟨-, other, started, same⟩ := disciplined.submits_after parts inside
      cases same
    | login | search | fetch | start | aside => rfl
  case honoured =>
    intro refuses issues party caller target submission failure isSubmit refused
    obtain ⟨before, after, parts⟩ := List.append_of_mem isSubmit
    exact issues.honours before party caller target submission failure after parts refused
      (disciplined.openFor issues parts)

end Office

namespace Simulation

/-- Two deliveries, of which the first has to write twice because its first submission fails. -/
def interruptedSession : List Call :=
  numberedOffice.journal { book := { failures := [(.submitCreate, .status (some 500))] } } [
    .delivery (sampleMessage "first" "NEW_APPLICATION"),
    .delivery (sampleMessage "second" "EXCEPTION")]

/-- Whether a start names its event in its answer, and a submission is not refused as a conflict. -/
def isRegular : Call → Bool
  | .start _ _ _ event (.ok started) => started.eventId.text? == some event
  | .submit _ _ _ _ (.error (.store failure)) => failure.status? != some 409
  | _ => true

/-- The store in memory issues tokens in this session, and refuses no submission for its token,
although one has failed. -/
theorem interrupted_session_is_honoured :
    Office.IssuesTokens interruptedSession
        (fun failure => ∃ message, failure = .store (.reported message (some 409))) ∧
      ∀ party caller target submission message,
        .submit party caller target submission (.error (.store (.reported message (some 409)))) ∉
          interruptedSession := by
  have regular : ∀ call ∈ interruptedSession, isRegular call = true := by
    decide +kernel
  have issues : Office.IssuesTokens interruptedSession
      fun failure => ∃ message, failure = .store (.reported message (some 409)) := by
    constructor
    case fresh => exact List.Nodup.of_map Json.text? (by decide +kernel)
    case names =>
      intro party caller target event started isStart
      have named : started.eventId.text? = some event := beq_iff_eq.mp (regular _ isStart)
      cases isText : started.eventId with
      | str name =>
        rw [isText] at named
        exact congrArg Json.str (Option.some.inj named)
      | null | bool | int | real | arr | obj =>
        rw [isText] at named
        cases named
    case honours =>
      rintro before party caller target submission _ after parts ⟨message, rfl⟩
      have isSubmit : .submit party caller target submission
          (.error (.store (.reported message (some 409)))) ∈ interruptedSession := by
        rw [parts]
        simp
      cases regular _ isSubmit
  refine ⟨issues, fun party caller target submission message isSubmit => ?_⟩
  exact (Office.sessions_write_in_two_phases numberedOffice _ _).honoured _ issues party caller
    target submission _ isSubmit ⟨message, rfl⟩

end Simulation
end Mailroom
