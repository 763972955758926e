import Mailroom.Proofs.CallOrder
import Mailroom.Proofs.DeliveryAttempts
import Mailroom.Proofs.OfficeWithPayments
import Mailroom.Proofs.Redelivery
import Mailroom.Proofs.SortedAnswers

/-!
# What an automatic creation comes to

Once it is known which cases an envelope has, an attempt to create one ends with an outcome,
whatever its collaborators do. The outcome is read off the calls that were made: a case that is
there already is named, a case that was created is the one that the store answered with, and a
failure is final exactly when the transformation service or the store will not have the request
as it is. All other failures may go away.

The calls come in one order. The search stands first, a transformation only after a search that
found nothing, and the two calls of a write only after a transformation that went well. One
outcome is counted, and where the search fails none.
-/

namespace Mailroom

open Mailroom.Flow

namespace Failure

/-- Whether a transformation fails for good: the answer is not of the agreed form, or it has the
status of a request that is bad or cannot be processed. -/
def isBadTransformation : Failure → Bool
  | .transformation (.invalidAnswer _) => true
  | .transformation (.rejected status _ _) => status == 400 || status == 422
  | _ => false

/-- Whether a write fails for good: the store answered with one of these statuses. -/
def isBadWrite : Failure → Bool
  | .store failure => failure.status? == some 400 || failure.status? == some 422
  | _ => false

end Failure

namespace Dealing

/-- Whether a call asks about users, for a token or for cases, and nothing else. -/
def isInquiry : Dealing → Bool
  | .login .. | .details .. | .lease .. | .search .. => true
  | _ => false

/-- Whether a call is one of the two that write a case. -/
def isWrite : Dealing → Bool
  | .start .. | .submit .. => true
  | _ => false

/-- Whether a call is a transformation that went well. -/
def isTransformed : Dealing → Bool
  | .transform _ _ _ (.ok _) => true
  | _ => false

/-- Whether a call is a transformation that failed for good. -/
def isRejected : Dealing → Bool
  | .transform _ _ _ (.error failure) => failure.isBadTransformation
  | _ => false

/-- Whether a call is a write that failed for good. -/
def isRefused : Dealing → Bool
  | .start _ _ _ (.error failure) | .submit _ _ _ (.error failure) => failure.isBadWrite
  | _ => false

/-- Whether a call started an event. -/
def isStarted : Dealing → Bool
  | .start _ _ _ (.ok _) => true
  | _ => false

/-- Whether a call submitted an event, and was answered with the case of an identity. -/
def isSubmitted (id : Option Int) : Dealing → Bool
  | .submit _ _ _ (.ok case) => case.id == id
  | _ => false

end Dealing

namespace CreationOutcome

/-- What a failed transformation comes to. -/
def ofTransformation : Failure → CreationOutcome
  | .transformation (.invalidAnswer _) | .transformation (.rejected ..) => .unrecoverable
  | _ => .recoverable

/-- What a write comes to. -/
def ofWrite : Except Failure Case → CreationOutcome
  | .ok case => .created case.id
  | .error failure => if failure.isBadWrite then .unrecoverable else .recoverable

end CreationOutcome

/-- A transformation that fails is final when it fails for good, where it is rejected only as a bad
request. -/
theorem CreationOutcome.ofTransformation_eq {failure : Failure}
    (rejects : ∀ status objections body,
      failure = .transformation (.rejected status objections body) → status = 400 ∨ status = 422) :
    CreationOutcome.ofTransformation failure =
      if failure.isBadTransformation then .unrecoverable else .recoverable := by
  cases failure with
  | transformation reason =>
    cases reason with
    | invalidAnswer violations => rfl
    | unavailable message status => rfl
    | rejected status objections body =>
      have bad := rejects status objections body rfl
      simp [ofTransformation, Failure.isBadTransformation, bad]
  | _ => rfl

/-- A transformation that is rejected has the status of a request that is bad or cannot be
processed. -/
def Peers.RejectsBadRequests {σ : Type} (peers : Peers σ) : Prop :=
  ∀ url request token state status objections body,
    (peers.transform url request token state).1.result =
        .error (.transformation (.rejected status objections body)) →
      status = 400 ∨ status = 422

/-- Over the network, a rejection is one of these two. -/
theorem Http.peers_rejectsBadRequests {σ : Type} (transport : Transport σ) (settings : Settings) :
    (Http.peers transport settings).RejectsBadRequests := by
  let isBad : Failure → Prop := fun failure => ∀ status objections body,
    failure = .transformation (.rejected status objections body) → status = 400 ∨ status = 422
  intro url request token peer status objections body rejected
  have fails : FailsBy isBad (transform transport url request token peer).1.result := by
    refine transform_failsBy (fun _ _ _ _ => nofun) ?_ transport url request token peer
    intro failure rejects status objections body same
    have rejection := rejects status objections body (Failure.transformation.inj same)
    simpa [isRejection] using rejection
  exact fails _ rejected status objections body rfl

/-- Over the network, a transformation fails for good exactly when the status of the answer rejects
the request, or the answer is one of success whose body is JSON but not of the agreed form. -/
theorem Http.Sorted.failsForGood_iff {came : Except String Http.Response}
    {result : Except Failure Transformation.Answer} (sorted : Http.Sorted came result) :
    (∃ failure, result = .error failure ∧ failure.isBadTransformation) ↔
      ∃ response, came = .ok response ∧ (response.status = 400 ∨ response.status = 422 ∨
        response.isSuccess ∧ ∃ body, response.json? = .ok (some body) ∧
          ∀ answer, ¬ Transformation.IsAnswer body answer) := by
  constructor
  · rintro ⟨failure, rfl, bad⟩
    cases failure with
    | transformation reason =>
      cases reason with
      | invalidAnswer violations =>
        obtain ⟨response, body, answered, success, read, unformed⟩ :=
          sorted.invalid.mp ⟨violations, rfl⟩
        exact ⟨response, answered, .inr (.inr ⟨success, body, read, unformed⟩)⟩
      | rejected status objections text =>
        obtain ⟨response, answered, rejects, rfl, -⟩ :=
          (sorted.rejected status objections text).mp rfl
        exact ⟨response, answered, rejects.imp_right .inl⟩
      | unavailable message status => cases bad
    | _ => cases bad
  · rintro ⟨response, answered, ends⟩
    rw [← or_assoc] at ends
    rcases ends with rejects | ⟨success, body, read, unformed⟩
    · obtain ⟨objections, objected, -⟩ := Http.rejection_result response
      refine ⟨_, (sorted.rejected response.status objections response.text).mpr
        ⟨response, answered, rejects, rfl, rfl, objected⟩, ?_⟩
      simpa [Failure.isBadTransformation] using rejects
    · obtain ⟨violations, invalid⟩ :=
        sorted.invalid.mpr ⟨response, body, answered, success, read, unformed⟩
      exact ⟨_, invalid, rfl⟩

namespace Office

/-- A case of this identity was created: nothing was found, the transformation went well, and so
did both calls of the write, the last of which named the case. -/
def CameTo (ids : List (Option Int)) (said : List Dealing) (id : Option Int) : Prop :=
  ids = [] ∧ said.any (·.isTransformed) ∧ said.any (·.isStarted) ∧ said.any (·.isSubmitted id)

/-- Another attempt would fail as well: there are several cases, or there was none and the
transformation was rejected, or it went well and the store refused to write. -/
def IsHopeless (ids : List (Option Int)) (said : List Dealing) : Prop :=
  1 < ids.length ∨
    ids = [] ∧ (said.any (·.isRejected) ∨ said.any (·.isTransformed) ∧ said.any (·.isRefused))

/-- The outcome of an attempt to create a case, after a search that has found these, is the one
that the calls make it. -/
structure Classified (ids : List (Option Int)) (said : List Dealing) (outcome : CreationOutcome) :
    Prop where
  existed : ∀ id, outcome = .alreadyExists id ↔ ids = [id]
  created : ∀ id, outcome = .created id ↔ CameTo ids said id
  unrecoverable : outcome = .unrecoverable ↔ IsHopeless ids said
  recoverable : outcome = .recoverable ↔
    (∀ id, ids ≠ [id]) ∧ (∀ id, ¬CameTo ids said id) ∧ ¬IsHopeless ids said

/-- The calls after a search are in order: there are none unless the search found nothing, and
a case is written only after a transformation that went well. -/
structure InOrder (ids : List (Option Int)) (said : List Dealing) : Prop where
  afterSearch : ids ≠ [] → said = []
  afterTransformation : ∀ earlier call later, said = earlier ++ call :: later → call.isWrite →
    earlier.any (·.isTransformed)

/-! ### How far an attempt comes -/

section Course

variable {σ : Type} {office : Office σ} {prior : List Dealing} {kind refusal : Failure → Prop}

/-- A transcript that goes on from an earlier one with asides alone. -/
abbrev Waits (prior : List Dealing) : List Dealing → Prop :=
  Besides (· = prior)

/-- How a transformation ends: it is never asked for, or it is the last call. -/
inductive TransformEnds (prior : List Dealing) (kind refusal : Failure → Prop) :
    Except Failure Transformation.Answer → List Dealing → Prop where
  | unasked {failure said} (ofKind : kind failure ∨ ∃ reason, failure = .ofRequest reason)
    (before : Waits prior said) : TransformEnds prior kind refusal (.error failure) said
  | asked {url request token answer said} (refused : ∀ failure, answer = .error failure → refusal failure)
    (before : Waits prior said) :
    TransformEnds prior kind refusal answer (said ++ [.transform url request token answer])

/-- An envelope of a configured service is transformed when there is a token and a request. -/
theorem transformEnvelope_ends (vouching : office.peers.Vouching kind)
    (refuses : ∀ url request token state failure,
      (office.peers.transform url request token state).1.result = .error failure → refusal failure)
    {envelope : Envelope} {service : Service}
    (known : office.services.get (some envelope.container) = .ok service) (context : String) :
    (office.transcribed.transformEnvelope envelope context).Tells (· = prior)
      (fun answer => TransformEnds prior kind refusal (.ok answer))
      (fun failure => TransformEnds prior kind refusal (.error failure)) := by
  let ends := TransformEnds prior kind refusal
  have leases : (ask office.transcribed.peers.lease).Tells (· = prior) (fun _ => Waits prior)
      (fun failure => ends (.error failure)) := by
    have asks : (ask office.transcribed.peers.lease).Confines
        (fun state => Waits prior state.2) kind :=
      ask_besides .lease _ (fun _ => rfl) vouching.lease
    refine asks.weaken ?_ (fun _ _ => id) fun _ _ refused => .unasked (.inl refused.1) refused.2
    intro state atStart
    exact .here atStart
  refine Assures.bind leases fun token => ?_
  have looksUp : (office.transcribed.serviceNamed (some envelope.container)).Tells (Waits prior)
      (fun found said => found = service ∧ Waits prior said) (fun failure => ends (.error failure)) := by
    have configured : office.transcribed.services.get (some envelope.container) = .ok service := known
    unfold serviceNamed
    rw [configured]
    exact Assures.pure service fun _ held => ⟨rfl, held⟩
  refine Assures.bind looksUp fun found => Assures.given ?_
  rintro rfl
  have builds : (lift ((Transformation.Request.ofEnvelope office.transcribed.documents
      envelope).mapError Failure.ofRequest)).Tells (σ := σ) (Waits prior) (fun _ => Waits prior)
      (fun failure => ends (.error failure)) := by
    cases Transformation.Request.ofEnvelope office.transcribed.documents envelope with
    | ok request => exact Assures.pure request fun _ => id
    | error reason => exact Assures.fail _ fun _ held => .unasked (.inr ⟨reason, rfl⟩) held
  refine Assures.bind builds fun request => ?_
  have asks : (ask (office.transcribed.peers.transform found.transformationUrl request token)).Tells
      (Waits prior) (fun answer => ends (.ok answer)) (fun failure => ends (.error failure)) := by
    refine Assures.ask _ fun state held => ?_
    have refused := refuses found.transformationUrl request token state.1
    dsimp only [Peers.transcribed, Office.transcribed, Dealing.written]
    cases answered : (office.peers.transform found.transformationUrl request token state.1).1.result with
    | ok answer => exact .asked nofun held
    | error failure => exact .asked (fun _ same => refused _ (answered.trans same)) held
  exact Assures.bind asks fun answer => Assures.after_log (Assures.pure answer fun _ => id)

/-- A case is created by a write, which logs in and leases first. -/
theorem createCase_ends {kept : List Dealing → Prop} (vouching : office.peers.Vouching kind)
    (jurisdiction caseType event : String) (draft : Draft) (context : String) :
    let ends (result : Except Failure Case) (said : List Dealing) := ∃ userId,
      WriteEnds kept kind ⟨userId, some jurisdiction, .str caseType, none⟩ event draft result said
    (office.transcribed.createCase jurisdiction caseType event draft context).Tells kept
      (fun id said => ∃ case, case.id = id ∧ ends (.ok case) said)
      (fun failure => ends (.error failure)) := by
  intro ends
  have logsIn : (office.transcribed.credential (some jurisdiction)).Tells kept
      (fun _ => Besides kept) (fun failure => ends (.error failure)) := by
    refine (credential_besides vouching jurisdiction).weaken ?_ (fun _ _ => id)
      fun _ _ refused => ⟨.null, .unleased refused.1 refused.2⟩
    intro state held
    exact .here held
  refine Assures.bind logsIn fun credential => ?_
  have writes : (office.transcribed.writeAs credential jurisdiction (.str caseType) none event draft
      context).Tells (Besides kept) (fun case => ends (.ok case))
      (fun failure => ends (.error failure)) :=
    (writeAs_ends vouching credential jurisdiction _ none event draft context).to_end
      (fun _ _ ended => ⟨_, ended⟩) fun _ _ ended => ⟨_, ended⟩
  exact Assures.bind writes fun case => Assures.pure case.id fun _ ended => ⟨case, rfl, ended⟩

/-- How an attempt ends that found no case: with a transformation in vain, or with what came of
the write after it. -/
inductive CreationEnds (prior : List Dealing) (kind refusal : Failure → Prop) :
    CreationOutcome → List Dealing → Prop where
  | untransformed {failure said} (ends : TransformEnds prior kind refusal (.error failure) said) :
    CreationEnds prior kind refusal (.ofTransformation failure) said
  | written {answer target event draft result said}
    (drafts : ∀ started, ∃ submission, draft started = .ok submission)
    (ends : WriteEnds (TransformEnds prior kind refusal (.ok answer)) kind target event draft
      result said) : CreationEnds prior kind refusal (.ofWrite result) said

/-- Work that logs a line and ends with an outcome never fails. -/
theorem logs_outcome {before : List Dealing → Prop} {done : CreationOutcome → List Dealing → Prop}
    {level : LogLevel} {message : String} {outcome : CreationOutcome}
    (holds : ∀ said, before said → done outcome said) :
    (Flow.log level message >>= fun _ => pure outcome : Flow (σ × List Dealing) _).Tells before done
      fun _ _ => False :=
  Assures.after_log (Assures.pure outcome fun _ => holds _)

/-- A failed transformation is an outcome, not a failure. -/
theorem transformationOutcome_ends (context : String) (failure : Failure) :
    (transformationOutcome context failure).Tells (σ := σ)
      (TransformEnds prior kind refusal (.error failure)) (CreationEnds prior kind refusal)
      fun _ _ => False := by
  have ends : ∀ said, TransformEnds prior kind refusal (.error failure) said →
    CreationEnds prior kind refusal (.ofTransformation failure) said := fun _ => .untransformed
  unfold transformationOutcome
  split
  · exact logs_outcome ends
  · split
    · exact logs_outcome ends
    · exact logs_outcome ends
  case h_3 other rejects =>
    have verdict : CreationOutcome.ofTransformation failure = .recoverable := by
      unfold CreationOutcome.ofTransformation
      split
      case h_1 violations => exact (other _ rfl).elim
      case h_2 status objections body => exact (rejects _ _ _ rfl).elim
      case h_3 => rfl
    rw [verdict] at ends
    exact logs_outcome ends

/-- A failed write is an outcome, not a failure. -/
theorem creationFailureOutcome_ends (before : List Dealing → Prop) (context : String)
    (failure : Failure) :
    (creationFailureOutcome context failure).Tells (σ := σ) before
      (fun outcome said => outcome = .ofWrite (.error failure) ∧ before said)
      fun _ _ => False := by
  unfold creationFailureOutcome
  split
  case h_1 failure =>
    dsimp only [CreationOutcome.ofWrite, Failure.isBadWrite]
    split
    case h_1 status => exact logs_outcome fun _ held => ⟨by simp [status], held⟩
    case h_2 status => exact logs_outcome fun _ held => ⟨by simp [status], held⟩
    case h_3 notBad notUnprocessable =>
      have passing : (failure.status? == some 400 || failure.status? == some 422) = false := by
        simp only [Bool.or_eq_false_iff, beq_eq_false_iff_ne]
        exact ⟨notBad, notUnprocessable⟩
      exact logs_outcome fun _ held => ⟨by simp [passing], held⟩
  case h_2 other =>
    refine logs_outcome fun _ held => ⟨?_, held⟩
    cases failure with
    | store failure => exact (other failure rfl).elim
    | _ => rfl

/-- What is created from an answer is created by a write. -/
theorem createFromAnswer_ends (vouching : office.peers.Vouching kind) (envelope : Envelope)
    (context : String) (answer : Transformation.Answer) :
    (office.transcribed.createFromAnswer envelope context answer).Tells
      (TransformEnds prior kind refusal (.ok answer)) (CreationEnds prior kind refusal)
      fun _ _ => False := by
  have drafts : ∀ started, ∃ submission,
      caseDraft envelope.id answer.draft.data started = .ok submission := fun _ => ⟨_, rfl⟩
  refine Assures.attempting _ _ (createCase_ends vouching _ _ _ _ context) fun outcome => ?_
  cases outcome with
  | ok id =>
    refine Assures.after_log (Assures.pure _ ?_)
    rintro state ⟨case, rfl, userId, ends⟩
    exact .written drafts ends
  | error failure =>
    let uncreated (said : List Dealing) : Prop := ∃ target,
      WriteEnds (TransformEnds prior kind refusal (.ok answer)) kind target answer.draft.eventId
        (caseDraft envelope.id answer.draft.data) (.error failure) said
    have concluded : (creationFailureOutcome context failure).Tells (σ := σ) uncreated
        (CreationEnds prior kind refusal) fun _ _ => False := by
      refine (creationFailureOutcome_ends uncreated context failure).to_end ?_ fun _ _ => id
      rintro outcome state ⟨rfl, target, ends⟩
      exact .written drafts ends
    exact concluded.from_start fun _ ⟨_, ends⟩ => ⟨_, ends⟩

/-- An attempt that found no case ends with an outcome. -/
theorem createNewCase_ends (vouching : office.peers.Vouching kind)
    (refuses : ∀ url request token state failure,
      (office.peers.transform url request token state).1.result = .error failure → refusal failure)
    {envelope : Envelope} {service : Service}
    (known : office.services.get (some envelope.container) = .ok service) (context : String) :
    (office.transcribed.createNewCase envelope context).Tells (· = prior)
      (CreationEnds prior kind refusal) fun _ _ => False := by
  refine Assures.attempting _ _ (transformEnvelope_ends vouching refuses known context)
    fun outcome => ?_
  cases outcome with
  | ok answer => exact createFromAnswer_ends vouching envelope context answer
  | error failure => exact transformationOutcome_ends context failure

end Course

/-! ### What the calls make of it -/

/-- None of these calls is a write. -/
def WritesNothing (said : List Dealing) : Prop :=
  ∀ call ∈ said, call.isWrite = false

/-- Where nothing is written, nothing is started, refused or submitted. -/
theorem WritesNothing.any_eq_false {said : List Dealing} (unwritten : WritesNothing said)
    {test : Dealing → Bool} (isWrite : ∀ call, call.isWrite = false → test call = false) :
    said.any test = false := by
  simp only [List.any_eq_false, Bool.not_eq_true]
  intro call isSaid
  exact isWrite call (unwritten call isSaid)

/-- A call that is no write starts nothing. -/
theorem isStarted_of_unwritten (call : Dealing) (unwritten : call.isWrite = false) :
    call.isStarted = false := by
  cases call with
  | start => cases unwritten
  | _ => rfl

/-- A call that is no write is not refused. -/
theorem isRefused_of_unwritten (call : Dealing) (unwritten : call.isWrite = false) :
    call.isRefused = false := by
  cases call with
  | start => cases unwritten
  | submit => cases unwritten
  | _ => rfl

/-- A call that is no write submits nothing. -/
theorem isSubmitted_of_unwritten (id : Option Int) (call : Dealing)
    (unwritten : call.isWrite = false) : call.isSubmitted id = false := by
  cases call with
  | submit => cases unwritten
  | _ => rfl

/-- An aside is neither a transformation nor a write. -/
theorem aside_is_neither (call : Dealing) (isAside : call.isAside) :
    call.isTransformed = false ∧ call.isRejected = false ∧ call.isWrite = false := by
  cases call with
  | login => exact ⟨rfl, rfl, rfl⟩
  | details => exact ⟨rfl, rfl, rfl⟩
  | lease => exact ⟨rfl, rfl, rfl⟩
  | _ => cases isAside

/-- Calls of which none is a write: whether a transformation among them went well, and whether one
failed for good. -/
structure Prepares (transformed rejected : Bool) (said : List Dealing) : Prop where
  transformed : said.any (·.isTransformed) = transformed
  rejected : said.any (·.isRejected) = rejected
  unwritten : WritesNothing said

/-- A transcript goes on from an earlier one with calls that have a property. -/
def Since (prior : List Dealing) (property : List Dealing → Prop) (said : List Dealing) : Prop :=
  ∃ rest, said = prior ++ rest ∧ property rest

section Calls

variable {σ : Type} {prior said rest : List Dealing} {kind refusal : Failure → Prop}
  {transformed rejected : Bool}

/-- Asides make no difference to what was prepared. -/
theorem Prepares.asides (prepares : Prepares transformed rejected said) {asides : List Dealing}
    (areAsides : ∀ call ∈ asides, call.isAside) :
    Prepares transformed rejected (said ++ asides) := by
  have untransformed : asides.any (·.isTransformed) = false := by
    simp only [List.any_eq_false, Bool.not_eq_true]
    exact fun call isOne => (aside_is_neither call (areAsides call isOne)).1
  have unrejected : asides.any (·.isRejected) = false := by
    simp only [List.any_eq_false, Bool.not_eq_true]
    exact fun call isOne => (aside_is_neither call (areAsides call isOne)).2.1
  constructor
  · rw [List.any_append, untransformed, Bool.or_false, prepares.transformed]
  · rw [List.any_append, unrejected, Bool.or_false, prepares.rejected]
  · refine List.forall_mem_append.mpr ⟨prepares.unwritten, fun call isOne => ?_⟩
    exact (aside_is_neither call (areAsides call isOne)).2.2

/-- So they do after a transcript that something was prepared in. -/
theorem prepares_besides {kept : List Dealing → Prop}
    (prepared : ∀ said, kept said → Since prior (Prepares transformed rejected) said)
    (besides : Besides kept said) : Since prior (Prepares transformed rejected) said := by
  obtain ⟨earlier, asides, rfl, isKept, areAsides⟩ := besides
  obtain ⟨rest, rfl, prepares⟩ := prepared earlier isKept
  exact ⟨rest ++ asides, List.append_assoc .., prepares.asides areAsides⟩

/-- Waiting prepares nothing. -/
theorem prepares_waiting (waits : Waits prior said) : Since prior (Prepares false false) said := by
  refine prepares_besides ?_ waits
  rintro earlier rfl
  exact ⟨[], (List.append_nil _).symm, rfl, rfl, List.forall_mem_nil _⟩

/-- A transformation that was asked for prepares what its answer says. -/
theorem prepares_transformation (waits : Waits prior said) (url : Option String)
    (request : Transformation.Request) (token : String)
    (answer : Except Failure Transformation.Answer) :
    let call : Dealing := .transform url request token answer
    Since prior (Prepares call.isTransformed call.isRejected) (said ++ [call]) := by
  intro call
  obtain ⟨rest, rfl, prepares⟩ := prepares_waiting waits
  refine ⟨rest ++ [call], List.append_assoc .., ?_, ?_, ?_⟩
  · rw [List.any_append, prepares.transformed]
    simp
  · rw [List.any_append, prepares.rejected]
    simp
  · exact List.forall_mem_append.mpr ⟨prepares.unwritten, List.forall_mem_singleton.mpr rfl⟩

/-- A transformation that went well prepares a write. -/
theorem TransformEnds.prepares {answer : Transformation.Answer}
    (ends : TransformEnds prior kind refusal (.ok answer) said) :
    Since prior (Prepares true false) said := by
  cases ends with
  | asked refused waits => exact prepares_transformation waits _ _ _ _

/-- Calls that write nothing are in order. -/
theorem Prepares.inOrder (prepares : Prepares transformed rejected rest) : InOrder [] rest where
  afterSearch found := (found rfl).elim
  afterTransformation earlier call later same isWrite := by
    have isSaid : call ∈ rest := by simp [same]
    rw [prepares.unwritten call isSaid] at isWrite
    cases isWrite

/-- Any calls after a transformation that went well are in order. -/
theorem Prepares.inOrder_append (prepares : Prepares true rejected rest) (calls : List Dealing) :
    InOrder [] (rest ++ calls) where
  afterSearch found := (found rfl).elim
  afterTransformation earlier call later same isWrite := by
    rcases List.append_eq_append_iff.mp same with ⟨more, rfl, _⟩ | ⟨more, rfl, split⟩
    · rw [List.any_append, prepares.transformed, Bool.true_or]
    · cases more with
      | nil =>
        have whole := prepares.transformed
        rwa [List.append_nil] at whole
      | cons first more =>
        obtain ⟨rfl, _⟩ := List.cons.inj split
        rw [prepares.unwritten call (by simp)] at isWrite
        cases isWrite

/-- The calls of a write as they stand in a row: none, a start in vain, or a start and the
submission after it. -/
inductive WriteCalls (kind : Failure → Prop) : Except Failure Case → List Dealing → Prop where
  | nothing {failure} (ofKind : kind failure) : WriteCalls kind (.error failure) []
  | start (caller target event failure) :
    WriteCalls kind (.error failure) [.start caller target event (.error failure)]
  | both (caller target event started submission result) :
    WriteCalls kind result [.start caller target event (.ok started), .submit caller target submission result]

/-- What was written stands after what was prepared. -/
theorem writes_of_ends {answer : Transformation.Answer} {target : CaseStore.Target} {event : String}
    {draft : Draft} {result : Except Failure Case}
    (drafts : ∀ started, ∃ submission, draft started = .ok submission)
    (ends : WriteEnds (TransformEnds prior kind refusal (.ok answer)) kind target event draft
      result said) :
    ∃ rest calls, said = prior ++ (rest ++ calls) ∧ Prepares true false rest ∧
      WriteCalls kind result calls := by
  have prepared {earlier : List Dealing}
      (besides : Besides (TransformEnds prior kind refusal (.ok answer)) earlier) :
      ∃ rest, earlier = prior ++ rest ∧ Prepares true false rest := by
    refine prepares_besides ?_ besides
    intro said transformed
    exact transformed.prepares
  cases ends with
  | unleased ofKind besides =>
    obtain ⟨rest, rfl, prepares⟩ := prepared besides
    exact ⟨rest, [], by rw [List.append_nil], prepares, .nothing ofKind⟩
  | unstarted besides =>
    obtain ⟨rest, rfl, prepares⟩ := prepared besides
    exact ⟨rest, _, List.append_assoc .., prepares, .start _ _ _ _⟩
  | undrafted besides drafted =>
    obtain ⟨submission, well⟩ := drafts _
    rw [well] at drafted
    cases drafted
  | @submitted caller started submission _ _ besides drafted =>
    obtain ⟨rest, rfl, prepares⟩ := prepared besides
    refine ⟨rest, _, ?_, prepares, .both caller target event started submission result⟩
    rw [List.append_assoc, List.append_assoc]
    rfl

/-- However an attempt ends, its calls are in order. -/
theorem CreationEnds.inOrder {outcome : CreationOutcome}
    (ends : CreationEnds prior kind refusal outcome said) : Since prior (InOrder []) said := by
  cases ends with
  | untransformed ends =>
    cases ends with
    | unasked ofKind waits =>
      obtain ⟨rest, same, prepares⟩ := prepares_waiting waits
      exact ⟨rest, same, prepares.inOrder⟩
    | asked refused waits =>
      obtain ⟨rest, same, prepares⟩ := prepares_transformation waits _ _ _ _
      exact ⟨rest, same, prepares.inOrder⟩
  | written drafts ends =>
    obtain ⟨rest, calls, same, prepares, _⟩ := writes_of_ends drafts ends
    exact ⟨rest ++ calls, same, prepares.inOrder_append calls⟩

/-! ### The classification -/

variable {ids : List (Option Int)} {id : Option Int}

/-- A case that was found is the outcome. -/
theorem Classified.found : Classified [id] said (.alreadyExists id) where
  existed other := by simp
  created other := by simp [CameTo]
  unrecoverable := by simp [IsHopeless]
  recoverable := by simp

/-- A case that was created is the outcome. -/
theorem Classified.done (came : CameTo [] said id) (only : ∀ other, CameTo [] said other → id = other)
    (hopeful : ¬IsHopeless [] said) : Classified [] said (.created id) where
  existed other := by simp
  created other := by
    constructor
    · rintro ⟨⟩
      exact came
    · intro cameToo
      rw [only other cameToo]
  unrecoverable := by simp [hopeful]
  recoverable := by
    simp only [reduceCtorEq, false_iff, not_and]
    exact fun _ uncreated => (uncreated id came).elim

/-- Where no case was found or created, a failure is final when another attempt is hopeless. -/
theorem Classified.failed (unfound : ∀ id, ids ≠ [id]) (uncreated : ∀ id, ¬CameTo ids said id)
    {final : Bool} (hopeless : IsHopeless ids said ↔ final = true) :
    Classified ids said (if final then .unrecoverable else .recoverable) where
  existed other := by cases final <;> simp [unfound]
  created other := by cases final <;> simp [uncreated]
  unrecoverable := by cases final <;> simp [hopeless]
  recoverable := by cases final <;> simp [hopeless, unfound, uncreated]

/-- An attempt is classified by its calls, where users and leases fail with a failed
authentication, and a transformation is rejected only as a bad request. -/
theorem CreationEnds.classified {outcome : CreationOutcome}
    (ends : CreationEnds prior kind refusal outcome said)
    (unvouched : ∀ failure, kind failure → failure.IsOf .authentication)
    (refused : ∀ failure, refusal failure → CreationOutcome.ofTransformation failure =
      if failure.isBadTransformation then .unrecoverable else .recoverable) :
    Since prior (Classified [] · outcome) said := by
  have unfound (id : Option Int) : ([] : List (Option Int)) ≠ [id] := nofun
  cases ends with
  | @untransformed failure _ ends =>
    have untransformed {rest : List Dealing} {final : Bool} (prepares : Prepares false final rest) :
        Classified [] rest (if final then .unrecoverable else .recoverable) := by
      refine Classified.failed unfound ?_ ?_
      · rintro id ⟨_, transformed, _⟩
        rw [prepares.transformed] at transformed
        cases transformed
      · simp [IsHopeless, prepares.transformed, prepares.rejected]
    cases ends with
    | unasked ofKind waits =>
      have verdict : CreationOutcome.ofTransformation failure = .recoverable := by
        rcases ofKind with ofKind | ⟨reason, rfl⟩
        · obtain ⟨reason, rfl⟩ | ⟨fault, rfl⟩ := unvouched failure ofKind
          · rfl
          · rfl
        · cases reason with
          | invalid => rfl
          | faulty => rfl
      obtain ⟨rest, same, prepares⟩ := prepares_waiting waits
      rw [verdict]
      exact ⟨rest, same, untransformed prepares⟩
    | asked refuses waits =>
      obtain ⟨rest, same, prepares⟩ := prepares_transformation waits _ _ _ _
      rw [refused _ (refuses _ rfl)]
      exact ⟨rest, same, untransformed prepares⟩
  | @written _ _ _ _ result _ drafts ends =>
    obtain ⟨rest, calls, same, prepares, writes⟩ := writes_of_ends drafts ends
    refine ⟨rest ++ calls, same, ?_⟩
    have unstarted := prepares.unwritten.any_eq_false isStarted_of_unwritten
    have unrefused := prepares.unwritten.any_eq_false isRefused_of_unwritten
    have unsubmitted := fun id => prepares.unwritten.any_eq_false (isSubmitted_of_unwritten id)
    -- What was prepared is a transformation that went well, so that the calls of the write decide.
    have cameTo (id : Option Int) : CameTo [] (rest ++ calls) id ↔
        calls.any (·.isStarted) = true ∧ calls.any (·.isSubmitted id) = true := by
      simp [CameTo, prepares.transformed, unstarted, unsubmitted]
    have hopeless : calls.any (·.isRejected) = false →
        (IsHopeless [] (rest ++ calls) ↔ calls.any (·.isRefused) = true) := by
      intro unrejected
      simp [IsHopeless, prepares.transformed, prepares.rejected, unrefused, unrejected]
    cases writes with
    | @nothing failure ofKind =>
      have verdict : failure.isBadWrite = false := by
        obtain ⟨reason, rfl⟩ | ⟨fault, rfl⟩ := unvouched failure ofKind
        · rfl
        · rfl
      have uncreated (id : Option Int) : ¬CameTo [] (rest ++ []) id := by
        rw [cameTo]
        rintro ⟨started, _⟩
        cases started
      refine Classified.failed unfound uncreated ?_
      rw [hopeless rfl, verdict]
      rfl
    | start caller target event failure =>
      have uncreated (id : Option Int) :
          ¬CameTo [] (rest ++ [.start caller target event (.error failure)]) id := by
        rw [cameTo]
        rintro ⟨started, _⟩
        cases started
      refine Classified.failed unfound uncreated ?_
      rw [hopeless rfl]
      simp [Dealing.isRefused]
    | both caller target event started submission result =>
      cases result with
      | ok case =>
        refine Classified.done ?_ ?_ ?_
        · rw [cameTo]
          simp [Dealing.isStarted, Dealing.isSubmitted]
        · intro other
          rw [cameTo]
          simp [Dealing.isStarted, Dealing.isSubmitted]
        · rw [hopeless rfl]
          simp [Dealing.isRefused]
      | error failure =>
        refine Classified.failed unfound ?_ ?_
        · intro id
          rw [cameTo]
          simp [Dealing.isSubmitted]
        · rw [hopeless rfl]
          simp [Dealing.isRefused]

end Calls

/-! ### The search, and the whole -/

section Whole

variable {σ : Type} {office : Office σ}

/-- Nothing but users, tokens and cases was asked for. -/
def Inquiries (said : List Dealing) : Prop :=
  ∀ call ∈ said, call.isInquiry

/-- One more inquiry. -/
theorem ask_inquires {α : Type} {call : Except Failure α → Dealing} {question : Ask σ α}
    (isInquiry : ∀ answer, (call answer).isInquiry) :
    (ask (Dealing.written call question)).Retains Inquiries := by
  have further : ∀ said answer, Inquiries said → Inquiries (said ++ [call answer]) := by
    intro said answer inquiries
    exact List.forall_mem_append.mpr ⟨inquiries, List.forall_mem_singleton.mpr (isInquiry answer)⟩
  refine ask_tells call question fun said answer inquiries => ?_
  cases answer with
  | ok value => exact further said _ inquiries
  | error failure => exact further said _ inquiries

/-- Getting a credential takes inquiries. -/
theorem credential_inquires (jurisdiction : Option String) :
    (office.transcribed.credential jurisdiction).Retains Inquiries := by
  cases jurisdiction with
  | none => exact Keeps.fail _
  | some name =>
    refine credential_passes name (fun _ _ inquiries => inquiries) fun login => ?_
    exact Keeps.bind (ask_inquires fun _ => rfl) fun token =>
      Keeps.bind (ask_inquires fun _ => rfl) fun _ => Keeps.pure _

/-- Searching the cases of an envelope takes inquiries. -/
theorem casesByEnvelope_inquires (envelopeId name : String) :
    (office.transcribed.casesByEnvelope envelopeId name).Retains Inquiries := by
  refine Keeps.bind (serviceNamed_keeps _) fun service => ?_
  split
  · exact Keeps.bind (Keeps.log _ _) fun _ => Keeps.pure _
  · refine Keeps.bind (credential_inquires _) fun credential => ?_
    refine Keeps.bind (guarded_assures ?_ _) fun _ => Keeps.pure _
    refine Keeps.bind (Keeps.bind (ask_inquires fun _ => rfl) fun _ => Keeps.pure _) fun caller => ?_
    exact ask_inquires fun _ => rfl

/-- Turn an envelope into a case, given the cases that it has. -/
def createGiven (office : Office σ) (envelope : Envelope) (context : String) :
    List (Option Int) → Flow σ CreationOutcome
  | [] => office.createNewCase envelope context
  | [id] => do
    log .warning ("Case already exists for envelope - skipping creation. Case ID: "
      ++ Case.idText id ++ ". " ++ context)
    return .alreadyExists id
  | ids => do
    log .error ("Multiple cases exist for envelope. Case Ids: [" ++ idList "," ids ++ "]. "
      ++ context)
    return .unrecoverable

/-- An attempt to create a case of a service that allows it searches first, goes on with what was
found, and counts the outcome. -/
theorem createAutomatically_run (office : Office σ) {envelope : Envelope} {service : Service}
    (known : office.services.get (some envelope.container) = .ok service)
    (allowed : service.createsCasesAutomatically = true) (run : Run σ) :
    ∃ entries context,
      let search := (office.casesByEnvelope envelope.id envelope.container).run
        { run with log := run.log ++ entries }
      (office.createAutomatically envelope).run run = match search.1 with
        | .error failure => (.error failure, search.2)
        | .ok ids => (office.createGiven envelope context ids >>= fun outcome =>
            count (.caseCreation envelope.container outcome.name) >>= fun _ =>
              pure outcome).run search.2 := by
  let context := envelope.logContext none
  let opening := "Started attempt to automatically create a new case from envelope. " ++ context
  refine ⟨[⟨⟨.info, opening⟩, correlationOf run.correlation⟩], context, ?_⟩
  have course : office.createAutomatically envelope = (log .info opening >>= fun _ =>
      office.casesByEnvelope envelope.id envelope.container >>= fun ids =>
        office.createGiven envelope context ids >>= fun outcome =>
          count (.caseCreation envelope.container outcome.name) >>= fun _ => pure outcome) := by
    have searches : office.createUnlessExists envelope context =
        office.casesByEnvelope envelope.id envelope.container >>=
          office.createGiven envelope context := rfl
    unfold createAutomatically serviceNamed
    rw [known]
    simp only [pure_bind, allowed, if_true]
    rw [searches, bind_assoc]
  have opened : (log .info opening).run run = (.ok (),
      { run with log := run.log ++ [⟨⟨.info, opening⟩, correlationOf run.correlation⟩] }) := rfl
  rw [course, bind_run, opened]
  dsimp only
  rw [bind_run]
  rcases (office.casesByEnvelope envelope.id envelope.container).run _ with ⟨found, after⟩
  cases found with
  | ok ids => rfl
  | error failure => rfl

/-- Whatever was found, an attempt has a property that the operations on cases have. -/
theorem CaseParts.createGiven {property : ∀ {α : Type}, Flow σ α → Prop}
    (parts : office.CaseParts property) (envelope : Envelope) (context : String)
    (ids : List (Option Int)) : property (office.createGiven envelope context ids) := by
  unfold Office.createGiven
  split
  · exact parts.createNewCase envelope context
  · exact parts.log_pure _
  · exact parts.log_pure _

/-- How work ended that an outcome was to come of: with one, and with calls that are in order and,
where the collaborators fail as they should, classify it. -/
def Concluded (office : Office σ) (ids : List (Option Int)) (before : List Dealing)
    (ended : Except Failure CreationOutcome × Run (σ × List Dealing)) : Prop :=
  ∃ outcome said, ended.1 = .ok outcome ∧ ended.2.peers.2 = before ++ said ∧ InOrder ids said ∧
    (office.peers.Documented → office.peers.RejectsBadRequests → Classified ids said outcome)

variable {envelope : Envelope} {service : Service}

/-- An attempt that found no case is concluded. -/
theorem createNewCase_concluded (known : office.services.get (some envelope.container) = .ok service)
    (context : String) (run : Run (σ × List Dealing)) :
    office.Concluded [] run.peers.2 ((office.transcribed.createNewCase envelope context).run run) := by
  let kind : Failure → Prop := fun failure =>
    office.peers.Documented → failure.IsOf .authentication
  let refusal : Failure → Prop := fun failure => office.peers.RejectsBadRequests →
    CreationOutcome.ofTransformation failure =
      if failure.isBadTransformation then .unrecoverable else .recoverable
  have vouching : office.peers.Vouching kind := {
    unstaffed := fun name documented => documented.vouching.unstaffed name
    login := fun login state failure failed documented =>
      documented.login login state failure failed
    details := fun token state failure failed documented =>
      documented.details token state failure failed
    lease := fun state failure failed documented => documented.lease state failure failed }
  have refuses : ∀ url request token state failure,
      (office.peers.transform url request token state).1.result = .error failure →
        refusal failure := by
    intro url request token state failure failed rejects
    refine CreationOutcome.ofTransformation_eq fun status objections body same => ?_
    rw [same] at failed
    exact rejects url request token state status objections body failed
  have creates : (office.transcribed.createNewCase envelope context).Tells (· = run.peers.2)
      (CreationEnds run.peers.2 kind refusal) fun _ _ => False :=
    createNewCase_ends vouching refuses known context
  have ends := creates run rfl
  revert ends
  rcases (office.transcribed.createNewCase envelope context).run run with ⟨result, after⟩
  cases result with
  | error failure => exact False.elim
  | ok outcome =>
    intro ends
    obtain ⟨said, same, inOrder⟩ := CreationEnds.inOrder ends
    refine ⟨outcome, said, rfl, same, inOrder, fun documented rejects => ?_⟩
    obtain ⟨saidToo, sameToo, classified⟩ := CreationEnds.classified ends
      (fun _ ofKind => ofKind documented) fun _ refused => refused rejects
    rwa [List.append_cancel_left (same.symm.trans sameToo)]

/-- Whatever was found, an attempt is concluded. -/
theorem createGiven_concluded (known : office.services.get (some envelope.container) = .ok service)
    (context : String) (ids : List (Option Int)) (run : Run (σ × List Dealing)) :
    office.Concluded ids run.peers.2
      ((office.transcribed.createGiven envelope context ids).run run) := by
  have silent : InOrder ids [] := ⟨fun _ => rfl, by simp⟩
  have unsaid : run.peers.2 = run.peers.2 ++ [] := (List.append_nil _).symm
  cases ids with
  | nil => exact createNewCase_concluded known context run
  | cons id others =>
    cases others with
    | nil => exact ⟨.alreadyExists id, [], rfl, unsaid, silent, fun _ _ => .found⟩
    | cons other others =>
      have hopeless : IsHopeless (id :: other :: others) [] := .inl (by simp)
      have unfound (single : Option Int) : id :: other :: others ≠ [single] := by simp
      have uncreated (created : Option Int) : ¬CameTo (id :: other :: others) [] created :=
        fun came => nomatch came.1
      refine ⟨.unrecoverable, [], rfl, unsaid, silent, fun _ _ => ?_⟩
      exact Classified.failed unfound uncreated (iff_of_true hopeless rfl)

/-- How often an outcome of a creation was counted. -/
def creations {τ : Type} (run : Run τ) (container result : String) : Nat :=
  run.metrics.times (.caseCreation container result)

/-- An attempt to create a case, and all that is said in it. -/
def attempted (office : Office σ) (envelope : Envelope) (run : Run σ) :
    Except Failure CreationOutcome × Run (σ × List Dealing) :=
  (office.transcribed.createAutomatically envelope).run (run.withPeers (run.peers, []))

/-- Work on cases counts no outcome. -/
theorem caseParts_spare (office : Office σ) (container result : String) :
    office.CaseParts (Spares (.caseCreation container result)) :=
  (office.enquiries_spare fun _ same => by cases same).caseParts

/-- Work that ends with a value ends with it when that is counted, too. -/
theorem counted_run {α : Type} {work : Flow σ α} {run after : Run σ} {value : α}
    (metric : α → Metric) (ends : work.run run = (.ok value, after)) :
    (work >>= fun value => count (metric value) >>= fun _ => pure value).run run =
      (.ok value, { after with metrics := after.metrics.count (metric value) }) := by
  rw [bind_run, ends]
  rfl

/-- An attempt to create a case is classified by its calls. The envelope is one of a configured
service that allows the attempt, and the collaborators may answer as they like. The search for the
cases of the envelope stands first, and asks for nothing but users, tokens and cases. If it fails,
the attempt fails likewise: nothing was transformed or written, and no outcome is counted. If it
returns, the attempt ends with an outcome and never fails. Nothing more is asked unless the search
found nothing, a case is written only after a transformation that went well, and the outcome is
counted once, and no other. Where the collaborators fail in ways of their own, and a transformation
is rejected with a status that says so, the outcome is exactly the one that the calls make it.

Proof: the calls after the search are asides, a transformation and the two calls of a write, as
far as the attempt came. The last of them decides. -/
theorem creation_is_classified (office : Office σ) (envelope : Envelope) (service : Service)
    (run : Run σ) (known : office.services.get (some envelope.container) = .ok service)
    (allowed : service.createsCasesAutomatically = true) :
    ∃ entries,
      let start := run.withPeers (run.peers, [])
      let search := (office.transcribed.casesByEnvelope envelope.id envelope.container).run
        { start with log := start.log ++ entries }
      let ended := office.attempted envelope run
      Inquiries search.2.peers.2 ∧
      match search.1 with
      | .error failure => ended = (.error failure, search.2) ∧ creations ended.2 = creations run
      | .ok ids => ∃ outcome said,
        ended.1 = .ok outcome ∧
        ended.2.peers.2 = search.2.peers.2 ++ said ∧
        InOrder ids said ∧
        (∀ container result, creations ended.2 container result = creations run container result +
          if container = envelope.container ∧ result = outcome.name then 1 else 0) ∧
        (office.peers.Documented → office.peers.RejectsBadRequests → Classified ids said outcome) := by
  obtain ⟨entries, context, course⟩ :=
    office.transcribed.createAutomatically_run known allowed (run.withPeers (run.peers, []))
  refine ⟨entries, ?_⟩
  intro start search ended
  have ends : ended = match search.1 with
      | .error failure => (.error failure, search.2)
      | .ok ids => (office.transcribed.createGiven envelope context ids >>= fun outcome =>
          count (.caseCreation envelope.container outcome.name) >>= fun _ =>
            pure outcome).run search.2 := course
  have spared (container result : String) :
      creations search.2 container result = creations run container result :=
    (office.transcribed.caseParts_spare container result).searchServiceCases _ _ _ _ _
  have inquiries : Inquiries search.2.peers.2 :=
    (casesByEnvelope_inquires _ _).after_run (List.forall_mem_nil _)
  refine ⟨inquiries, ?_⟩
  cases found : search.1 with
  | error failure =>
    rw [found] at ends
    refine ⟨ends, ?_⟩
    rw [ends]
    funext container result
    exact spared container result
  | ok ids =>
    obtain ⟨outcome, said, isOutcome, same, inOrder, classified⟩ :=
      createGiven_concluded known context ids search.2
    have created : (office.transcribed.createGiven envelope context ids).run search.2 =
        (.ok outcome, ((office.transcribed.createGiven envelope context ids).run search.2).2) :=
      Prod.ext isOutcome rfl
    rw [found] at ends
    dsimp only at ends
    rw [counted_run _ created] at ends
    refine ⟨outcome, said, ?_, ?_, inOrder, ?_, classified⟩
    · rw [ends]
    · rw [ends]
      exact same
    · intro container result
      have uncounted := (office.transcribed.caseParts_spare container result).createGiven envelope
        context ids search.2
      rw [ends, ← spared container result, creations, creations, Metrics.times_count, uncounted]
      simp only [Metric.caseCreation.injEq]

end Whole

open Simulation

/-- The application of the sample becomes a case. It is counted once, and what is said after the
search is what makes it a case that was created. -/
theorem sample_application_is_created :
    let attempt :=
      (PaymentsBook.office (.ok sampleAnswer)).attempted sampleApplication { peers := {} }
    ∃ id searched said, attempt.1 = .ok (.created id) ∧ attempt.2.peers.2 = searched ++ said ∧
      Inquiries searched ∧ CameTo [] said id ∧
      creations attempt.2 "bulkscan" "CREATED_CASE" = 1 := by
  have known :
      (PaymentsBook.office (.ok sampleAnswer)).services.get (some sampleApplication.container) =
        .ok sampleService := rfl
  have documented : (PaymentsBook.office (.ok sampleAnswer)).peers.Documented :=
    PaymentsBook.peers_documented _ fun _ => nofun
  have rejects : (PaymentsBook.office (.ok sampleAnswer)).peers.RejectsBadRequests :=
    fun _ _ _ _ _ _ _ => nofun
  have creates : ((PaymentsBook.office (.ok sampleAnswer)).attempted sampleApplication
      { peers := {} }).1.toOption.any (·.name == "CREATED_CASE") = true := by
    decide +kernel
  obtain ⟨outcome, ends, named⟩ := ok_of_any creates
  obtain ⟨entries, inquiries, course⟩ :=
    creation_is_classified (PaymentsBook.office (.ok sampleAnswer)) sampleApplication
      sampleService { peers := {} } known rfl
  -- What follows holds of any attempt that ended so, whatever was done in it.
  clear creates
  revert ends course
  generalize
    (PaymentsBook.office (.ok sampleAnswer)).attempted sampleApplication { peers := {} } = ended
  intro ends course attempt
  -- The search has not failed, since the attempt has not, and found nothing, since a case was
  -- created.
  split at course
  · rw [course.1] at ends
    cases ends
  · obtain ⟨other, said, isOutcome, transcript, -, counted, classified⟩ := course
    obtain rfl : outcome = other := Except.ok.inj (ends.symm.trans isOutcome)
    cases outcome with
    | created id =>
      have came := ((classified documented rejects).created id).mp rfl
      obtain rfl := came.1
      have once := counted "bulkscan" "CREATED_CASE"
      rw [if_pos ⟨rfl, rfl⟩] at once
      exact ⟨id, _, said, ends, transcript, inquiries, came, once⟩
    | _ => simp [CreationOutcome.name] at named

end Office
end Mailroom
