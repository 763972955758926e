import Mailroom.Proofs.StoreAccess
import Mailroom.Proofs.WorkAsWhole

/-!
# The transcript of the mail room's calls

All that the mail room asks its collaborators is written down in order, each call in full and
with its answer. The collaborators do not see the transcript and answer as they would without.

The operations on the case store are gone through once: what they leave at the end of the
transcript when they succeed is the call that decided their value, and everything but the
commands about payments stands before.
-/

namespace Mailroom

/-- A call to a collaborator: all that was asked, and the answer. -/
inductive Dealing where
  | login (login : Login) (answer : Except Failure String)
  | details (token : String) (answer : Except Failure UserDetails)
  | lease (answer : Except Failure String)
  | search (caller : CaseStore.Caller) (types query : String) (answer : Except Failure (List Case))
  | fetch (caller : CaseStore.Caller) (reference : String) (answer : Except Failure Case)
  | start (caller : CaseStore.Caller) (target : CaseStore.Target) (event : String)
      (answer : Except Failure StartedEvent)
  | submit (caller : CaseStore.Caller) (target : CaseStore.Target) (submission : Submission)
      (answer : Except Failure Case)
  | transform (url : Option String) (request : Transformation.Request) (token : String)
      (answer : Except Failure Transformation.Answer)
  | pay (command : Payments.Command) (answer : Except Failure Unit)

namespace Dealing

/-- Whether a call is a command about payments. -/
def isPayment : Dealing → Bool
  | .pay .. => true
  | _ => false

/-- A question that is written down with its answer. -/
def written {σ α : Type} (call : Except Failure α → Dealing) (question : Ask σ α) :
    Ask (σ × List Dealing) α := fun state =>
  ((question state.1).1, (question state.1).2, state.2 ++ [call (question state.1).1.result])

end Dealing

/-- The collaborators, with a transcript of what they are asked. -/
def Peers.transcribed {σ : Type} (peers : Peers σ) : Peers (σ × List Dealing) where
  cases := {
    search := fun caller types query =>
      Dealing.written (.search caller types query) (peers.cases.search caller types query)
    fetch := fun caller reference =>
      Dealing.written (.fetch caller reference) (peers.cases.fetch caller reference)
    start := fun caller target event =>
      Dealing.written (.start caller target event) (peers.cases.start caller target event)
    submit := fun caller target submission =>
      Dealing.written (.submit caller target submission)
        (peers.cases.submit caller target submission) }
  login := fun login => Dealing.written (.login login) (peers.login login)
  userDetails := fun token => Dealing.written (.details token) (peers.userDetails token)
  lease := Dealing.written .lease peers.lease
  transform := fun url request token =>
    Dealing.written (.transform url request token) (peers.transform url request token)
  pay := fun command => Dealing.written (.pay command) (peers.pay command)

/-- The mail room, with a transcript of what it asks its collaborators. -/
def Office.transcribed {σ : Type} (office : Office σ) : Office (σ × List Dealing) :=
  ⟨office.services, office.users, office.documents, office.peers.transcribed⟩

namespace Flow

variable {σ α β : Type}

/-- A law of what the transcript says: started where it has one property, the work ends with a
value and a transcript, or with a failure and a transcript, of which others hold. -/
def Tells (work : Flow (σ × List Dealing) α) (before : List Dealing → Prop)
    (done : α → List Dealing → Prop) (failed : Failure → List Dealing → Prop) : Prop :=
  work.Assures (fun state => before state.2) (fun value state => done value state.2)
    fun failure state => failed failure state.2

variable {before : List Dealing → Prop} {done : α → List Dealing → Prop}
  {failed : Failure → List Dealing → Prop}

/-- A question is one more call of the transcript, whatever is answered. -/
theorem ask_tells (call : Except Failure α → Dealing) (question : Ask σ α)
    (told : ∀ said answer, before said → Ending done failed answer (said ++ [call answer])) :
    (ask (Dealing.written call question)).Tells before done failed := by
  refine Assures.ask _ fun state held => ?_
  have ended := told state.2 (question state.1).1.result held
  dsimp only [Dealing.written]
  revert ended
  cases (question state.1).1.result <;> exact id

/-- A property of transcripts that every further call keeps, unless it is a command about
payments. -/
def Lasting (kept : List Dealing → Prop) : Prop :=
  ∀ said call, call.isPayment = false → kept said → kept (said ++ [call])

/-- Work that keeps a property of the transcript. -/
abbrev Retains (work : Flow (σ × List Dealing) α) (kept : List Dealing → Prop) : Prop :=
  work.Keeps fun state => kept state.2

/-- What the transcript says for good is kept by everything but the commands about payments. -/
theorem Lasting.groundwork {kept : List Dealing → Prop} (lasting : Lasting kept)
    (office : Office σ) : office.transcribed.Groundwork fun work => work.Retains kept := by
  have asks {α : Type} (call : Except Failure α → Dealing) (question : Ask σ α)
      (aside : ∀ answer, (call answer).isPayment = false) :
      (ask (Dealing.written call question)).Retains kept := by
    refine ask_tells call question fun said answer held => ?_
    have kept := lasting said (call answer) (aside answer) held
    cases answer <;> exact kept
  let anyFailure : Failure → Prop := fun _ => True
  exact {
    pure := Keeps.pure
    fail := Keeps.fail
    bind := Keeps.bind
    attempt := Keeps.attempt
    log := Keeps.log
    creation := fun _ _ _ held => held
    cached := fun key => Confines.keeps (Office.cached_confines key : Confines _ _ anyFailure)
    store := fun key credential =>
      Confines.keeps (Office.storeIfAbsent_confines key credential : Confines _ _ anyFailure)
    drop := fun jurisdiction => Confines.keeps
      (Office.invalidate_confines (fun _ => trivial) jurisdiction : Confines _ _ anyFailure)
    login := fun _ => asks _ _ fun _ => rfl
    details := fun _ => asks _ _ fun _ => rfl
    lease := asks _ _ fun _ => rfl
    transform := fun _ _ _ => asks _ _ fun _ => rfl
    find := fun _ _ _ => asks _ _ fun _ => rfl
    fetch := fun _ _ => asks _ _ fun _ => rfl
    start := fun _ _ _ => asks _ _ fun _ => rfl
    submit := fun _ _ _ => asks _ _ fun _ => rfl }

end Flow

/-- A transcript that ends with a call of a kind, and of which something held before. -/
def EndsWith (kept : List Dealing → Prop) (kind : Dealing → Prop) (said : List Dealing) : Prop :=
  ∃ earlier call, said = earlier ++ [call] ∧ kept earlier ∧ kind call

namespace Office

open Mailroom.Flow

variable {σ : Type} {kept : List Dealing → Prop}

/-- A search ends with the question for the cases that it names. -/
theorem searchIds_tells (lasting : Lasting kept) (office : Office σ) (service : Service)
    (types field value : String) :
    (office.transcribed.searchIds service types field value).Tells kept
      (fun ids => EndsWith kept fun call => ∃ caller cases,
        call = .search caller types (matchQuery field (.str value)) (.ok cases) ∧
        ids = cases.map (·.id))
      (fun _ => kept) := by
  have groundwork := lasting.groundwork office
  refine Assures.bind (groundwork.credential _) fun credential => ?_
  refine Assures.through (fun cases state => EndsWith kept (fun call => ∃ caller,
      call = .search caller types (matchQuery field (.str value)) (.ok cases)) state.2)
    (guarded_assures (Assures.bind (groundwork.caller _) fun caller => ?_) _) fun cases => ?_
  · refine ask_tells _ _ fun said answer held => ?_
    cases answer with
    | ok cases => exact ⟨said, _, rfl, held, caller, rfl⟩
    | error failure => exact lasting said _ rfl held
  · refine Assures.pure _ fun state found => ?_
    obtain ⟨earlier, call, same, held, caller, rfl⟩ := found
    exact ⟨earlier, _, same, held, caller, cases, rfl, rfl⟩

/-- A fetch ends with the question for the case. -/
theorem fetchCase_tells (lasting : Lasting kept) (office : Office σ)
    (reference jurisdiction : String) :
    (office.transcribed.fetchCase reference jurisdiction).Tells kept
      (fun case => EndsWith kept fun call => ∃ caller, call = .fetch caller reference (.ok case))
      (fun _ => kept) := by
  have groundwork := lasting.groundwork office
  refine Assures.bind (groundwork.credential _) fun credential => ?_
  refine Assures.attempting (fun case state => EndsWith kept (fun call => ∃ caller,
      call = .fetch caller reference (.ok case)) state.2) (fun _ state => kept state.2)
    (guarded_assures (Assures.bind (groundwork.caller _) fun caller => ?_) _) fun outcome => ?_
  · refine ask_tells _ _ fun said answer held => ?_
    cases answer with
    | ok case => exact ⟨said, _, rfl, held, caller, rfl⟩
    | error failure => exact lasting said _ rfl held
  · split
    · exact Assures.pure _ fun _ => id
    · exact Assures.fail _ fun _ => id
    · exact Assures.fail _ fun _ => id

/-- A write ends with the submission of what was drafted. -/
theorem writeAs_tells (lasting : Lasting kept) (office : Office σ) (credential : Credential)
    (jurisdiction : String) (caseType : Json) (caseRef : Option String) (event : String)
    (draft : Draft) (context : String) :
    (office.transcribed.writeAs credential jurisdiction caseType caseRef event draft context).Tells
      kept
      (fun case => EndsWith kept fun call => ∃ caller userId started submission,
        draft started = .ok submission ∧
        call = .submit caller ⟨userId, some jurisdiction, caseType, caseRef⟩ submission (.ok case))
      (fun _ => kept) := by
  have groundwork := lasting.groundwork office
  refine guarded_assures (Assures.bind (groundwork.caller _) fun caller =>
    Assures.bind (groundwork.start caller _ _) fun started => Assures.after_log ?_) _
  refine Assures.through (fun submission state => draft started = .ok submission ∧ kept state.2) ?_
    fun submission => Assures.given fun drafted => ?_
  · cases drafted : draft started with
    | ok submission => exact Assures.pure submission fun _ held => ⟨rfl, held⟩
    | error failure => exact Assures.fail failure fun _ => id
  · refine ask_tells (.submit caller _ submission) _ fun said answer held => ?_
    cases answer with
    | ok case =>
      exact ⟨said, _, rfl, held, caller, credential.userId, started, submission, drafted, rfl⟩
    | error failure => exact lasting said _ rfl held

end Office
end Mailroom
