import Mailroom.Proofs.WorkAsWhole

/-!
# The journal of the mail room's calls

Whatever the mail room asks its collaborators is written down in order, each call with its
answer. The collaborators answer as they would without the journal, which they do not see.
Calls to the case store are made as a system user, except that a callback starts and submits
as the caseworker it comes from.

A session is what one process does, one job after another: deliveries of messages, each with
its retries, and callbacks. It begins with an empty journal and no kept credentials.
-/

namespace Mailroom

/-- On whose behalf an event is started and submitted. -/
inductive Party where
  | systemUser
  | caseworker
  deriving DecidableEq

/-- A call to a collaborator, with its answer. -/
inductive Call where
  | login (login : Login) (answer : Except Failure String)
  | search (caller : CaseStore.Caller) (answer : Except Failure (List Case))
  | fetch (caller : CaseStore.Caller) (answer : Except Failure Case)
  | start (party : Party) (caller : CaseStore.Caller) (target : CaseStore.Target) (event : String)
      (answer : Except Failure StartedEvent)
  | submit (party : Party) (caller : CaseStore.Caller) (target : CaseStore.Target)
      (submission : Submission) (answer : Except Failure Case)
  /-- Any other call, which neither goes to the case store nor logs a user in. -/
  | aside

/-- A question that is written down with its answer. -/
def Call.written {σ α : Type} (call : Except Failure α → Call) (question : Ask σ α) :
    Ask (σ × List Call) α := fun state =>
  ((question state.1).1, (question state.1).2, state.2 ++ [call (question state.1).1.result])

/-- The collaborators, with a journal of what they are asked. -/
def Peers.journaled {σ : Type} (peers : Peers σ) (party : Party) : Peers (σ × List Call) where
  cases := {
    search := fun caller types query =>
      Call.written (.search caller) (peers.cases.search caller types query)
    fetch := fun caller reference =>
      Call.written (.fetch caller) (peers.cases.fetch caller reference)
    start := fun caller target event =>
      Call.written (.start party caller target event) (peers.cases.start caller target event)
    submit := fun caller target submission =>
      Call.written (.submit party caller target submission)
        (peers.cases.submit caller target submission) }
  login := fun login => Call.written (.login login) (peers.login login)
  userDetails := fun token => Call.written (fun _ => .aside) (peers.userDetails token)
  lease := Call.written (fun _ => .aside) peers.lease
  transform := fun url request token =>
    Call.written (fun _ => .aside) (peers.transform url request token)
  pay := fun command => Call.written (fun _ => .aside) (peers.pay command)

/-- What a process of the mail room is asked to do. -/
inductive Job where
  | delivery (message : Json)
  | callback (request : Callback.Request) (userToken userId : Option String)

namespace Office

variable {σ : Type}

/-- The mail room, with a journal of what it asks its collaborators. -/
def journaled (office : Office σ) (party : Party) : Office (σ × List Call) where
  services := office.services
  users := office.users
  documents := office.documents
  peers := office.peers.journaled party

/-- Do a job, writing down every call. -/
def perform (office : Office σ) (run : Run (σ × List Call)) : Job → Run (σ × List Call)
  | .delivery message => (((office.journaled .systemUser).deliver message).run run).2
  | .callback request userToken userId =>
    (((office.journaled .caseworker).process request userToken userId).run run).2

/-- A process does one job after another, from the start. -/
def session (office : Office σ) (peers : σ) (jobs : List Job) : Run (σ × List Call) :=
  jobs.foldl office.perform { peers := (peers, []) }

/-- The calls of a session. -/
def journal (office : Office σ) (peers : σ) (jobs : List Job) : List Call :=
  (office.session peers jobs).peers.2

/-- What holds when a process starts and is kept by every job holds after all jobs. -/
theorem session_induct (office : Office σ) (property : Run (σ × List Call) → Prop) {peers : σ}
    (starts : property { peers := (peers, []) })
    (delivery : ∀ message run, property run →
      property (((office.journaled .systemUser).deliver message).run run).2)
    (callback : ∀ request userToken userId run, property run →
      property (((office.journaled .caseworker).process request userToken userId).run run).2)
    (jobs : List Job) : property (office.session peers jobs) := by
  unfold session
  generalize ({ peers := (peers, []) } : Run (σ × List Call)) = run at starts
  induction jobs generalizing run with
  | nil => exact starts
  | cons job rest inductionHypothesis =>
    refine inductionHypothesis _ ?_
    cases job with
    | delivery message => exact delivery message run starts
    | callback request userToken userId => exact callback request userToken userId run starts

end Office
end Mailroom
