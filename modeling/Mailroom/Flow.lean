import Mailroom.Failure
import Mailroom.Log
import Mailroom.Metrics

/-!
# Work and its effects

A piece of work reads and changes the state of a run: the collaborators, the
cached credentials, the counters and the log. It ends with a value or a
failure, and what it has done stays done in both cases.

A collaborator answers with a reply: a result and the lines it wants logged. It
can change nothing but its own state.
-/

namespace Mailroom

/-- The credential of a system user. -/
structure Credential where
  token : String
  userId : Json
  email : Json

/-- The credentials that are kept, by jurisdiction in lower case. -/
abbrev CredentialCache := List (String × Credential)

/-- The state of a run. -/
structure Run (σ : Type) where
  peers : σ
  credentials : CredentialCache := []
  metrics : Metrics := []
  log : List LogEntry := []
  correlation : Option String := none

/-- Work on the state of a run. -/
abbrev Flow (σ : Type) := ExceptT Failure (StateM (Run σ))

/-- The answer of a collaborator. -/
structure Reply (α : Type) where
  result : Except Failure α
  log : List LogLine := []

/-- A question to a collaborator. -/
abbrev Ask (σ α : Type) := σ → Reply α × σ

namespace Flow

variable {σ α : Type}

/-- End with a failure. -/
def fail (failure : Failure) : Flow σ α :=
  throw failure

/-- Continue with a result that has no effects. -/
def lift : Except Failure α → Flow σ α
  | .ok value => pure value
  | .error failure => throw failure

/-- Continue with a value that was read. -/
def reading : Except Fault α → Flow σ α
  | .ok value => pure value
  | .error fault => throw (.faulty fault)

/-- Do work and take its outcome as a value; its effects stay. -/
def attempt (work : Flow σ α) : Flow σ (Except Failure α) :=
  fun run =>
    let (result, run) := work.run run
    (.ok result, run)

/-- Write a line to the log. -/
def log (level : LogLevel) (message : String) : Flow σ Unit :=
  modify fun run =>
    { run with log := run.log ++ [⟨⟨level, message⟩, correlationOf run.correlation⟩] }

/-- Count an event. -/
def count (metric : Metric) : Flow σ Unit :=
  modify fun run => { run with metrics := run.metrics.count metric }

/-- Ask a collaborator, log what it wants logged and continue with its result. -/
def ask (question : Ask σ α) : Flow σ α := do
  let run ← get
  let (reply, peers) := question run.peers
  set { run with peers }
  reply.log.forM fun line => log line.level line.message
  lift reply.result

/-- Do work under a correlation of its own, which ends with the work. -/
def correlated (correlation : Option String) (work : Flow σ α) : Flow σ α :=
  fun run =>
    let (result, after) := work.run { run with correlation }
    (result, { after with correlation := run.correlation })

/-- Attempted work ends with a value, and what it has done stays done. -/
theorem attempt_run (work : Flow σ α) (run : Run σ) :
    (attempt work).run run = (.ok (work.run run).1, (work.run run).2) := rfl

/-- Counting an event changes the counters alone. -/
theorem count_run (metric : Metric) (run : Run σ) :
    (count metric).run run = (.ok (), { run with metrics := run.metrics.count metric }) := rfl

/-- Writing a line changes the log alone; the line gets the correlation in force. -/
theorem log_run (level : LogLevel) (message : String) (run : Run σ) :
    (log level message).run run =
      (.ok (),
        { run with log := run.log ++ [⟨⟨level, message⟩, correlationOf run.correlation⟩] }) := rfl

/-- Work under a correlation of its own starts with this one and, whatever it does, leaves the
one that was in force before. -/
theorem correlated_run (correlation : Option String) (work : Flow σ α) (run : Run σ) :
    (correlated correlation work).run run =
      ((work.run { run with correlation }).1,
        { (work.run { run with correlation }).2 with correlation := run.correlation }) := rfl

end Flow

namespace Reply

variable {α : Type}

/-- A reply with a value. -/
def answer (value : α) : Reply α := ⟨.ok value, []⟩

/-- A reply with a failure. -/
def refuse (failure : Failure) : Reply α := ⟨.error failure, []⟩

end Reply
end Mailroom
