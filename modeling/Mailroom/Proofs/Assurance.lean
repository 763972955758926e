import Mailroom.Credentials

/-!
# What work assures

A law of a piece of work names a property of the collaborators before it, and
what holds of its value and the collaborators after it, or of its failure and
the collaborators after that. The log, the counters and the kept credentials
are no part of such a law, so that work on them alone changes nothing it speaks
of.

The laws of a composed piece of work follow from those of its parts. What an
attempted piece of work has done stays done when it fails, so the law of an
attempt carries both outcomes on.
-/

namespace Mailroom

/-- A run with other collaborators in the place of its own. -/
def Run.withPeers {σ τ : Type} (run : Run σ) (peers : τ) : Run τ where
  peers := peers
  credentials := run.credentials
  metrics := run.metrics
  log := run.log
  correlation := run.correlation

end Mailroom

namespace Mailroom.Flow

variable {σ α β : Type}

/-- What holds of the end of a piece of work: of its value, or of its failure. -/
def Ending (done : α → σ → Prop) (failed : Failure → σ → Prop) : Except Failure α → σ → Prop
  | .ok value => done value
  | .error failure => failed failure

/-- Started where `before` holds, the work ends with a value where `done` holds
of it, or with a failure where `failed` holds of that. -/
def Assures (work : Flow σ α) (before : σ → Prop) (done : α → σ → Prop)
    (failed : Failure → σ → Prop) : Prop :=
  ∀ run : Run σ, before run.peers →
    Ending done failed (work.run run).1 (work.run run).2.peers

variable {before : σ → Prop} {done : α → σ → Prop} {failed : Failure → σ → Prop}

/-- A law may be read with a stronger start and a weaker end. -/
theorem Assures.weaken {work : Flow σ α} {before' : σ → Prop} {done' : α → σ → Prop}
    {failed' : Failure → σ → Prop} (law : work.Assures before done failed)
    (starts : ∀ state, before' state → before state)
    (ends : ∀ value state, done value state → done' value state)
    (fails : ∀ failure state, failed failure state → failed' failure state) :
    work.Assures before' done' failed' := by
  intro run start
  have ended := law run (starts _ start)
  revert ended
  cases (work.run run).1 with
  | ok value => exact ends value _
  | error failure => exact fails failure _

/-- Only the start is strengthened. -/
theorem Assures.from_start {work : Flow σ α} {before' : σ → Prop}
    (law : work.Assures before done failed) (starts : ∀ state, before' state → before state) :
    work.Assures before' done failed :=
  law.weaken starts (fun _ _ => id) (fun _ _ => id)

/-- Only the ends are weakened. -/
theorem Assures.to_end {work : Flow σ α} {done' : α → σ → Prop} {failed' : Failure → σ → Prop}
    (law : work.Assures before done failed)
    (ends : ∀ value state, done value state → done' value state)
    (fails : ∀ failure state, failed failure state → failed' failure state) :
    work.Assures before done' failed' :=
  law.weaken (fun _ => id) ends fails

/-- A fact that does not speak of the collaborators may be taken out of the start. -/
theorem Assures.given {work : Flow σ α} {fact : Prop}
    (law : fact → work.Assures before done failed) :
    work.Assures (fun state => fact ∧ before state) done failed :=
  fun run start => law start.1 run start.2

/-- A value that nobody has to work for. -/
theorem Assures.pure (value : α) (holds : ∀ state, before state → done value state) :
    Assures (Pure.pure value) before done failed :=
  fun run start => holds run.peers start

/-- A failure that comes of no work. -/
theorem Assures.fail (failure : Failure) (holds : ∀ state, before state → failed failure state) :
    Assures (Flow.fail failure : Flow σ α) before done failed :=
  fun run start => holds run.peers start

/-- Two laws of the same piece of work hold together. -/
theorem Assures.both {work : Flow σ α} {before' : σ → Prop} {done' : α → σ → Prop}
    {failed' : Failure → σ → Prop} (first : work.Assures before done failed)
    (second : work.Assures before' done' failed') :
    work.Assures (fun state => before state ∧ before' state)
      (fun value state => done value state ∧ done' value state)
      (fun failure state => failed failure state ∧ failed' failure state) := by
  intro run start
  have firstEnd := first run start.1
  have secondEnd := second run start.2
  revert firstEnd secondEnd
  cases (work.run run).1 <;> exact And.intro

/-- How a piece of work ends is how it ends on some run. -/
theorem Assures.seen {work : Flow σ α} (law : work.Assures before done failed) :
    work.Assures before
      (fun value state => (∃ run, (work.run run).1 = .ok value) ∧ done value state)
      (fun failure state => (∃ run, (work.run run).1 = .error failure) ∧ failed failure state) := by
  intro run start
  have ended := law run start
  revert ended
  cases result : (work.run run).1 <;> exact And.intro ⟨run, result⟩

/-- The second piece of work runs on what the first one left, unless the first failed. -/
theorem bind_run (work : Flow σ α) (next : α → Flow σ β) (run : Run σ) :
    (work >>= next).run run =
      match work.run run with
      | (.ok value, after) => (next value).run after
      | (.error failure, after) => (.error failure, after) := by
  unfold ExceptT.run
  simp only [bind, ExceptT.bind, ExceptT.mk, StateT.bind, ExceptT.bindCont]
  cases work run with
  | mk result after => cases result <;> rfl

/-- One piece of work after another: what the first assures of its value is
where the second starts, and a failure of the first is the failure of both. -/
theorem Assures.bind {work : Flow σ α} {next : α → Flow σ β} {middle : α → σ → Prop}
    {done : β → σ → Prop} (first : work.Assures before middle failed)
    (second : ∀ value, (next value).Assures (middle value) done failed) :
    (work >>= next).Assures before done failed := by
  intro run start
  have ended := first run start
  rw [bind_run]
  revert ended
  rcases work.run run with ⟨result, after⟩
  cases result with
  | ok value => exact fun reached => second value after reached
  | error failure => exact fun reached => reached

/-- One piece of work after another, with a name for what lies between them. -/
theorem Assures.through {work : Flow σ α} {next : α → Flow σ β} (middle : α → σ → Prop)
    {done : β → σ → Prop} (first : work.Assures before middle failed)
    (second : ∀ value, (next value).Assures (middle value) done failed) :
    (work >>= next).Assures before done failed :=
  first.bind second

/-- An attempt ends with the outcome as a value; nothing that was done is lost. -/
theorem Assures.attempt {work : Flow σ α} {done : Except Failure α → σ → Prop}
    (law : work.Assures before (fun value => done (.ok value))
      (fun failure => done (.error failure))) :
    (Flow.attempt work).Assures before done failed := by
  intro run start
  have ended := law run start
  change done (work.run run).1 (work.run run).2.peers
  revert ended
  cases (work.run run).1 <;> exact id

/-- What an attempt leaves to be done starts where the attempted work ended, be it
with a value or with a failure. -/
theorem Assures.attempting {work : Flow σ α} {next : Except Failure α → Flow σ β}
    (reached : α → σ → Prop) (missed : Failure → σ → Prop) {done : β → σ → Prop}
    (law : work.Assures before reached missed)
    (second : ∀ outcome, (next outcome).Assures (Ending reached missed outcome) done failed) :
    (Flow.attempt work >>= next).Assures before done failed :=
  (Assures.attempt law).through (Ending reached missed) second

/-- Work that looks at the run it is done on. -/
theorem Assures.look {next : Run σ → Flow σ β} {done : β → σ → Prop}
    (law : ∀ seen,
      (next seen).Assures (fun state => state = seen.peers ∧ before state) done failed) :
    (get >>= next : Flow σ β).Assures before done failed :=
  fun run start => law run run ⟨rfl, start⟩

/-- Work that puts a run in the place of the one it is done on. -/
theorem Assures.replace (changed : Run σ) {done : PUnit → σ → Prop}
    (holds : ∀ state, before state → done ⟨⟩ changed.peers) :
    (set changed : Flow σ PUnit).Assures before done failed :=
  fun run start => holds run.peers start

/-- A line in the log is no change. -/
theorem Assures.log (level : LogLevel) (message : String) {done : Unit → σ → Prop}
    (holds : ∀ state, before state → done () state) :
    (Flow.log level message).Assures before done failed :=
  fun run start => holds run.peers start

/-- Work goes on after a line in the log as it would have without. -/
theorem Assures.after_log {level : LogLevel} {message : String} {next : Unit → Flow σ β}
    {done : β → σ → Prop} (law : (next ()).Assures before done failed) :
    (Flow.log level message >>= next).Assures before done failed :=
  Assures.bind (Assures.log level message fun _ => id) fun _ => law

/-- Counting an event is no change. -/
theorem Assures.count (metric : Metric) {done : Unit → σ → Prop}
    (holds : ∀ state, before state → done () state) :
    (Flow.count metric).Assures before done failed :=
  fun run start => holds run.peers start

/-- A correlation of its own makes no difference to what work assures. -/
theorem Assures.correlated {work : Flow σ α} (correlation : Option String)
    (law : work.Assures before done failed) :
    (Flow.correlated correlation work).Assures before done failed :=
  fun run start => law { run with correlation } start

/-- A result without effects is a value or a failure. -/
theorem Assures.lift (result : Except Failure α)
    (holds : ∀ state, before state → Ending done failed result state) :
    (Flow.lift result).Assures before done failed := by
  cases result with
  | ok value => exact Assures.pure value holds
  | error failure => exact Assures.fail failure holds

/-- A value that was read is a value or a fault. -/
theorem Assures.reading (result : Except Fault α)
    (holds : ∀ state, before state → match result with
      | .ok value => done value state
      | .error fault => failed (.faulty fault) state) :
    (Flow.reading result).Assures before done failed := by
  cases result with
  | ok value => exact Assures.pure value holds
  | error fault => exact Assures.fail (.faulty fault) holds

/-- One result after another is a value when both are. -/
theorem bind_eq_ok {ε : Type} {first : Except ε α} {next : α → Except ε β} {value : β} :
    (first >>= next) = .ok value ↔ ∃ middle, first = .ok middle ∧ next middle = .ok value := by
  cases first with
  | error failure => simp [bind, Except.bind]
  | ok middle => simp [bind, Except.bind]

/-- Lines that a collaborator wants logged are no change, however many. -/
theorem Assures.logLines (lines : List LogLine) {done : Unit → σ → Prop}
    (holds : ∀ state, before state → done () state) :
    (lines.forM fun line => Flow.log (σ := σ) line.level line.message).Assures before done
      failed := by
  induction lines with
  | nil => exact Assures.pure () holds
  | cons line rest inductionHypothesis =>
    change Assures (Flow.log line.level line.message >>= fun _ => rest.forM _) before done failed
    exact Assures.bind (Assures.log line.level line.message fun _ => id)
      fun _ => inductionHypothesis

/-- A collaborator's answer decides: its state after the question is the state
that the work goes on with, whether it answers or fails. -/
theorem Assures.ask (question : Ask σ α)
    (holds : ∀ state, before state →
      Ending done failed (question state).1.result (question state).2) :
    (Flow.ask question).Assures before done failed := by
  intro run start
  let asked : Flow σ α := do
    (question run.peers).1.log.forM fun line => Flow.log line.level line.message
    Flow.lift (question run.peers).1.result
  have law : asked.Assures (fun state => state = (question run.peers).2) done failed := by
    refine Assures.through (fun _ state => state = (question run.peers).2)
      (Assures.logLines _ fun _ => id) fun _ => Assures.lift _ ?_
    rintro state rfl
    exact holds run.peers start
  exact law { run with peers := (question run.peers).2 } rfl

/-- Work that keeps a property of the collaborators, whether it succeeds or fails. -/
def Keeps (work : Flow σ α) (kept : σ → Prop) : Prop :=
  work.Assures kept (fun _ => kept) (fun _ => kept)

variable {kept : σ → Prop}

/-- What work keeps holds after it, however it ends. -/
theorem Keeps.after_run {work : Flow σ α} (law : work.Keeps kept) {run : Run σ}
    (held : kept run.peers) : kept (work.run run).2.peers := by
  have ended := law run held
  revert ended
  cases (work.run run).1 with
  | ok value => exact id
  | error failure => exact id

/-- Work that does nothing keeps everything. -/
theorem Keeps.pure (value : α) : Keeps (Pure.pure value) kept :=
  Assures.pure value fun _ => id

/-- A failure keeps everything. -/
theorem Keeps.fail (failure : Failure) : Keeps (Flow.fail failure : Flow σ α) kept :=
  Assures.fail failure fun _ => id

/-- What both parts keep is kept by one after the other. -/
theorem Keeps.bind {work : Flow σ α} {next : α → Flow σ β} (first : work.Keeps kept)
    (second : ∀ value, (next value).Keeps kept) : (work >>= next).Keeps kept :=
  Assures.bind first second

/-- An attempt keeps what the work keeps. -/
theorem Keeps.attempt {work : Flow σ α} (law : work.Keeps kept) : (Flow.attempt work).Keeps kept :=
  Assures.attempt law

/-- The log keeps everything. -/
theorem Keeps.log (level : LogLevel) (message : String) :
    (Flow.log (σ := σ) level message).Keeps kept :=
  Assures.log level message fun _ => id

/-- A result without effects keeps everything. -/
theorem Keeps.lift (result : Except Failure α) : (Flow.lift (σ := σ) result).Keeps kept := by
  refine Assures.lift result fun _ held => ?_
  cases result <;> exact held

/-- Reading a value keeps everything. -/
theorem Keeps.reading (result : Except Fault α) : (Flow.reading (σ := σ) result).Keeps kept := by
  refine Assures.reading result fun _ held => ?_
  cases result <;> exact held

/-- A question keeps what its collaborator keeps. -/
theorem Keeps.ask {question : Ask σ α} (keeps : ∀ state, kept state → kept (question state).2) :
    (Flow.ask question).Keeps kept := by
  refine Assures.ask question fun state held => ?_
  cases (question state).1.result <;> exact keeps state held

/-- Work that keeps a property of the collaborators, and whose failures are of a kind. -/
def Confines (work : Flow σ α) (kept : σ → Prop) (kind : Failure → Prop) : Prop :=
  work.Assures kept (fun _ => kept) (fun failure state => kind failure ∧ kept state)

variable {kind : Failure → Prop}

/-- Work that does nothing is confined. -/
theorem Confines.pure (value : α) : Confines (Pure.pure value) kept kind :=
  Assures.pure value fun _ => id

/-- A failure is confined to its kind. -/
theorem Confines.fail {failure : Failure} (ofKind : kind failure) :
    Confines (Flow.fail failure : Flow σ α) kept kind :=
  Assures.fail failure fun _ held => ⟨ofKind, held⟩

/-- One piece of work after another is confined like both parts. -/
theorem Confines.bind {work : Flow σ α} {next : α → Flow σ β} (first : work.Confines kept kind)
    (second : ∀ value, (next value).Confines kept kind) : (work >>= next).Confines kept kind :=
  Assures.bind first second

/-- A result without effects is confined to the kind of its failure. -/
theorem Confines.lift {result : Except Failure α}
    (ofKind : ∀ failure, result = .error failure → kind failure) :
    (Flow.lift (σ := σ) result).Confines kept kind := by
  refine Assures.lift result fun _ held => ?_
  cases result with
  | ok value => exact held
  | error failure => exact ⟨ofKind failure rfl, held⟩

/-- Work that is confined in two ways is confined in both at once. -/
theorem Confines.both {work : Flow σ α} {kept' : σ → Prop} {kind' : Failure → Prop}
    (first : work.Confines kept kind) (second : work.Confines kept' kind') :
    work.Confines (fun state => kept state ∧ kept' state)
      (fun failure => kind failure ∧ kind' failure) :=
  (Assures.both first second).to_end (fun _ _ => id) fun _ _ => and_and_and_comm.mp

/-- Confined work keeps the property. -/
theorem Confines.keeps {work : Flow σ α} (law : work.Confines kept kind) : work.Keeps kept :=
  Assures.to_end law (fun _ _ => id) fun _ _ => And.right

/-- Work that keeps a property is confined to failures of any kind. -/
theorem Keeps.confines {work : Flow σ α} (law : work.Keeps kept) :
    work.Confines kept fun _ => True :=
  Assures.to_end law (fun _ _ => id) fun _ _ => And.intro trivial

end Mailroom.Flow
