import Mailroom.Proofs.KeptCredentials
import Mailroom.Proofs.WorkAsWhole

/-!
# The attempts of a delivery

A message that is an envelope is handed to a handler, and once more after each failure that
may be tried again, until no retry is left. How the delivery ends is how the last of these
attempts ends; each of them is counted once, and is made under the identity of the envelope
as its correlation.

The law is stated of any handler, whatever it does and however it ends, so that it speaks of
every sequence of outcomes. Routing is one such handler. What the attempts are is not read
off the delivery: a handler that notes its calls is put in the place of the other, and does
the same besides.
-/

namespace Mailroom

open Mailroom.Flow

/-- Between two states of a run, processed envelopes were counted exactly so often under
these series. -/
def Run.Counted {σ : Type} (run after : Run σ) (series : List Metric) : Prop :=
  ∀ container classification action,
    after.metrics.times (.envelopeProcessed container classification action) =
      run.metrics.times (.envelopeProcessed container classification action) +
        series.count (.envelopeProcessed container classification action)

namespace Run

variable {σ τ : Type} {run middle after : Run σ} {series rest : List Metric}

/-- What was counted first and what was counted then was counted altogether. -/
theorem Counted.trans (first : run.Counted middle series) (second : middle.Counted after rest) :
    run.Counted after (series ++ rest) := by
  intro container classification action
  rw [second, first, List.count_append, Nat.add_assoc]

/-- A processed envelope that was counted makes a series of one. -/
theorem Counted.processed {container classification action : String}
    (counted : after.metrics =
      run.metrics.count (.envelopeProcessed container classification action)) :
    run.Counted after [.envelopeProcessed container classification action] := by
  intro otherContainer otherClassification otherAction
  rw [counted, Metrics.times_count, List.count_singleton]
  simp only [beq_iff_eq, @eq_comm Metric]

/-- Any other event is in none of the series. -/
theorem Counted.aside {metric : Metric} (counted : after.metrics = run.metrics.count metric)
    (different : ∀ container classification action,
      Metric.envelopeProcessed container classification action ≠ metric) :
    run.Counted after [] := by
  intro container classification action
  rw [counted, Metrics.times_count, if_neg (different container classification action),
    List.count_nil]

end Run

namespace Flow

variable {σ α β : Type}

/-- Work that leaves the counter of an event alone. -/
def Spares (metric : Metric) (work : Flow σ α) : Prop :=
  ∀ run : Run σ, (work.run run).2.metrics.times metric = run.metrics.times metric

/-- Composed work spares a counter when its pieces spare it. -/
theorem spares_composable (metric : Metric) : Composable (σ := σ) (Spares metric) where
  pure _ _ := rfl
  fail _ _ := rfl
  bind {_ _ work next} first second run := by
    have spared := first run
    rw [bind_run]
    revert spared
    rcases work.run run with ⟨result, middle⟩
    cases result with
    | ok value => exact fun spared => (second value middle).trans spared
    | error failure => exact fun spared => spared
  attempt law run := law run
  log _ _ _ := rfl

/-- No collaborator counts anything. -/
theorem spares_ask (metric : Metric) (question : Ask σ α) : (ask question).Spares metric := by
  intro run
  obtain ⟨entries, asked⟩ := ask_run question run
  rw [asked]

/-- Counting an event spares the counters of the others. -/
theorem spares_count {metric other : Metric} (different : metric ≠ other) :
    (count (σ := σ) other).Spares metric := by
  intro run
  rw [count_run, Metrics.times_count, if_neg different, Nat.add_zero]

/-- Work that counts no envelope as processed. -/
def SparesEnvelopes (work : Flow σ α) : Prop :=
  ∀ run : Run σ, run.Counted (work.run run).2 []

end Flow

/-- What envelopes are handed to. The counters of processed envelopes are none of its
business. -/
structure Handler (σ : Type) where
  handle : Envelope → Flow σ Routed
  spares : ∀ envelope, (handle envelope).SparesEnvelopes

/-- A call of a handler: the correlation that was in force, and how it ended. -/
structure Handled where
  correlation : String
  outcome : Except Failure Routed

namespace Handled

/-- Whether a call failed in a way that may be tried again. -/
def isRetryable (call : Handled) : Bool :=
  match call.outcome with
  | .ok _ => false
  | .error failure => !isUnrecoverable failure

/-- What a call is counted as. -/
def action (call : Handled) : String :=
  match call.outcome with
  | .ok routed => routed.action.name
  | .error failure => if isUnrecoverable failure then "UNRECOVERABLE" else "FAILED"

/-- The series that a call is counted in. -/
def series (envelope : Envelope) (call : Handled) : Metric :=
  .envelopeProcessed envelope.container envelope.classification.text call.action

/-- What a call comes to for the delivery that made it. -/
def settled (envelope : Envelope) (call : Handled) : Except Failure Delivered :=
  match call.outcome with
  | .ok routed => .ok (.routed envelope.id routed)
  | .error failure =>
    if isUnrecoverable failure then .ok (.rejected envelope.id failure.message)
    else .error failure

/-- A call may be tried again exactly when the delivery has not come to its end by it. -/
theorem isRetryable_iff (envelope : Envelope) (call : Handled) :
    call.isRetryable ↔ ∃ failure, call.settled envelope = .error failure := by
  unfold isRetryable settled
  cases call.outcome with
  | ok routed => simp
  | error failure => cases final : isUnrecoverable failure <;> simp [final]

end Handled

namespace Handler

variable {σ : Type}

/-- Deliver a message to a handler. -/
def deliver (handler : Handler σ) (message : Json) : Flow σ Delivery :=
  Delivery.ofMessage handler.handle message

/-- The handler, noting its calls. -/
def noted (handler : Handler σ) : Handler (σ × List Handled) where
  handle envelope run :=
    let (result, after) := (handler.handle envelope).run (run.withPeers run.peers.1)
    (result, after.withPeers
      (after.peers, run.peers.2 ++ [⟨correlationOf run.correlation, result⟩]))
  spares envelope run := handler.spares envelope (run.withPeers run.peers.1)

end Handler

/-- Between two states of a run these calls were made of a handler that notes them: each under
the identity of the envelope, and counted once. -/
structure Noted {σ : Type} (envelope : Envelope) (calls : List Handled)
    (run after : Run (σ × List Handled)) : Prop where
  appended : after.peers.2 = run.peers.2 ++ calls
  correlated : ∀ call ∈ calls, call.correlation = correlationOf (some envelope.id)
  restored : after.correlation = run.correlation
  counted : run.Counted after (calls.map (·.series envelope))

/-- Calls that were made first and calls that were made then were made altogether. -/
theorem Noted.trans {σ : Type} {envelope : Envelope} {calls rest : List Handled}
    {run middle after : Run (σ × List Handled)} (first : Noted envelope calls run middle)
    (second : Noted envelope rest middle after) : Noted envelope (calls ++ rest) run after where
  appended := by rw [second.appended, first.appended, List.append_assoc]
  correlated call made := (List.mem_append.mp made).elim (first.correlated call)
    (second.correlated call)
  restored := second.restored.trans first.restored
  counted := by
    rw [List.map_append]
    exact first.counted.trans second.counted

/-- How the calls of a delivery with some retries left make up its end. Each call but the last
failed in a way that may be tried again, and the last one did only when no retry was left; the
delivery ends as its last call did, and waited twice as long after each failure. -/
structure Attempts (envelope : Envelope) (left : Nat) (calls : List Handled) (delivery : Delivery) :
    Prop where
  ends : ∃ earlier last, calls = earlier ++ [last] ∧ (∀ call ∈ earlier, call.isRetryable) ∧
    delivery.outcome = last.settled envelope
  bounded : calls.length ≤ left + 1
  exhausted : (∀ call ∈ calls, call.isRetryable) → calls.length = left + 1
  delays : delivery.delays =
    (List.range' (maxRetries - left) (calls.countP (·.isRetryable))).map (Nat.pow 2)

namespace Attempts

variable {envelope : Envelope} {left : Nat} {call : Handled} {rest : List Handled}
  {delivery : Delivery} {delivered : Delivered} {failure : Failure}

/-- A call that settles the delivery is the last one. -/
theorem settled (ended : call.settled envelope = .ok delivered) :
    Attempts envelope left [call] ⟨[], .ok delivered⟩ := by
  have final : ¬ call.isRetryable := by simp [call.isRetryable_iff envelope, ended]
  refine ⟨⟨[], call, rfl, nofun, ended.symm⟩, by simp, fun all => ?_, ?_⟩
  · exact absurd (all call (List.mem_singleton_self call)) final
  · rw [List.countP_singleton, if_neg final]
    rfl

/-- Without retries a failed call is the last one. -/
theorem givenUp (ended : call.settled envelope = .error failure) :
    Attempts envelope 0 [call] ⟨[Nat.pow 2 maxRetries], .error failure⟩ := by
  have again : call.isRetryable := (call.isRetryable_iff envelope).mpr ⟨failure, ended⟩
  refine ⟨⟨[], call, rfl, nofun, ended.symm⟩, by simp, fun _ => rfl, ?_⟩
  rw [List.countP_singleton, if_pos again]
  rfl

/-- A failed call with a retry left is followed by others. -/
theorem again (attempts : Attempts envelope left rest delivery) (within : left + 1 ≤ maxRetries)
    (ended : call.settled envelope = .error failure) :
    Attempts envelope (left + 1) (call :: rest)
      { delivery with delays := Nat.pow 2 (maxRetries - (left + 1)) :: delivery.delays } := by
  have again : call.isRetryable := (call.isRetryable_iff envelope).mpr ⟨failure, ended⟩
  obtain ⟨earlier, last, rfl, failed, ends⟩ := attempts.ends
  refine ⟨⟨call :: earlier, last, rfl, ?_, ends⟩, ?_, fun all => ?_, ?_⟩
  · exact List.forall_mem_cons.mpr ⟨again, failed⟩
  · exact Nat.succ_le_succ attempts.bounded
  · rw [List.length_cons, attempts.exhausted (List.forall_mem_cons.mp all).2]
  · have next : maxRetries - left = maxRetries - (left + 1) + 1 := by omega
    rw [List.countP_cons_of_pos again, List.range'_succ, List.map_cons, ← next, attempts.delays]

end Attempts

namespace Handler

variable {σ : Type}

/-- What follows a call settles it and counts it in its series. -/
theorem conclude_run (envelope : Envelope) (retries : Nat) (call : Handled) (run : Run σ) :
    ∃ after,
      (Delivery.conclude envelope retries call.outcome).run run =
        (.ok (call.settled envelope), after) ∧
      after.peers = run.peers ∧ run.Counted after [call.series envelope] := by
  have timed : run.Counted
      { run with metrics := run.metrics.count (.envelopeTimed envelope.classification.text) } [] :=
    .aside rfl fun _ _ _ => nofun
  unfold Handled.settled Handled.series Handled.action
  cases call.outcome with
  | ok routed => exact ⟨_, rfl, rfl, timed.trans (.processed rfl)⟩
  | error failure =>
    dsimp only [Delivery.conclude, Office.settleFailure]
    cases isUnrecoverable failure with
    | true => exact ⟨_, rfl, rfl, timed.trans (.processed rfl)⟩
    | false => exact ⟨_, rfl, rfl, timed.trans (.processed rfl)⟩

/-- An attempt makes one call, under the correlation that is in force; its end and the
series that it is counted in are those of the call. -/
theorem attempt_run (handler : Handler σ) (envelope : Envelope) (retries : Nat) (run : Run σ) :
    ∃ entries after,
      let ended := (handler.handle envelope).run { run with log := run.log ++ entries }
      let call : Handled := ⟨correlationOf run.correlation, ended.1⟩
      (Delivery.attempt handler.handle envelope retries).run run =
        (.ok (call.settled envelope), after) ∧
      after.peers = ended.2.peers ∧ run.Counted after [call.series envelope] := by
  let opening := "Processing envelope " ++ envelope.id ++ ". File name: " ++ envelope.fileText
  let entered := ((log .info opening).run run).2
  let ended := (handler.handle envelope).run entered
  obtain ⟨after, concluded, peers, counted⟩ :=
    conclude_run envelope retries ⟨correlationOf run.correlation, ended.1⟩ ended.2
  have spared : run.Counted ended.2 [] := handler.spares envelope entered
  exact ⟨_, after, concluded, peers, spared.trans counted⟩

/-- An attempt under the identity of its envelope, by a handler that notes its calls, is one
more call. -/
theorem noted_attempt (handler : Handler σ) (envelope : Envelope) (retries : Nat)
    (run : Run (σ × List Handled)) :
    ∃ call after,
      (correlated (some envelope.id) (Delivery.attempt handler.noted.handle envelope retries)).run
        run = (.ok (call.settled envelope), after) ∧ Noted envelope [call] run after := by
  obtain ⟨entries, after, course, peers, counted⟩ :=
    handler.noted.attempt_run envelope retries { run with correlation := some envelope.id }
  refine ⟨_, { after with correlation := run.correlation }, ?_, ?_, ?_, rfl, counted⟩
  · exact congrArg (fun ended => (ended.1, { ended.2 with correlation := run.correlation })) course
  · exact congrArg Prod.snd peers
  · rintro call isOne
    rw [List.mem_singleton.mp isOne]

/-- With some retries left, the attempts of a delivery are calls that make up its end.

The induction is on the retries that are left: a failure that may be tried again is followed by
the attempts with one retry less, and ends the delivery when there is none. -/
theorem noted_within (handler : Handler σ) (envelope : Envelope) (left : Nat)
    (within : left ≤ maxRetries) (run : Run (σ × List Handled)) :
    ∃ calls delivery after,
      (Delivery.within handler.noted.handle envelope left).run run = (.ok delivery, after) ∧
      Noted envelope calls run after ∧ Attempts envelope left calls delivery := by
  induction left generalizing run with
  | zero =>
    obtain ⟨call, after, attempted, tried⟩ := handler.noted_attempt envelope maxRetries run
    rw [Delivery.within, bind_run, attempted]
    cases ended : call.settled envelope with
    | ok delivered => exact ⟨[call], _, after, rfl, tried, .settled ended⟩
    | error failure => exact ⟨[call], _, after, rfl, tried, .givenUp ended⟩
  | succ left inductionHypothesis =>
    obtain ⟨call, middle, attempted, tried⟩ :=
      handler.noted_attempt envelope (maxRetries - (left + 1)) run
    rw [Delivery.within, bind_run, attempted]
    cases ended : call.settled envelope with
    | ok delivered => exact ⟨[call], _, middle, rfl, tried, .settled ended⟩
    | error failure =>
      obtain ⟨rest, delivery, after, delivered, triedAgain, attempts⟩ :=
        inductionHypothesis (Nat.le_of_succ_le within) middle
      dsimp only
      rw [bind_run, delivered]
      exact ⟨call :: rest, _, after, rfl, tried.trans triedAgain, attempts.again within ended⟩

end Handler

namespace Office

variable {σ : Type}

/-- The mail room's questions, and what is done to the kept credentials, spare every counter but
that of dropped credentials. -/
theorem enquiries_spare (office : Office σ) {metric : Metric}
    (different : ∀ jurisdiction, metric ≠ .credentialInvalidated jurisdiction) :
    office.Enquiries (Spares metric) where
  toComposable := spares_composable metric
  cached _ _ := rfl
  store _ _ _ := rfl
  drop jurisdiction run := by
    cases jurisdiction with
    | none => rfl
    | some jurisdiction =>
      rw [invalidate_pieces, bind_run, takeOut_run]
      cases (run.credentials.find? (Text.lower jurisdiction)).isSome with
      | true => exact spares_count (different _) _
      | false => rfl
  login _ := spares_ask metric _
  details _ := spares_ask metric _
  lease := spares_ask metric _
  transform _ _ _ := spares_ask metric _
  find _ _ _ := spares_ask metric _
  fetch _ _ := spares_ask metric _
  start _ _ _ := spares_ask metric _
  submit _ _ _ := spares_ask metric _

/-- Routing counts no envelope: the delivery does, when the routing has ended. -/
theorem route_spares (office : Office σ) (envelope : Envelope) :
    (office.route envelope).SparesEnvelopes := by
  intro run container classification action
  have groundwork :
      office.Groundwork (Spares (.envelopeProcessed container classification action)) := {
    toEnquiries := office.enquiries_spare nofun
    creation := fun _ _ => spares_count nofun }
  rw [List.count_nil, Nat.add_zero]
  exact groundwork.routing.route (fun _ => spares_ask _ _) envelope run

/-- Routing, as what envelopes are handed to. -/
def handler (office : Office σ) : Handler σ := ⟨office.route, office.route_spares⟩

end Office

/-- Work beside notes that does what other work does without them, and adds to the notes. -/
def Shadows {σ α : Type} (noting : Flow (σ × List Handled) α) (work : Flow σ α) : Prop :=
  ∀ (run : Run σ) (notes : List Handled), ∃ more,
    noting.run (run.withPeers (run.peers, notes)) =
      ((work.run run).1, (work.run run).2.withPeers ((work.run run).2.peers, notes ++ more))

namespace Shadows

variable {σ α β : Type} {noting : Flow (σ × List Handled) α} {work : Flow σ α}

/-- Work that looks at no collaborator shadows itself. -/
theorem of_eq (same : ∀ (run : Run σ) notes, noting.run (run.withPeers (run.peers, notes)) =
    ((work.run run).1, (work.run run).2.withPeers ((work.run run).2.peers, notes))) :
    Shadows noting work :=
  fun run notes => ⟨[], by rw [same, List.append_nil]⟩

/-- A value shadows itself. -/
theorem pure (value : α) : Shadows (Pure.pure value) (Pure.pure value : Flow σ α) :=
  of_eq fun _ _ => rfl

/-- A line in the log shadows itself. -/
theorem log (level : LogLevel) (message : String) :
    Shadows (Flow.log level message) (Flow.log (σ := σ) level message) :=
  of_eq fun _ _ => rfl

/-- Counting an event shadows itself. -/
theorem count (metric : Metric) : Shadows (Flow.count metric) (Flow.count (σ := σ) metric) :=
  of_eq fun _ _ => rfl

/-- One piece of work after another is shadowed when both are. -/
theorem bind {next : α → Flow (σ × List Handled) β} {next' : α → Flow σ β}
    (first : Shadows noting work) (second : ∀ value, Shadows (next value) (next' value)) :
    Shadows (noting >>= next) (work >>= next') := by
  intro run notes
  obtain ⟨more, shadowed⟩ := first run notes
  rw [bind_run, bind_run, shadowed]
  rcases work.run run with ⟨result, middle⟩
  cases result with
  | ok value =>
    obtain ⟨rest, shadowedThen⟩ := second value middle (notes ++ more)
    exact ⟨more ++ rest, by rw [← List.append_assoc]; exact shadowedThen⟩
  | error failure => exact ⟨more, rfl⟩

/-- An attempt is shadowed like the work. -/
theorem attempt (law : Shadows noting work) : Shadows (Flow.attempt noting) (Flow.attempt work) := by
  intro run notes
  obtain ⟨more, shadowed⟩ := law run notes
  refine ⟨more, ?_⟩
  rw [attempt_run, attempt_run, shadowed]

/-- Work under a correlation of its own is shadowed like the work. -/
theorem correlated (correlation : Option String) (law : Shadows noting work) :
    Shadows (Flow.correlated correlation noting) (Flow.correlated correlation work) := by
  intro run notes
  obtain ⟨more, shadowed⟩ := law { run with correlation } notes
  refine ⟨more, ?_⟩
  exact congrArg (fun ended => (ended.1, { ended.2 with correlation := run.correlation })) shadowed

end Shadows

namespace Handler

variable {σ : Type} (handler : Handler σ) (envelope : Envelope)

/-- Noting its calls, a handler does what it does. -/
theorem handle_shadows : Shadows (handler.noted.handle envelope) (handler.handle envelope) :=
  fun run _ => ⟨[⟨correlationOf run.correlation, ((handler.handle envelope).run run).1⟩], rfl⟩

/-- What follows a call has no notes to look at. -/
theorem conclude_shadows (retries : Nat) (outcome : Except Failure Routed) :
    Shadows (Delivery.conclude envelope retries outcome)
      (Delivery.conclude (σ := σ) envelope retries outcome) := by
  refine Shadows.bind (.count _) fun _ => ?_
  cases outcome with
  | ok routed => exact .bind (.count _) fun _ => .bind (.log _ _) fun _ => .pure _
  | error failure =>
    dsimp only [Office.settleFailure]
    split
    · exact .bind (.log _ _) fun _ => .bind (.count _) fun _ => .pure _
    · exact .bind (.log _ _) fun _ => .bind (.count _) fun _ => .pure _

/-- An attempt by the handler that notes its calls is one by the handler. -/
theorem attempt_shadows (retries : Nat) :
    Shadows (Delivery.attempt handler.noted.handle envelope retries)
      (Delivery.attempt handler.handle envelope retries) :=
  .bind (.log _ _) fun _ => .bind (.attempt (handler.handle_shadows envelope)) fun outcome =>
    conclude_shadows envelope retries outcome

/-- With any number of retries left, a delivery goes on as it would without the notes. -/
theorem within_shadows (left : Nat) :
    Shadows (Delivery.within handler.noted.handle envelope left)
      (Delivery.within handler.handle envelope left) := by
  induction left with
  | zero =>
    refine .bind (.correlated _ (handler.attempt_shadows envelope _)) fun outcome => ?_
    split
    · exact .pure _
    · exact .pure _
  | succ left inductionHypothesis =>
    refine .bind (.correlated _ (handler.attempt_shadows envelope _)) fun outcome => ?_
    split
    · exact .pure _
    · exact .bind inductionHypothesis fun _ => .pure _

/-- A delivery to the handler that notes its calls is one to the handler. -/
theorem deliver_shadows (message : Json) :
    Shadows (handler.noted.deliver message) (handler.deliver message) := by
  unfold deliver Delivery.ofMessage
  split
  · exact handler.within_shadows _ _
  · exact .bind (.log _ _) fun _ => .bind (.count _) fun _ => .pure _

end Handler

/-- A delivery is told by its attempts. A mail room delivers to its routing as to a handler, and
whatever a handler does, the delivery of a message to it comes to an end and leaves the
correlation that was in force before. A message that is no envelope is rejected without any call,
and counted as such once. An envelope is handed over until a call does not fail in a way that may
be tried again, and once more than there are retries when all calls do; the delivery ends as the
last call did. Each call is counted once, in the series of its own outcome, and is made under the
identity of the envelope, or the mark of no correlation when that is empty. The calls are those
that the handler would note.

Proof: by induction on the retries that are left, one attempt at a time. -/
theorem delivery_is_told_by_its_attempts {σ : Type} (message : Json) :
    (∀ office : Office σ, office.deliver message = office.handler.deliver message) ∧
    ∀ (handler : Handler σ) (run : Run σ), ∃ delivery after calls,
      (handler.deliver message).run run = (.ok delivery, after) ∧
      (handler.noted.deliver message).run (run.withPeers (run.peers, [])) =
        (.ok delivery, after.withPeers (after.peers, calls)) ∧
      after.correlation = run.correlation ∧
      match Envelope.checkMessage message with
      | .rejected violations =>
        calls = [] ∧ after.peers = run.peers ∧
        delivery.outcome = .ok (.rejected (Office.rawMember message "id")
          (Failure.violationCount Envelope.messageName violations.length)) ∧
        run.Counted after [.envelopeProcessed (Office.rawMember message "container")
          (Office.rawMember message "classification") "INVALID_MESSAGE"]
      | .accepted envelope =>
        Attempts envelope maxRetries calls delivery ∧
        run.Counted after (calls.map (·.series envelope)) ∧
        ∀ call ∈ calls, call.correlation =
          if envelope.id.isEmpty then noCorrelation else envelope.id := by
  refine ⟨fun _ => rfl, fun handler run => ?_⟩
  obtain ⟨calls, noted⟩ := handler.deliver_shadows message run []
  rw [List.nil_append] at noted
  rcases plain : (handler.deliver message).run run with ⟨result, after⟩
  rw [plain] at noted
  -- The law is proved where the calls are noted, and read there off the run without the notes.
  cases checked : Envelope.checkMessage message with
  | rejected violations =>
    rw [Handler.deliver, Delivery.ofMessage, checked] at plain
    obtain ⟨rfl, rfl⟩ := Prod.mk.inj plain
    rw [Handler.deliver, Delivery.ofMessage, checked] at noted
    have silent : calls = [] := (congrArg (fun ended => ended.2.peers.2) noted).symm
    rw [Handler.deliver, Delivery.ofMessage, checked]
    exact ⟨_, _, calls, rfl, noted, rfl, silent, rfl, rfl, .processed rfl⟩
  | accepted envelope =>
    obtain ⟨made, delivery, notedAfter, delivered, tried, attempts⟩ :=
      handler.noted_within envelope maxRetries (Nat.le_refl _) (run.withPeers (run.peers, []))
    have course := noted
    rw [Handler.deliver, Delivery.ofMessage, checked] at course
    obtain ⟨rfl, rfl⟩ := Prod.mk.inj (course.symm.trans delivered)
    obtain rfl : calls = made := tried.appended
    exact ⟨delivery, after, calls, rfl, noted, tried.restored, attempts, tried.counted,
      tried.correlated⟩

end Mailroom
