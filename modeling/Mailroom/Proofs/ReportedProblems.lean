import Mailroom.Proofs.OfficeWithPayments

/-!
# What a reported problem leaves behind

Where no call that fails has an effect, a callback that ends with a failure, or
shows errors or warnings and names no case, has changed nothing: the cases are as
before, and no command about payments was accepted. One partial success is
reported as such: the case was created and its payments could not be moved. A
callback that a check stops has asked nobody.
-/

namespace Mailroom.Office

open Mailroom.Flow Simulation

variable {σ : Type} {office : Office σ} {view : StoreView σ}
variable {accepted : σ → List Payments.Command}

/-- Nothing was written: neither a case nor a command about payments. -/
structure Unwritten (view : StoreView σ) (accepted : σ → List Payments.Command)
    (before after : σ) : Prop where
  cases : view.cases after = view.cases before
  commands : accepted after = accepted before

/-- Nothing was written where nothing was asked. -/
theorem Unwritten.refl (state : σ) : Unwritten view accepted state state := ⟨rfl, rfl⟩

/-- The case of a record was created under an identity, and then moving its payments
was asked for and has failed. -/
structure Unpaid (office : Office σ) (view : StoreView σ) (case : Case)
    (record : ExceptionRecord) (id : Int) (before after : σ) : Prop where
  created : ∃ new : Case, new.id = some id ∧ view.cases after = view.cases before ++ [new]
  refused : ∃ earlier reason, (office.peers.pay (updateCommand record case id) earlier).1.result =
    .error (.payments reason) ∧ after = (office.peers.pay (updateCommand record case id) earlier).2

/-- What a callback on a run has left behind, depending on how it has ended. -/
structure Accounts (office : Office σ) (view : StoreView σ) (accepted : σ → List Payments.Command)
    (request : Callback.Request) (userToken userId : Option String) (before : σ)
    (result : Except Failure Callback.Result) (after : σ) : Prop where
  /-- A failure leaves nothing behind, -/
  failed : ∀ failure, result = .error failure → Unwritten view accepted before after
  /-- nor do errors or warnings without a case. -/
  reported : ∀ shown, result = .ok shown → shown.caseId = none →
    shown.errors ≠ [] ∨ shown.warnings ≠ [] → Unwritten view accepted before after
  /-- Errors with a case are the one that its payments could not be moved. -/
  halfway : ∀ shown id, result = .ok shown → shown.errors ≠ [] → shown.caseId = some id →
    shown.errors = [paymentsNotProcessedMessage] ∧
    ∃ record service token user,
      Admitted office.services request userToken userId record service token user ∧
      office.Unpaid view (request.record.getD {}) record id before after
  /-- A callback that is not let in asks nobody, whoever the collaborators are. -/
  stopped : (¬∃ record service token user,
      Admitted office.services request userToken userId record service token user) →
    Idle fun peers => ({ office with peers } : Office σ).process request userToken userId

variable {request : Callback.Request} {userToken userId : Option String}
variable {record : ExceptionRecord} {service : Service} {token user : String} {before after : σ}

/-- A callback that has asked nobody leaves nothing behind. -/
theorem accounts_of_halted
    (idle : Idle fun peers => ({ office with peers } : Office σ).process request userToken userId)
    {outcome : Except Failure Callback.Result} (halted : Halted outcome) (state : σ) :
    office.Accounts view accepted request userToken userId state outcome state where
  failed _ _ := .refl state
  reported _ _ _ _ := .refl state
  halfway shown id ended _ named := by
    subst ended
    rw [halted.2.1] at named
    cases named
  stopped _ := idle

/-- The account of the cases and of the accepted commands of a callback. -/
abbrev writtenCourse (office : Office σ) (view : StoreView σ)
    (accepted : σ → List Payments.Command) (record : ExceptionRecord) (service : Service)
    (case : Case) (before : σ) : Course σ :=
  (office.caseCourse view record service (view.cases before) False fun _ => True).meet
    (office.paymentCourse accepted record case (accepted before))

/-- A callback that was let in and ends with a failure has written nothing where
moving payments fails for reasons that are reported. -/
theorem accounts_of_breaks {failure : Failure}
    (admitted : Admitted office.services request userToken userId record service token user)
    (reports : ∀ command state failure, (office.peers.pay command state).1.result = .error failure →
      ∃ reason, failure = .payments reason)
    (breaks : (office.writtenCourse view accepted record service (request.record.getD {})
      before).Breaks failure after) :
    office.Accounts view accepted request userToken userId before (.error failure) after where
  failed _ _ := by
    cases breaks with
    | doubtful kind doubtful => exact ⟨doubtful.1.2.resolve_right fun lost => lost.1, doubtful.2⟩
    | ambiguous found untouched => exact ⟨untouched.1.2, untouched.2⟩
    | unmoved found kind unmoved unreported =>
      obtain ⟨-, -, state, refused, -⟩ := unmoved
      obtain ⟨reason, same⟩ := reports _ state _ refused
      exact absurd same (unreported reason)
  reported := nofun
  halfway := nofun
  stopped stopped := absurd ⟨record, service, token, user, admitted⟩ stopped

/-- A callback that was let in and ends with a result has written nothing when it
reports a problem, apart from the case whose payments could not be moved. -/
theorem accounts_of_concludes {result : Callback.Result}
    (admitted : Admitted office.services request userToken userId record service token user)
    (concludes : (office.writtenCourse view accepted record service (request.record.getD {})
      before).Concludes office record service (request.record.getD {}) result after) :
    office.Accounts view accepted request userToken userId before (.ok result) after where
  failed := nofun
  reported shown ended unnamed problem := by
    obtain rfl := Except.ok.inj ended
    cases concludes with
    | objected found objects untouched => exact ⟨untouched.1.2, untouched.2⟩
    | existing | nameless => simp at problem
    | linked | unpaid => cases unnamed
  halfway shown id ended problem named := by
    obtain rfl := Except.ok.inj ended
    cases concludes with
    | existing | objected | nameless => cases named
    | linked => simp at problem
    | unpaid found unmoved =>
      obtain rfl := Option.some.inj named
      obtain ⟨⟨-, draft, -, new, founded, named, grown⟩, -, state, refused⟩ := unmoved
      exact ⟨rfl, record, service, token, user, admitted, ⟨new, named, grown⟩, state, _, refused⟩
  stopped stopped := absurd ⟨record, service, token, user, admitted⟩ stopped

/-- A callback that reports a problem has written nothing, apart from the case whose
payments could not be moved; one that a check has stopped has asked nobody.

Proof: what is known of the cases and of the accepted commands is carried through
the course of the callback, and each of its ends is looked at. -/
theorem problem_leaves_nothing_behind (creates : office.peers.Creates view False)
    (ledger : Ledger office.peers accepted)
    (reports : ∀ command state failure, (office.peers.pay command state).1.result = .error failure →
      ∃ reason, failure = .payments reason)
    (byName : ByName office.services) (request : Callback.Request)
    (userToken userId : Option String) (run : Run σ) (sound : view.sound run.peers) :
    office.Accounts view accepted request userToken userId run.peers
      ((office.process request userToken userId).run run).1
      ((office.process request userToken userId).run run).2.peers := by
  rcases process_course office byName request userToken userId with
    idle | ⟨record, service, token, user, admitted, course⟩
  · obtain ⟨outcome, halted, ends⟩ := idle.ends office.peers
    have ended : (office.process request userToken userId).run run = (outcome, run) := ends run
    rw [ended]
    exact accounts_of_halted idle halted run.peers
  have lawful : (office.writtenCourse view accepted record service (request.record.getD {})
      run.peers).Lawful office record service (request.record.getD {}) :=
    (caseCourse_lawful creates fun _ _ _ _ _ => trivial).meet (paymentCourse_lawful ledger _)
  have ended := course _ lawful run ⟨⟨sound, rfl⟩, rfl⟩
  revert ended
  cases ((office.process request userToken userId).run run).1 with
  | ok result => exact accounts_of_concludes admitted
  | error failure => exact accounts_of_breaks admitted reports

/-- A form whose payments are refused at first is accounted for: its case is there and
is named beside the one message. -/
theorem refused_payment_is_accounted_for :
    (PaymentsBook.office (.ok sampleAnswer)).Accounts PaymentsBook.view PaymentsBook.accepted
      paidRequest (some "token") (some "user") { refusals := 1 } (paidCallback { refusals := 1 }).1
      (paidCallback { refusals := 1 }).2.peers ∧
    ∃ result, (paidCallback { refusals := 1 }).1 = .ok result ∧
      result.errors = [paymentsNotProcessedMessage] ∧ result.caseId.isSome := by
  have shown : (paidCallback { refusals := 1 }).1.toOption.any (fun result =>
      result.errors == [paymentsNotProcessedMessage] && result.caseId.isSome) = true := by
    decide +kernel
  refine ⟨problem_leaves_nothing_behind (PaymentsBook.peers_work _).creates (PaymentsBook.ledger _)
    PaymentsBook.pay_reports (PaymentsBook.office_byName _) paidRequest (some "token") (some "user")
    { peers := { refusals := 1 } } CaseBook.sound_empty, ?_⟩
  obtain ⟨result, answered, holds⟩ := ok_of_any shown
  simp only [Bool.and_eq_true, beq_iff_eq] at holds
  exact ⟨result, answered, holds⟩

end Mailroom.Office
