import Mailroom.Proofs.Admission
import Mailroom.Proofs.StoreAccess

/-!
# The course of a callback

A callback that is let in takes one course: it searches, has the record
transformed, creates a case and moves the payments, and it may end at any of
these stages. Here this course is gone through once. What is known of the
collaborators at each stage is left open; a law of the callback follows as soon
as the questions that are put at a stage lead to what is known at the next.

Two such accounts of the stages hold together, so that what is known of the
cases and what is known of the payments may be said one at a time.
-/

namespace Mailroom

/-- What is known at the stages of a callback that was let in. -/
structure Course (σ : Type) where
  /-- Before anything is written. -/
  untouched : σ → Prop
  /-- Of the identities that the search finds. -/
  finds : List (Option Int) → Prop
  /-- After a call has failed before the creation was answered. -/
  doubtful : σ → Prop
  /-- After the creation was answered with an identity. -/
  created : Option Int → σ → Prop
  /-- After the payments were moved to a case, or had not to be. -/
  moved : Int → σ → Prop
  /-- After moving the payments to a case has failed. -/
  unmoved : Int → Failure → σ → Prop
  /-- Of a failure, whatever call it comes from. -/
  kind : Failure → Prop

namespace Office

variable {σ : Type}

/-- The transformation service has answered on a record with a draft. -/
def Drafts (office : Office σ) (record : ExceptionRecord) (service : Service)
    (draft : Transformation.CaseDraft) : Prop :=
  ∃ run token warnings, ((office.transformRecord record service).run run).1 =
    .ok (token, ⟨draft, warnings⟩)

/-- The transformation service has rejected a record with objections. -/
def Rejects (office : Office σ) (record : ExceptionRecord) (service : Service)
    (objections : Transformation.Objections) : Prop :=
  ∃ run body, ((office.transformRecord record service).run run).1 =
    .error (.transformation (.rejected 422 objections body))

/-- There are warnings, or the transformation service has rejected the record. -/
def Objects (office : Office σ) (record : ExceptionRecord) (service : Service)
    (warnings errors : List String) : Prop :=
  warnings ≠ [] ∧ errors = [] ∨ office.Rejects record service ⟨errors, warnings⟩

/-- What is submitted for a record: the data of a draft, as a case of its type. -/
def Submits (office : Office σ) (record : ExceptionRecord) (service : Service)
    (target : CaseStore.Target) (submission : Submission) : Prop :=
  ∃ draft, office.Drafts record service draft ∧ target.caseRef = none ∧
    target.caseType = .str draft.caseType ∧
    submission.data = office.newCaseData record service draft.data

/-- The command that moves the payments of a record to a case. -/
def updateCommand (record : ExceptionRecord) (case : Case) (id : Int) : Payments.Command :=
  .update {
    recordId := Case.idText case.id
    caseReference := Case.idText (some id)
    envelopeId := record.envelopeId
    jurisdiction := case.jurisdiction }

end Office

namespace Course

open Mailroom.Flow

variable {σ : Type}

/-- Each question leads from what is known at its stage to what is known at the next. -/
structure Lawful (course : Course σ) (office : Office σ) (record : ExceptionRecord)
    (service : Service) (case : Case) : Prop where
  calm : office.peers.Calm course.untouched course.kind
  found : ∀ caller state cases, course.untouched state →
    (office.peers.cases.search caller (Office.caseTypeList service)
      (Office.matchQuery Office.caseRecordField (.str record.id)) state).1.result = .ok cases →
    course.finds (cases.map (·.id))
  undone : ∀ state, course.untouched state → course.doubtful state
  start : ∀ caller target event,
    (Flow.ask (office.peers.cases.start caller target event)).Confines course.untouched course.kind
  submit : course.finds [] → ∀ caller target submission,
    office.Submits record service target submission →
    (Flow.ask (office.peers.cases.submit caller target submission)).Assures course.untouched
      (fun answer => course.created answer.id)
      fun failure state => course.kind failure ∧ course.doubtful state
  pay : record.containsPayments = true → ∀ id,
    (Flow.ask (office.peers.pay (Office.updateCommand record case id))).Assures
      (course.created (some id)) (fun _ => course.moved id)
      fun failure state => course.kind failure ∧ course.unmoved id failure state
  free : record.containsPayments = false → ∀ id state, course.created (some id) state →
    course.moved id state

/-- How a callback that was let in ends with a result. -/
inductive Concludes (course : Course σ) (office : Office σ) (record : ExceptionRecord)
    (service : Service) (case : Case) : Callback.Result → σ → Prop
  /-- One case was found, and is linked. -/
  | existing {id : Option Int} {state : σ} (found : course.finds [id])
      (untouched : course.untouched state) :
      Concludes course office record service case
        { data := ExceptionRecord.finalized case.data (Case.idText id) } state
  /-- The transformation service objects. -/
  | objected {warnings errors : List String} {state : σ} (found : course.finds [])
      (objects : office.Objects record service warnings errors)
      (untouched : course.untouched state) :
      Concludes course office record service case { warnings, errors } state
  /-- The case that was created has no identity. -/
  | nameless {state : σ} (found : course.finds []) (created : course.created none state) :
      Concludes course office record service case {} state
  /-- The case was created and its payments were moved. -/
  | linked {id : Int} {state : σ} (found : course.finds []) (moved : course.moved id state) :
      Concludes course office record service case
        { data := ExceptionRecord.finalized case.data (Case.idText (some id)), caseId := some id }
        state
  /-- The case was created, but its payments could not be moved. -/
  | unpaid {id : Int} {reason : Payments.Failure} {state : σ} (found : course.finds [])
      (unmoved : course.unmoved id (.payments reason) state) :
      Concludes course office record service case
        { errors := [Office.paymentsNotProcessedMessage], caseId := some id } state

/-- How a callback that was let in ends with a failure. -/
inductive Breaks (course : Course σ) : Failure → σ → Prop
  /-- A call has failed before the creation was answered. -/
  | doubtful {failure : Failure} {state : σ} (kind : course.kind failure)
      (doubtful : course.doubtful state) : Breaks course failure state
  /-- Several cases were found. -/
  | ambiguous {ambiguity : Ambiguity} {first second : Option Int} {others : List (Option Int)}
      {state : σ} (found : course.finds (first :: second :: others))
      (untouched : course.untouched state) : Breaks course (.ambiguous ambiguity) state
  /-- The payments could not be moved, and not for a reason that is reported. -/
  | unmoved {id : Int} {failure : Failure} {state : σ} (found : course.finds [])
      (kind : course.kind failure) (unmoved : course.unmoved id failure state)
      (unreported : ∀ reason, failure ≠ .payments reason) : Breaks course failure state

variable {course : Course σ} {office : Office σ} {record : ExceptionRecord} {service : Service}
variable {case : Case}

/-- What is known when the creation of a case is over. -/
def Reached (course : Course σ) (office : Office σ) (record : ExceptionRecord)
    (service : Service) : NewCaseOutcome → σ → Prop
  | .created id => course.created id
  | .objected warnings errors => fun state =>
    office.Objects record service warnings errors ∧ course.untouched state

/-- A failure before the creation was answered. -/
def Fails (course : Course σ) (failure : Failure) (state : σ) : Prop :=
  course.kind failure ∧ course.doubtful state

/-- A refusal of the callback is a failure of the kind. -/
theorem Lawful.refusing (lawful : course.Lawful office record service case) {α : Type}
    {before : σ → Prop} {done : α → σ → Prop} (message : String)
    (starts : ∀ state, before state → course.doubtful state) :
    (Office.refuse message : Flow σ α).Assures before done course.Fails :=
  Assures.fail _ fun state held => ⟨lawful.calm.own _ trivial, starts state held⟩

/-- Transforming a record is confined like its questions. -/
theorem Lawful.transformRecord_confines (lawful : course.Lawful office record service case) :
    (office.transformRecord record service).Confines course.untouched course.kind := by
  refine Confines.bind lawful.calm.lease fun token => Confines.bind (Confines.lift ?_)
    fun request => Confines.bind (lawful.calm.transform _ _ _) fun answer => Confines.pure _
  intro failure failed
  cases built : Transformation.Request.ofRecord record with
  | ok request =>
    rw [built] at failed
    cases failed
  | error reason =>
    rw [built] at failed
    obtain rfl : Failure.ofRequest reason = failure := Except.error.inj failed
    refine lawful.calm.own _ ?_
    cases reason <;> trivial

/-- A failed transformation is an objection, or a failure of the callback. -/
theorem Lawful.transformationRefusal_assures (lawful : course.Lawful office record service case)
    {failure : Failure}
    (failed : ∃ run, ((office.transformRecord record service).run run).1 = .error failure) :
    (Office.transformationRefusal record service failure).Assures
      (fun state => course.kind failure ∧ course.untouched state)
      (course.Reached office record service) course.Fails := by
  refine Assures.given fun ofKind => ?_
  unfold Office.transformationRefusal
  split
  case h_1 status objections body =>
    split
    case isTrue rejected =>
      obtain ⟨run, ended⟩ := failed
      refine Assures.after_log (Assures.pure _ fun state held => ⟨.inr ⟨run, body, ?_⟩, held⟩)
      rw [ended, rejected]
    case isFalse => exact lawful.refusing _ lawful.undone
  · exact lawful.refusing _ lawful.undone
  · exact lawful.refusing _ lawful.undone
  · exact Assures.fail _ fun state held => ⟨ofKind, lawful.undone state held⟩

/-- Creating the case of a record ends with what is known of a created case, or
fails. -/
theorem Lawful.createFromRecord_assures (lawful : course.Lawful office record service case)
    (found : course.finds []) (caller : CaseStore.Caller) (userId : String)
    {draft : Transformation.CaseDraft} (drafted : office.Drafts record service draft) :
    (office.createFromRecord record service caller userId draft).Assures course.untouched
      (course.Reached office record service) course.Fails := by
  have creates : (office.createForCaseworker caller userId service.jurisdiction draft.caseType
      draft.eventId (office.newCaseDraft record service draft.data)
      (Office.recordContext record service)).Assures course.untouched course.created
        course.Fails := by
    refine Assures.through (fun case => course.created case.id) ?_ fun case =>
      Assures.pure _ fun _ => id
    refine Assures.bind ((lawful.start _ _ _).to_end (fun _ _ => id) fun failure state ended =>
      ⟨ended.1, lawful.undone state ended.2⟩) fun started => Assures.after_log ?_
    exact lawful.submit found _ _ _ ⟨draft, drafted, rfl, rfl, rfl⟩
  refine Assures.attempting _ _ creates fun outcome => ?_
  split
  · exact Assures.after_log (Assures.pure _ fun _ => id)
  · exact Assures.given fun _ => lawful.refusing _ fun _ => id
  · exact Assures.fail _ fun _ => id

/-- Turning a record into a case ends with an objection or with what is known of a
created case, or fails. -/
theorem Lawful.createForRecord_assures (lawful : course.Lawful office record service case)
    (found : course.finds []) (ignoreWarnings : Bool) (userToken userId : String) :
    (office.createForRecord record service ignoreWarnings userToken userId).Assures
      course.untouched (course.Reached office record service) course.Fails := by
  refine Assures.attempting _ _ (Assures.seen lawful.transformRecord_confines) fun outcome => ?_
  split
  case h_1 failure =>
    exact Assures.given fun failed => lawful.transformationRefusal_assures failed
  case h_2 serviceToken answer =>
    refine Assures.given fun ⟨run, answered⟩ => ?_
    split
    case isTrue stopped =>
      refine Assures.pure _ fun state held => ⟨.inl ⟨?_, rfl⟩, held⟩
      simpa using (Bool.and_eq_true_iff.mp stopped).2
    case isFalse =>
      exact lawful.createFromRecord_assures found _ _ ⟨run, serviceToken, answer.warnings, answered⟩

/-- Moving the payments of a record leads to what is known when they were moved, or
had not to be, or to what is known when that has failed. -/
theorem Lawful.movePayments_assures (lawful : course.Lawful office record service case) (id : Int) :
    (office.movePayments record case.jurisdiction (Case.idText case.id) (some id)).Assures
      (course.created (some id)) (fun _ => course.moved id)
      (fun failure state => course.kind failure ∧ course.unmoved id failure state) := by
  unfold Office.movePayments
  cases contains : record.containsPayments with
  | true => exact Assures.after_log (lawful.pay contains id)
  | false => exact Assures.pure _ (lawful.free contains id)

/-- Linking a new case concludes the callback, unless the payments fail it for a
reason that is not reported. -/
theorem Lawful.linkNewCase_assures (lawful : course.Lawful office record service case)
    (found : course.finds []) (id : Int) :
    (office.linkNewCase record case (some id)).Assures (course.created (some id))
      (course.Concludes office record service case) course.Breaks := by
  refine Assures.attempting _ _ (lawful.movePayments_assures id) fun outcome => ?_
  split
  · exact Assures.pure _ fun _ => .linked found
  · exact Assures.after_log (Assures.pure _ fun _ ended => .unpaid found ended.2)
  case h_3 unreported =>
    exact Assures.fail _ fun _ ended => .unmoved found ended.1 ended.2 fun reason same =>
      unreported reason same

/-- Creating and linking the case of a record concludes the callback or fails. -/
theorem Lawful.createAndLink_assures (lawful : course.Lawful office record service case)
    (found : course.finds []) (ignoreWarnings : Bool) (userToken userId : String) :
    (office.createAndLink record service case ignoreWarnings userToken userId).Assures
      course.untouched (course.Concludes office record service case) course.Breaks := by
  refine Assures.bind ((lawful.createForRecord_assures found ignoreWarnings userToken userId).to_end
    (fun _ _ => id) fun failure state failed => .doubtful failed.1 failed.2) fun outcome => ?_
  split
  · exact Assures.pure _ fun state objected => .objected found objected.1 objected.2
  · exact Assures.pure _ fun _ => .nameless found
  · exact lawful.linkNewCase_assures found _

/-- A callback that was let in ends in one of the ways that conclude or break its
course.

Proof: by the law of each part in turn. The outcome of the search decides whether
anything is written, and what the creation has come to decides how it ends. -/
theorem Lawful.linkCase_assures (lawful : course.Lawful office record service case)
    (known : office.services.get service.name = .ok service) (ignoreWarnings : Bool)
    (userToken userId : String) :
    (office.linkCase record service case ignoreWarnings userToken userId).Assures
      course.untouched (course.Concludes office record service case) course.Breaks := by
  refine Assures.bind ((Office.casesByRecord_confines lawful.calm known record.id _
    lawful.found).to_end (fun _ _ => id) fun failure state ended =>
      .doubtful ended.1 (lawful.undone state ended.2)) fun ids => Assures.given fun found => ?_
  rcases ids with _ | ⟨first, _ | ⟨second, others⟩⟩
  · exact lawful.createAndLink_assures found ignoreWarnings userToken userId
  · exact Assures.after_log (Assures.pure _ fun _ => .existing found)
  · exact Assures.fail _ fun _ => .ambiguous found

/-- Two accounts of the stages at once. -/
def meet (one other : Course σ) : Course σ where
  untouched state := one.untouched state ∧ other.untouched state
  finds ids := one.finds ids ∧ other.finds ids
  doubtful state := one.doubtful state ∧ other.doubtful state
  created id state := one.created id state ∧ other.created id state
  moved id state := one.moved id state ∧ other.moved id state
  unmoved id failure state := one.unmoved id failure state ∧ other.unmoved id failure state
  kind failure := one.kind failure ∧ other.kind failure

/-- Two lawful accounts hold together. -/
theorem Lawful.meet {other : Course σ} (one : course.Lawful office record service case)
    (another : other.Lawful office record service case) :
    (course.meet other).Lawful office record service case where
  calm := one.calm.both another.calm
  found caller state cases held answered :=
    ⟨one.found caller state cases held.1 answered, another.found caller state cases held.2 answered⟩
  undone state held := ⟨one.undone state held.1, another.undone state held.2⟩
  start caller target event := (one.start caller target event).both (another.start caller target event)
  submit unfound caller target submission submits :=
    (Assures.both (one.submit unfound.1 caller target submission submits)
      (another.submit unfound.2 caller target submission submits)).to_end (fun _ _ => id)
      fun _ _ => and_and_and_comm.mp
  pay contains caseId :=
    (Assures.both (one.pay contains caseId) (another.pay contains caseId)).to_end (fun _ _ => id)
      fun _ _ => and_and_and_comm.mp
  free contains caseId state created :=
    ⟨one.free contains caseId state created.1, another.free contains caseId state created.2⟩

end Course

namespace Office

variable {σ : Type}

/-- A callback is stopped before anybody is asked, or it is let in and takes its course. -/
theorem process_course (office : Office σ) (byName : ByName office.services)
    (request : Callback.Request) (userToken userId : Option String) :
    (Idle fun peers => ({ office with peers } : Office σ).process request userToken userId) ∨
    ∃ record service token user,
      Admitted office.services request userToken userId record service token user ∧
      ∀ course : Course σ, course.Lawful office record service (request.record.getD {}) →
        (office.process request userToken userId).Assures course.untouched
          (course.Concludes office record service (request.record.getD {})) course.Breaks := by
  refine (admitted_or_idle office request userToken userId).symm.imp_right ?_
  rintro ⟨record, service, token, user, admitted⟩
  refine ⟨record, service, token, user, admitted, fun course lawful => ?_⟩
  obtain ⟨name, -, known⟩ := admitted.known
  have itsName := byName name service known
  rw [process_of_admitted admitted]
  exact lawful.linkCase_assures (itsName ▸ known) _ _ _

end Office
end Mailroom
