import Mailroom.Callback.Process

/-!
# What lets a callback in

A callback is checked from the outside in before anybody is asked anything: its
event, its service and the address of that service, its caller, the record in it
and the payments of the record. A callback that passes all checks comes down to
linking the case of its record. One that is stopped ends at once, in a way that
depends on the configured services and the callback alone: with a refusal, or
with messages and nothing else.
-/

namespace Mailroom.Office

variable {σ : Type}

/-- Services that go by the names that they are configured under. -/
def ByName (services : Services) : Prop :=
  ∀ name service, services.get (some name) = .ok service → service.name = some name

/-- A callback that passes every check, with the record, the service and the caller
that the checks make out. -/
structure Admitted (services : Services) (request : Callback.Request)
    (userToken userId : Option String) (record : ExceptionRecord) (service : Service)
    (token user : String) : Prop where
  event : request.eventId = EventName.createNewCase
  known : ∃ name, Callback.serviceOf request.record = .ok name ∧
    services.get (some name) = .ok service
  addressed : service.transformationUrl.getD "" ≠ ""
  token : userToken = some token ∧ token ≠ ""
  user : userId = some user ∧ user ≠ ""
  validated : ExceptionRecord.validate (request.record.getD {}) request.eventId = .ok record
  released : paymentsHold? record service request.ignoreWarnings = none

/-- How a callback ends that is stopped by a check: with a refusal or a fault, or
with errors or warnings to show and neither data nor a case. -/
def Halted : Except Failure Callback.Result → Prop
  | .error failure => (∃ refusal, failure = .callback refusal) ∨ ∃ fault, failure = .faulty fault
  | .ok result => result.data = [] ∧ result.caseId = none ∧
    (result.errors ≠ [] ∨ result.warnings ≠ [])

/-- Nothing to complain about is a value that was read. -/
theorem complaint_eq_nil {α : Type} {read : Except String α} :
    ExceptionRecord.complaint read = [] ↔ ∃ value, read = .ok value := by
  cases read <;> simp [ExceptionRecord.complaint]

/-- A record that is not accepted is complained about. -/
theorem complaints_of_validate {case : Case} {eventId : String} {complaints : List String}
    (rejected : ExceptionRecord.validate case eventId = .error complaints) : complaints ≠ [] := by
  rintro rfl
  unfold ExceptionRecord.validate ExceptionRecord.validateData at rejected
  dsimp only at rejected
  split at rejected
  case h_1 id _ kind _ _ _ _ isKind _ _ =>
    simp only [isKind] at rejected
    split at rejected
    case isTrue => cases rejected
    case isFalse objected =>
      have silent := Except.error.inj rejected
      simp only [List.append_eq_nil_iff] at silent
      exact objected (by simp [silent])
  case h_2 incomplete =>
    have silent := Except.error.inj rejected
    simp only [List.append_eq_nil_iff, complaint_eq_nil] at silent
    obtain ⟨⟨⟨⟨⟨named, poBox, isPoBox⟩, kind, isKind⟩, delivery, isDelivery⟩, opening, isOpening⟩, -⟩ :=
      silent
    cases isId : case.id.map toString with
    | none => simp [isId] at named
    | some id => exact incomplete id poBox kind delivery opening isId isPoBox isKind isDelivery isOpening

/-- A record that was checked goes by the identity of its case, and its envelope and
whether it has payments are read off the data. -/
theorem validate_id {record : ExceptionRecord} {case : Case} {eventId : String}
    (validated : ExceptionRecord.validate case eventId = .ok record) :
    ∃ id : Int, case.id = some id ∧ record.id = toString id ∧
      record.envelopeId = case.data.member CaseField.envelopeId ∧
      record.containsPayments = OpenData.isYes (case.data.member CaseField.containsPayments) := by
  unfold ExceptionRecord.validate ExceptionRecord.validateData at validated
  dsimp only at validated
  split at validated
  case h_2 => cases validated
  case h_1 text _ _ _ _ isText _ _ _ _ =>
    obtain ⟨id, named, rfl⟩ := Option.map_eq_some_iff.mp isText
    refine ⟨id, named, ?_⟩
    generalize List.isEmpty _ = allowed at validated
    cases allowed with
    | false => cases validated
    | true =>
      obtain rfl := Except.ok.inj validated
      exact ⟨rfl, rfl, rfl⟩

/-- Payments that hold a record back give a message and nothing else. -/
theorem halted_of_hold {record : ExceptionRecord} {service : Service} {ignoreWarnings : Bool}
    {result : Callback.Result} (held : paymentsHold? record service ignoreWarnings = some result) :
    Halted (.ok result) := by
  unfold paymentsHold? at held
  split at held
  · split at held
    · obtain rfl := Option.some.inj held
      exact ⟨rfl, rfl, .inl (by simp)⟩
    · split at held
      · obtain rfl := Option.some.inj held
        exact ⟨rfl, rfl, .inr (by simp)⟩
      · cases held
  · cases held

/-- A callback that is let in comes down to linking the case of its record. -/
theorem process_of_admitted {office : Office σ} {request : Callback.Request}
    {userToken userId : Option String} {record : ExceptionRecord} {service : Service}
    {token user : String}
    (admitted : Admitted office.services request userToken userId record service token user) :
    office.process request userToken userId =
      office.linkCase record service (request.record.getD {}) request.ignoreWarnings token user := by
  obtain ⟨event, ⟨name, named, known⟩, addressed, ⟨rfl, token⟩, ⟨rfl, user⟩, validated, released⟩ :=
    admitted
  unfold process processRecord
  rw [if_neg (by simp [event])]
  simp [named, callbackService, known, addressed, neededHeader, token, user, validated, released]

/-- Work on a callback that is stopped, whoever the collaborators are. -/
def Idle (work : Peers σ → Flow σ Callback.Result) : Prop :=
  ∃ outcome, Halted outcome ∧ ∀ peers, work peers = Flow.lift outcome

/-- A callback that is stopped ends so on every run, and leaves the run as it is. -/
theorem Idle.ends {work : Peers σ → Flow σ Callback.Result} (idle : Idle work) (peers : Peers σ) :
    ∃ outcome, Halted outcome ∧ ∀ run, (work peers).run run = (outcome, run) := by
  obtain ⟨outcome, halted, same⟩ := idle
  refine ⟨outcome, halted, fun run => ?_⟩
  rw [same peers]
  cases outcome <;> rfl

/-- A refusal stops a callback. -/
theorem idle_of_refusal {work : Peers σ → Flow σ Callback.Result} {refusal : Callback.Refusal}
    (refused : ∀ peers, work peers = Flow.fail (.callback refusal)) : Idle work :=
  ⟨.error (.callback refusal), .inl ⟨refusal, rfl⟩, refused⟩

/-- The service of a callback is configured and has an address, or is refused. -/
theorem callbackService_cases (office : Office σ) (name : String) :
    (∃ service, office.services.get (some name) = .ok service ∧
      service.transformationUrl.getD "" ≠ "" ∧ office.callbackService name = pure service) ∨
    ∃ refusal, office.callbackService name = Flow.fail (.callback refusal) := by
  unfold callbackService
  cases known : office.services.get (some name) with
  | error unknown => exact .inr ⟨_, rfl⟩
  | ok service =>
    by_cases addressed : service.transformationUrl.getD "" = ""
    · exact .inr ⟨_, if_pos (by simp [addressed])⟩
    · exact .inl ⟨service, rfl, addressed, if_neg (by simp [addressed])⟩

/-- A header says something, or is refused. -/
theorem neededHeader_cases (value : Option String) (complaint : String) :
    (∃ text, (value = some text ∧ text ≠ "") ∧ neededHeader (σ := σ) value complaint = pure text) ∨
      ∃ refusal, neededHeader (σ := σ) value complaint = Flow.fail (.callback refusal) := by
  cases value with
  | none => exact .inr ⟨_, rfl⟩
  | some text =>
    by_cases empty : text = ""
    · exact .inr ⟨_, if_pos (by simp [empty])⟩
    · exact .inl ⟨text, ⟨rfl, empty⟩, if_neg (by simp [empty])⟩

/-- The record of a callback is accepted and not held back, or the callback is stopped. -/
theorem processRecord_cases (office : Office σ) (request : Callback.Request) (service : Service)
    (token user : String) :
    (∃ record, ExceptionRecord.validate (request.record.getD {}) request.eventId = .ok record ∧
      paymentsHold? record service request.ignoreWarnings = none) ∨
    Idle fun peers => ({ office with peers } : Office σ).processRecord request service token user := by
  unfold processRecord
  dsimp only
  cases checked : ExceptionRecord.validate (request.record.getD {}) request.eventId with
  | error complaints =>
    exact .inr ⟨.ok { errors := complaints }, ⟨rfl, rfl, .inl (complaints_of_validate checked)⟩,
      fun _ => rfl⟩
  | ok record =>
    dsimp only
    cases hold : paymentsHold? record service request.ignoreWarnings with
    | none => exact .inl ⟨record, rfl, hold⟩
    | some result => exact .inr ⟨.ok result, halted_of_hold hold, fun _ => rfl⟩

/-- A callback is let in, or it ends at once without regard to the collaborators.

Proof: the checks are made in turn, and each that fails settles the end. -/
theorem admitted_or_idle (office : Office σ) (request : Callback.Request)
    (userToken userId : Option String) :
    (∃ record service token user,
      Admitted office.services request userToken userId record service token user) ∨
    Idle fun peers => ({ office with peers } : Office σ).process request userToken userId := by
  by_cases event : request.eventId = EventName.createNewCase
  case neg =>
    exact .inr (idle_of_refusal fun _ => if_pos (by simpa using event))
  have passes : ¬(request.eventId != EventName.createNewCase) = true := by simp [event]
  cases named : Callback.serviceOf request.record with
  | error reason =>
    refine .inr ?_
    unfold process
    simp only [if_neg passes, named]
    cases reason with
    | inl refusal => exact idle_of_refusal fun _ => rfl
    | inr fault => exact ⟨.error (.faulty fault), .inr ⟨fault, rfl⟩, fun _ => rfl⟩
  | ok name =>
  unfold process
  simp only [if_neg passes, named, pure_bind]
  have served (peers : Peers σ) : ({ office with peers } : Office σ).callbackService name =
    office.callbackService name := rfl
  simp only [served]
  obtain ⟨service, known, addressed, isService⟩ | ⟨refusal, refused⟩ :=
    callbackService_cases office name
  case inr => exact .inr (idle_of_refusal fun _ => by rw [refused]; rfl)
  obtain ⟨token, hasToken, isToken⟩ | ⟨refusal, refused⟩ :=
    neededHeader_cases (σ := σ) userToken "Callback has no Idam token received in the header"
  case inr => exact .inr (idle_of_refusal fun _ => by rw [isService, refused]; rfl)
  obtain ⟨user, hasUser, isUser⟩ | ⟨refusal, refused⟩ :=
    neededHeader_cases (σ := σ) userId "Callback has no user id received in the header"
  case inr => exact .inr (idle_of_refusal fun _ => by rw [isService, isToken, refused]; rfl)
  simp only [isService, isToken, isUser, pure_bind]
  refine (processRecord_cases office request service token user).imp_left ?_
  rintro ⟨record, validated, released⟩
  exact ⟨record, service, token, user, event, ⟨name, named, known⟩, addressed, hasToken, hasUser,
    validated, released⟩

end Mailroom.Office
