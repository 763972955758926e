import Mailroom.Proofs.CallbackCourse
import Mailroom.Proofs.CaseMarks
import Mailroom.Proofs.Deeds

/-!
# Accounts of a callback

What can be said of the course of a callback, one matter at a time: of the stored
cases, of the commands that the payments service has accepted, and of the
failures that calls end with. Each account assumes of the collaborators only what
it speaks of. A store may be lossy, which means that a creation that it reports as
failed may have been carried out all the same.
-/

namespace Mailroom

/-- A store that creates what is submitted, and changes no case unless something is
submitted to it. -/
structure Peers.Creates {σ : Type} (peers : Peers σ) (view : StoreView σ) (lossy : Prop) :
    Prop where
  quiet : ∀ property, peers.Quiet (view.Meets property)
  start_quiet : ∀ property caller target event state, view.Meets property state →
    view.Meets property (peers.cases.start caller target event state).2
  create : ∀ caller target submission state, view.sound state → target.caseRef = none →
    view.sound (peers.cases.submit caller target submission state).2 ∧
    match (peers.cases.submit caller target submission state).1.result with
    | .ok answer => Added target.caseType submission.data (view.cases state)
        (view.cases (peers.cases.submit caller target submission state).2) answer.id
    | .error _ =>
      view.cases (peers.cases.submit caller target submission state).2 = view.cases state ∨
      lossy ∧ ∃ id, Added target.caseType submission.data (view.cases state)
        (view.cases (peers.cases.submit caller target submission state).2) id

/-- A store that keeps its word creates what is submitted, but it may be lossy. -/
theorem Faithful.creates {σ : Type} {peers : Peers σ} {view : StoreView σ} {keys : String → Prop}
    (faithful : Faithful peers view keys) : peers.Creates view True where
  quiet := faithful.quiet
  start_quiet := faithful.start_quiet
  create caller target submission state sound creation := by
    obtain ⟨soundAfter, submitted⟩ := faithful.submit caller target submission state sound
      fun _ targeted => by rw [creation] at targeted; cases targeted
    refine ⟨soundAfter, ?_⟩
    rw [creation] at submitted
    cases answered : (peers.cases.submit caller target submission state).1.result with
    | ok answer =>
      rw [answered] at submitted
      exact submitted
    | error failure =>
      rw [answered] at submitted
      exact submitted.imp_right (And.intro trivial)

/-- A view of the commands that the payments service has accepted. It accepts what
it answers to, and perhaps what it fails on; no other question adds a command. -/
structure Ledger {σ : Type} (peers : Peers σ) (accepted : σ → List Payments.Command) : Prop where
  search : ∀ caller types query state,
    accepted (peers.cases.search caller types query state).2 = accepted state
  fetch : ∀ caller reference state,
    accepted (peers.cases.fetch caller reference state).2 = accepted state
  start : ∀ caller target event state,
    accepted (peers.cases.start caller target event state).2 = accepted state
  submit : ∀ caller target submission state,
    accepted (peers.cases.submit caller target submission state).2 = accepted state
  login : ∀ login state, accepted (peers.login login state).2 = accepted state
  details : ∀ token state, accepted (peers.userDetails token state).2 = accepted state
  lease : ∀ state, accepted (peers.lease state).2 = accepted state
  transform : ∀ url request token state,
    accepted (peers.transform url request token state).2 = accepted state
  pay : ∀ command state, match (peers.pay command state).1.result with
    | .ok _ => accepted (peers.pay command state).2 = accepted state ++ [command]
    | .error _ => accepted (peers.pay command state).2 = accepted state ∨
        accepted (peers.pay command state).2 = accepted state ++ [command]

/-- Collaborators whose failures are of a kind, as far as callbacks put questions to them. -/
structure Peers.FailsBy {σ : Type} (peers : Peers σ) (kind : Failure → Prop) : Prop where
  search : ∀ caller types query state failure,
    (peers.cases.search caller types query state).1.result = .error failure → kind failure
  start : ∀ caller target event state failure,
    (peers.cases.start caller target event state).1.result = .error failure → kind failure
  submit : ∀ caller target submission state failure,
    (peers.cases.submit caller target submission state).1.result = .error failure → kind failure
  login : ∀ login state failure, (peers.login login state).1.result = .error failure → kind failure
  details : ∀ token state failure,
    (peers.userDetails token state).1.result = .error failure → kind failure
  lease : ∀ state failure, (peers.lease state).1.result = .error failure → kind failure
  transform : ∀ url request token state failure,
    (peers.transform url request token state).1.result = .error failure → kind failure
  pay : ∀ command state failure,
    (peers.pay command state).1.result = .error failure → kind failure

namespace Office

open Mailroom.Flow

variable {σ : Type} {office : Office σ} {view : StoreView σ} {stored : List Case}
variable {record : ExceptionRecord} {service : Service} {case : Case}

/-- A transformation service answers on records with a type of its own service. -/
def TransformsWithin (office : Office σ) (service : Service) : Prop :=
  ∀ record request token state answer,
    Transformation.Request.ofRecord record = .ok request →
    (office.peers.transform service.transformationUrl request token state).1.result = .ok answer →
    answer.draft.caseType ∈ service.caseTypes

/-- A draft is of a type of the service. -/
theorem Drafts.within {draft : Transformation.CaseDraft} (within : office.TransformsWithin service)
    (drafts : office.Drafts record service draft) : draft.caseType ∈ service.caseTypes := by
  obtain ⟨run, token, warnings, ended⟩ := drafts
  have law : (office.transformRecord record service).Assures (fun _ => True)
      (fun answered _ => answered.2.draft.caseType ∈ service.caseTypes) (fun _ _ => True) := by
    refine Assures.through (fun _ _ => True) (Assures.ask _ fun _ _ => ?_) fun token => ?_
    · cases (office.peers.lease _).1.result <;> trivial
    refine Assures.through (fun request _ => Transformation.Request.ofRecord record = .ok request)
      (Assures.lift _ fun _ _ => ?_) fun request => Assures.through
        (fun answer _ => answer.draft.caseType ∈ service.caseTypes) (Assures.ask _ ?_) fun answer =>
          Assures.pure _ fun _ => id
    · cases Transformation.Request.ofRecord record <;> trivial
    · intro state built
      cases answered :
          (office.peers.transform service.transformationUrl request token state).1.result with
      | error failure => trivial
      | ok answer => exact within record request token state answer built answered
  have holds := law run trivial
  rw [ended] at holds
  exact holds

/-- A draft of a record was stored as one more case, under an identity. -/
def Adds (office : Office σ) (record : ExceptionRecord) (service : Service) (stored : List Case)
    (id : Option Int) (after : List Case) : Prop :=
  ∃ draft, office.Drafts record service draft ∧
    Added (.str draft.caseType) (office.newCaseData record service draft.data) stored after id

/-- The account of the stored cases. -/
def caseCourse (office : Office σ) (view : StoreView σ) (record : ExceptionRecord)
    (service : Service) (stored : List Case) (lossy : Prop) (finds : List (Option Int) → Prop) :
    Course σ where
  untouched := view.Holds stored
  finds := finds
  doubtful := view.Meets fun after =>
    after = stored ∨ lossy ∧ finds [] ∧ ∃ id, office.Adds record service stored id after
  created id := view.Meets (office.Adds record service stored id)
  moved id := view.Meets (office.Adds record service stored (some id))
  unmoved id _ := view.Meets (office.Adds record service stored (some id))
  kind _ := True

/-- A callback adds one case at most, under the identity that the creation was
answered with. -/
theorem caseCourse_lawful {lossy : Prop} (creates : office.peers.Creates view lossy)
    {finds : List (Option Int) → Prop}
    (found : ∀ caller state cases, view.Holds stored state →
      (office.peers.cases.search caller (caseTypeList service)
        (matchQuery caseRecordField (.str record.id)) state).1.result = .ok cases →
      finds (cases.map (·.id))) :
    (office.caseCourse view record service stored lossy finds).Lawful office record service
      case where
  calm := (creates.quiet (· = stored)).calm
  found := found
  undone _ held := ⟨held.1, .inl held.2⟩
  start caller target event :=
    (Keeps.ask (creates.start_quiet (· = stored) caller target event)).confines
  submit unfound caller target submission := by
    rintro ⟨draft, drafted, creation, caseType, data⟩
    refine Assures.ask _ fun state held => ?_
    obtain ⟨sound, created⟩ := creates.create caller target submission state held.1 creation
    rw [held.2, caseType, data] at created
    cases answered : (office.peers.cases.submit caller target submission state).1.result with
    | ok answer =>
      rw [answered] at created
      exact ⟨sound, draft, drafted, created⟩
    | error failure =>
      rw [answered] at created
      exact ⟨trivial, sound, created.imp_right fun ⟨lost, id, added⟩ =>
        ⟨lost, unfound, id, draft, drafted, added⟩⟩
  pay _ id := Assures.to_end (Keeps.ask ((creates.quiet _).pay _)) (fun _ _ held => held)
    fun _ _ => And.intro trivial
  free _ _ _ created := created

/-- What a callback has come to: the cases are as they were, or one was added where the
search has found none. -/
def Effected (office : Office σ) (record : ExceptionRecord) (service : Service)
    (stored : List Case) (finds : List (Option Int) → Prop) (after : List Case) : Prop :=
  after = stored ∨ finds [] ∧ ∃ id, office.Adds record service stored id after

/-- A callback that ends with a result has added one case at most. -/
theorem effected_of_concludes {lossy : Prop} {finds : List (Option Int) → Prop}
    {result : Callback.Result} {state : σ}
    (concludes : (office.caseCourse view record service stored lossy finds).Concludes office record
      service case result state) :
    view.Meets (office.Effected record service stored finds) state := by
  cases concludes with
  | existing found untouched => exact ⟨untouched.1, .inl untouched.2⟩
  | objected found objects untouched => exact ⟨untouched.1, .inl untouched.2⟩
  | nameless found created => exact ⟨created.1, .inr ⟨found, _, created.2⟩⟩
  | linked found moved => exact ⟨moved.1, .inr ⟨found, _, moved.2⟩⟩
  | unpaid found unmoved => exact ⟨unmoved.1, .inr ⟨found, _, unmoved.2⟩⟩

/-- A callback that ends with a failure has added one case at most. -/
theorem effected_of_breaks {lossy : Prop} {finds : List (Option Int) → Prop} {failure : Failure}
    {state : σ}
    (breaks : (office.caseCourse view record service stored lossy finds).Breaks failure state) :
    view.Meets (office.Effected record service stored finds) state := by
  cases breaks with
  | doubtful kind doubtful => exact ⟨doubtful.1, doubtful.2.imp_right And.right⟩
  | ambiguous found untouched => exact ⟨untouched.1, .inl untouched.2⟩
  | unmoved found kind unmoved unreported => exact ⟨unmoved.1, .inr ⟨found, _, unmoved.2⟩⟩

/-- The cases of a record are found among those of its service. -/
theorem found_of_record {keys : String → Prop} (faithful : Faithful office.peers view keys)
    (searchable : service.Searchable) (searched : keys record.id) (caller : CaseStore.Caller)
    (state : σ) (cases : List Case) (held : view.Holds stored state)
    (answered : (office.peers.cases.search caller (caseTypeList service)
      (matchQuery caseRecordField (.str record.id)) state).1.result = .ok cases) :
    Found stored service.caseTypes caseRecordPath record.id (cases.map (·.id)) := by
  have field : caseRecordField = dataField caseRecordPath := by decide
  rw [field] at answered
  exact found_of_search faithful searchable.some_types (by decide) searched caller state cases held
    answered

/-- The account of the stored cases where the store keeps its word. -/
abbrev faithfulCourse (office : Office σ) (view : StoreView σ) (record : ExceptionRecord)
    (service : Service) (stored : List Case) : Course σ :=
  office.caseCourse view record service stored True
    (Found stored service.caseTypes caseRecordPath record.id)

/-- A callback adds one case at most, where a search by its record has found none. -/
theorem faithfulCourse_lawful {keys : String → Prop} (faithful : Faithful office.peers view keys)
    (searchable : service.Searchable) (searched : keys record.id) :
    (office.faithfulCourse view record service stored).Lawful office record service case :=
  caseCourse_lawful faithful.creates (found_of_record faithful searchable searched)

/-- The data of a new case name its record. -/
theorem newCaseData_marked (office : Office σ) (record : ExceptionRecord) (service : Service)
    (data : Fields) :
    (office.newCaseData record service data).get? CaseField.bulkScanCaseReference =
      some (.str record.id) := by
  unfold newCaseData
  dsimp only
  split
  · rw [Fields.get?_set_of_ne _ _ (by decide)]
    exact Fields.get?_set_self _ _ _
  · exact Fields.get?_set_self _ _ _

/-- One case is added under an identity. It names its record, and is of the service
where the transformation service answers within it. -/
theorem Adds.grown {id : Option Int} {after : List Case}
    (adds : office.Adds record service stored id after) :
    ∃ new : Case, new.id = id ∧ new.New stored ∧ new.holds caseRecordPath record.id = true ∧
      (office.TransformsWithin service → new.isOfType service.caseTypes = true) ∧
      after = stored ++ [new] := by
  obtain ⟨draft, drafts, new, founded, named, rfl⟩ := adds
  have marked := office.newCaseData_marked record service draft.data
  rw [← founded.data] at marked
  refine ⟨new, named, ⟨founded.named, founded.fresh⟩, Case.holds_text marked, fun within => ?_, rfl⟩
  simpa [Case.isOfType, founded.caseType] using drafts.within within

/-- The account of the accepted commands. -/
def paymentCourse (office : Office σ) (accepted : σ → List Payments.Command)
    (record : ExceptionRecord) (case : Case) (before : List Payments.Command) : Course σ where
  untouched state := accepted state = before
  finds _ := True
  doubtful state := accepted state = before
  created _ state := accepted state = before
  moved id state := accepted state = before ++
    if record.containsPayments then [updateCommand record case id] else []
  unmoved id failure state :=
    (accepted state = before ∨ accepted state = before ++ [updateCommand record case id]) ∧
    ∃ earlier, (office.peers.pay (updateCommand record case id) earlier).1.result =
      .error failure ∧ state = (office.peers.pay (updateCommand record case id) earlier).2
  kind _ := True

/-- Questions that leave the accepted commands alone are calm about them. -/
theorem calm_of_ledger {peers : Peers σ} {accepted : σ → List Payments.Command}
    (ledger : Ledger peers accepted) (before : List Payments.Command) :
    peers.Calm (accepted · = before) fun _ => True where
  own _ _ := trivial
  search caller types query :=
    (Keeps.ask fun state held => (ledger.search caller types query state).trans held).confines
  login login := (Keeps.ask fun state held => (ledger.login login state).trans held).confines
  details token := (Keeps.ask fun state held => (ledger.details token state).trans held).confines
  lease := (Keeps.ask fun state held => (ledger.lease state).trans held).confines
  transform url request token :=
    (Keeps.ask fun state held => (ledger.transform url request token state).trans held).confines

/-- A callback has one command accepted at most: the one that moves the payments of
the record to the case that was created. -/
theorem paymentCourse_lawful {accepted : σ → List Payments.Command}
    (ledger : Ledger office.peers accepted) (before : List Payments.Command) :
    (office.paymentCourse accepted record case before).Lawful office record service case where
  calm := calm_of_ledger ledger before
  found _ _ _ _ _ := trivial
  undone _ held := held
  start caller target event :=
    (Keeps.ask fun state held => (ledger.start caller target event state).trans held).confines
  submit _ caller target submission _ :=
    (Keeps.ask fun state held => (ledger.submit caller target submission state).trans held).confines
  pay contains id := by
    refine Assures.ask _ fun state held => ?_
    have paid := ledger.pay (updateCommand record case id) state
    cases answered : (office.peers.pay (updateCommand record case id) state).1.result with
    | ok _ =>
      rw [answered] at paid
      change accepted _ = before ++ if record.containsPayments then _ else _
      rw [if_pos contains, ← held]
      exact paid
    | error failure =>
      rw [answered] at paid
      rw [show accepted state = before from held] at paid
      exact ⟨trivial, paid, state, answered, rfl⟩
  free contains id state created := by
    change accepted _ = before ++ if record.containsPayments then _ else _
    rw [if_neg (by simp [contains]), List.append_nil]
    exact created

/-- The account of the failures. -/
def failureCourse (kind : Failure → Prop) : Course σ where
  untouched _ := True
  finds _ := True
  doubtful _ := True
  created _ _ := True
  moved _ _ := True
  unmoved _ _ _ := True
  kind := kind

/-- A callback fails as its questions do, or with a finding of its own. -/
theorem failureCourse_lawful {kind : Failure → Prop} (fails : office.peers.FailsBy kind)
    (own : ∀ failure, failure.IsPlain → kind failure) :
    (failureCourse kind : Course σ).Lawful office record service case where
  calm := {
    own
    search := fun caller types query => confines_of_kind (fails.search caller types query)
    login := fun login => confines_of_kind (fails.login login)
    details := fun token => confines_of_kind (fails.details token)
    lease := confines_of_kind fails.lease
    transform := fun url request token => confines_of_kind (fails.transform url request token) }
  found _ _ _ _ _ := trivial
  undone _ held := held
  start caller target event := confines_of_kind (fails.start caller target event)
  submit _ caller target submission _ := confines_of_kind (fails.submit caller target submission)
  pay _ _ := confines_of_kind (fails.pay _)
  free _ _ _ created := created

end Office
end Mailroom
