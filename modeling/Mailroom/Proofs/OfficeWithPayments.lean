import Mailroom.Proofs.CallbackAccounts
import Mailroom.Proofs.OfficeInMemory
import Mailroom.Proofs.OwnFailures

/-!
# A mail room with payments, in memory

A mail room in memory that also keeps what its payments service has accepted. The
service may be planned to refuse some commands before it accepts any, and every
transformation ends alike, with an answer or a failure. A store in memory is not
lossy, the accepted commands are a ledger, and no collaborator finds several cases.
-/

namespace Mailroom

/-- A failure of the case store is not that several cases were found. -/
theorem Failure.plain_of_store {failure : Failure} (ofStore : failure.IsOf .store) :
    failure.IsPlain := by
  obtain ⟨reason, rfl⟩ | ⟨fault, rfl⟩ := ofStore
  · trivial
  · trivial

end Mailroom

namespace Mailroom.Simulation

namespace CaseBook

variable {α : Type}

/-- Calls fail in ways of the store when what they carry out does. -/
theorem call_ofStore {operation : Operation} {caller : CaseStore.Caller} {arguments : Fields}
    {act : CaseBook → Except Failure α × CaseBook}
    (ofStore : ∀ book failure, (act book).1 = .error failure → failure.IsOf .store)
    (book : CaseBook) (failure : Failure)
    (failed : (call operation caller arguments act book).1 = .error failure) :
    failure.IsOf .store := by
  unfold call at failed
  dsimp only at failed
  split at failed
  case h_1 planned _ _ =>
    obtain rfl := Except.error.inj failed
    cases planned with
    | status status => exact .inl ⟨_, rfl⟩
    | crash => exact .inr ⟨_, rfl⟩
  case h_2 =>
    split at failed
    · exact ofStore _ failure failed
    · exact ofStore _ failure failed

/-- A token is refused in ways of the store. -/
theorem useToken_ofStore (book : CaseBook) (target : CaseStore.Target) (caseId : Option Int)
    (submission : Submission) (failure : Failure)
    (failed : (book.useToken target caseId submission).1 = .error failure) :
    failure.IsOf .store := by
  unfold useToken at failed
  dsimp only at failed
  split at failed
  · split at failed
    · cases failed
    · obtain rfl := Except.error.inj failed
      exact .inl ⟨_, rfl⟩
  · obtain rfl := Except.error.inj failed
    exact .inl ⟨_, rfl⟩

/-- A fetch fails in ways of the store. -/
theorem fetch_ofStore (reference : String) (book : CaseBook) (failure : Failure)
    (failed : (fetch reference book).1 = .error failure) : failure.IsOf .store := by
  unfold fetch at failed
  split at failed
  · obtain rfl := Except.error.inj failed
    exact .inl ⟨_, rfl⟩
  · split at failed
    · cases failed
    · obtain rfl := Except.error.inj failed
      exact .inl ⟨_, rfl⟩

/-- An event fails to start in ways of the store. -/
theorem start_ofStore (target : CaseStore.Target) (event : String) (book : CaseBook)
    (failure : Failure) (failed : (start target event book).1 = .error failure) :
    failure.IsOf .store := by
  unfold start at failed
  split at failed
  · cases failed
  · split at failed
    · obtain rfl := Except.error.inj failed
      exact .inl ⟨_, rfl⟩
    · cases failed

/-- A submission fails in ways of the store. -/
theorem submitCreate_ofStore (target : CaseStore.Target) (submission : Submission) (book : CaseBook)
    (failure : Failure) (failed : (submitCreate target submission book).1 = .error failure) :
    failure.IsOf .store := by
  have token := useToken_ofStore book target none submission
  unfold submitCreate at failed
  split at failed
  case h_1 refused _ same =>
    obtain rfl := Except.error.inj failed
    exact token _ (congrArg Prod.fst same)
  case h_2 => cases failed

/-- An update fails in ways of the store. -/
theorem submitUpdate_ofStore (target : CaseStore.Target) (reference : String)
    (submission : Submission) (book : CaseBook) (failure : Failure)
    (failed : (submitUpdate target reference submission book).1 = .error failure) :
    failure.IsOf .store := by
  unfold submitUpdate at failed
  split at failed
  · obtain rfl := Except.error.inj failed
    exact .inl ⟨_, rfl⟩
  case h_2 case _ =>
    have token := useToken_ofStore book target case.id submission
    split at failed
    case h_1 refused _ same =>
      obtain rfl := Except.error.inj failed
      exact token _ (congrArg Prod.fst same)
    case h_2 => cases failed

variable {σ : Type} {get : σ → CaseBook} {set : CaseBook → σ → σ} {peers : Peers σ}

/-- A store in memory creates what is submitted and is not lossy. -/
theorem WorksWith.creates (works : WorksWith peers get set) :
    peers.Creates (view get) False where
  quiet := works.quiet
  start_quiet := works.faithful.start_quiet
  create caller target submission state sound creation := by
    have identified : target.Identified := fun _ targeted => by
      rw [creation] at targeted
      cases targeted
    have settled := submit_settled works.get_set caller identified submission sound
    rw [works.cases]
    refine ⟨settled.sound, ?_⟩
    split
    case h_1 answer answered =>
      have submitted := settled.answered answer answered
      rw [creation] at submitted
      exact submitted
    case h_2 failure refused => exact .inl (settled.refused failure refused)

end CaseBook

/-- A store in memory, the number of commands that the payments service will refuse
first, and the commands that it has accepted. -/
structure PaymentsBook where
  book : CaseBook := {}
  refusals : Nat := 0
  accepted : List Payments.Command := []

namespace PaymentsBook

/-- Put a command to the payments service. -/
def pay (command : Payments.Command) : Ask PaymentsBook Unit := fun state =>
  match state.refusals with
  | 0 => (.answer (), { state with accepted := state.accepted ++ [command] })
  | refusals + 1 => (.refuse (.payments ⟨"Simulated payments failure"⟩), { state with refusals })

/-- Put a store in the place of the one that is there. -/
def withBook (book : CaseBook) (state : PaymentsBook) : PaymentsBook := { state with book }

/-- Collaborators in memory, of which nothing is refused but what was planned. -/
def peers (transformed : Except Failure Transformation.Answer) : Peers PaymentsBook where
  cases := CaseBook.questions book withBook
  login _ state := (.answer "user token", state)
  userDetails _ state := (.answer ⟨.str "user", .null⟩, state)
  lease state := (.answer "service token", state)
  transform _ _ _ state := (⟨transformed, []⟩, state)
  pay := pay

/-- How to look at the store beside the payments. -/
abbrev view : StoreView PaymentsBook := CaseBook.view book

variable (transformed : Except Failure Transformation.Answer)

/-- The collaborators leave the store alone but for the questions to it. -/
theorem peers_work : CaseBook.WorksWith (peers transformed) book withBook := by
  constructor
  case pay =>
    intro command state
    change (pay command state).2.book = state.book
    unfold pay
    split <;> rfl
  all_goals intros; rfl

/-- The accepted commands are a ledger of the payments service. -/
theorem ledger : Ledger (peers transformed) accepted where
  search _ _ _ _ := rfl
  fetch _ _ _ := rfl
  start _ _ _ _ := rfl
  submit _ target _ state := by
    obtain ⟨_, _, _, caseRef⟩ := target
    cases caseRef <;> rfl
  login _ _ := rfl
  details _ _ := rfl
  lease _ := rfl
  transform _ _ _ _ := rfl
  pay command state := by
    dsimp only [peers, pay]
    cases state.refusals with
    | zero => rfl
    | succ refusals => exact .inl rfl

/-- A command is refused with a failure of the payments service. -/
theorem pay_reports (command : Payments.Command) (state : PaymentsBook) (failure : Failure)
    (failed : (pay command state).1.result = .error failure) :
    ∃ reason, failure = .payments reason := by
  unfold pay at failed
  split at failed
  · cases failed
  · exact ⟨_, (Except.error.inj failed).symm⟩

/-- The collaborators fail in ways of their own, if the transformation does. -/
theorem peers_documented
    (ofKind : ∀ failure, transformed = .error failure → failure.IsOf .transformation) :
    (peers transformed).Documented where
  search caller types query state := by
    simp only [peers, CaseBook.questions, CaseBook.asked_result]
    refine CaseBook.call_ofStore ?_ state.book
    intro _ _ impossible
    cases impossible
  fetch caller reference state :=
    CaseBook.call_ofStore (CaseBook.fetch_ofStore reference) state.book
  start caller target event state :=
    CaseBook.call_ofStore (CaseBook.start_ofStore target event) state.book
  submit caller target submission state := by
    cases targeted : target.caseRef with
    | none =>
      simp only [peers, CaseBook.questions, targeted]
      exact CaseBook.call_ofStore (CaseBook.submitCreate_ofStore target submission) state.book
    | some reference =>
      simp only [peers, CaseBook.questions, targeted]
      exact CaseBook.call_ofStore (CaseBook.submitUpdate_ofStore target reference submission)
        state.book
  login _ _ _ := nofun
  details _ _ _ := nofun
  lease _ _ := nofun
  transform _ _ _ _ := ofKind
  pay command state failure failed := .inl (pay_reports command state failure failed)

/-- No collaborator finds several cases, if the transformation does not. -/
theorem peers_plain (plain : ∀ failure, transformed = .error failure → failure.IsPlain) :
    (peers transformed).FailsBy Failure.IsPlain :=
  -- Only the transformation is left open, so that the others fail as those of any state.
  let documented := peers_documented (.ok sampleAnswer) fun _ => nofun
  { search := fun caller types query state failure failed =>
      Failure.plain_of_store (documented.search caller types query state failure failed)
    start := fun caller target event state failure failed =>
      Failure.plain_of_store (documented.start caller target event state failure failed)
    submit := fun caller target submission state failure failed =>
      Failure.plain_of_store (documented.submit caller target submission state failure failed)
    login := fun _ _ _ => nofun
    details := fun _ _ _ => nofun
    lease := fun _ _ => nofun
    transform := fun _ _ _ _ => plain
    pay := fun command state failure failed => by
      obtain ⟨_, rfl⟩ := pay_reports command state failure failed
      exact trivial }

/-- A mail room for the sample service that has such collaborators. -/
def office : Office PaymentsBook where
  services := Services.ofList [sampleService]
  users := [("bulkscan", { username := "user", password := "password" })]
  documents := { url := "http://localhost", contextPath := "documents" }
  peers := peers transformed

/-- The services of this mail room go by their names. -/
theorem office_byName : Office.ByName (office transformed).services :=
  Office.byName_ofList _

/-- The services of this mail room can be searched for their cases. -/
theorem office_searchable : (office transformed).services.Searchable :=
  sample_suited.configured.searchable

end PaymentsBook

/-- A record of a form with payments. -/
def paidRecord : Case where
  id := some 7
  jurisdiction := .str "BULKSCAN"
  caseType := .str (Service.recordCaseType "bulkscan")
  data := [
    (CaseField.journeyClassification, .str Classification.newApplication.name),
    (CaseField.poBox, .str "PO"),
    (CaseField.deliveryDate, .str "2020-01-01T00:00:00.000"),
    (CaseField.openingDate, .str "2020-01-01T00:00:00.000"),
    (CaseField.scanOcrData, .arr [OpenData.element [("key", .str "name"), ("value", .str "value")]]),
    (CaseField.envelopeId, .str "e"),
    (CaseField.containsPayments, .str yes)]

/-- A caseworker asks for a case of this record. -/
def paidRequest : Callback.Request where
  eventId := EventName.createNewCase
  record := some paidRecord
  ignoreWarnings := true

/-- What comes of this request in the office whose payments service starts from this state. -/
def paidCallback (state : PaymentsBook) : Except Failure Callback.Result × Run PaymentsBook :=
  ((PaymentsBook.office (.ok sampleAnswer)).process paidRequest (some "token") (some "user")).run
    { peers := state }

end Mailroom.Simulation
