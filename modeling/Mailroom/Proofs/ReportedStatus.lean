import Mailroom.Proofs.StrayFailures

/-!
# The status that a failure of the case store has

A failed call to the case store tells the status that the store answered with, so that its callers
can tell a missing case from a rejected credential and from a store that is not there. The status
is told wherever the answer is refused, is no JSON text or is no object. It is lost where an object
came that cannot be read as what was asked for: such a failure has no status, as if nothing had been
answered.
-/

namespace Mailroom.Http

variable {σ α : Type} {transport : Transport σ} {peer : σ}

/-- The status of what came back, none if nothing did. -/
def statusOf : Except String Response → Option Nat
  | .ok response => some response.status
  | .error _ => none

/-- An object came back, with a status of success. -/
def BringsObject (came : Except String Response) : Prop :=
  ∃ response members, came = .ok response ∧ response.isSuccess = true ∧
    response.json? = .ok (some (.obj members))

namespace CaseStore

/-- What a failure makes of the status of what came back. -/
def TellsStatus (failure : CaseStore.Failure) (came : Except String Response) : Prop :=
  ¬ BringsObject came ∧ failure.status? = statusOf came ∨
    BringsObject came ∧ failure.status? = none

/-- An answer of success that is read in vain tells its status unless it is an object. -/
theorem tellsStatus_read {call : Call} {read : Json → Except Fault α} {response : Response}
    {failure : CaseStore.Failure} (success : response.isSuccess = true)
    (failed : (objectOf call response >>= fun body => readAnswer (read body)) =
      .error (.store failure)) : TellsStatus failure (.ok response) := by
  have noObject {body : Option Json} (isRead : response.json? = .ok body)
      (other : ∀ members, body ≠ some (.obj members)) : ¬ BringsObject (.ok response) := by
    rintro ⟨_, members, same, -, isObject⟩
    cases same
    rw [isRead] at isObject
    exact other members (Except.ok.inj isObject)
  unfold objectOf at failed
  split at failed
  case h_1 => cases failed
  case h_2 isRead =>
    cases failed
    exact .inl ⟨noObject isRead nofun, rfl⟩
  case h_3 members isRead =>
    -- An object was read, so it is the reader that fails.
    change readAnswer (read (.obj members)) = _ at failed
    refine .inr ⟨⟨response, members, rfl, success, isRead⟩, ?_⟩
    unfold readAnswer at failed
    split at failed
    · cases failed
    · split at failed
      · cases failed
        rfl
      · cases failed
  case h_4 body other isRead =>
    cases failed
    refine .inl ⟨noObject isRead ?_, rfl⟩
    rintro members same
    exact other members (Option.some.inj same)

/-- A call that ends with a failure of the store was written down and sent, and the failure tells
the status of what came back unless that is an object. -/
theorem tellsStatus_perform {base : String} {caller : CaseStore.Caller} {call : Call}
    {read : Json → Except Fault α} {failure : CaseStore.Failure}
    (failed : (perform transport base caller call read peer).1.result = .error (.store failure)) :
    ∃ wire isAbsolute, (call.draft base caller).prepare = .ok (wire, isAbsolute) ∧
      TellsStatus failure (transport wire peer).1 := by
  rw [perform, exchange_eq, send] at failed
  cases prepared : (call.draft base caller).prepare with
  | error fault =>
    rw [prepared] at failed
    cases failed
  | ok sent =>
    obtain ⟨wire, isAbsolute⟩ := sent
    refine ⟨wire, isAbsolute, rfl, ?_⟩
    rw [prepared] at failed
    dsimp only at failed
    cases came : transport wire peer with
    | mk answer after =>
      rw [came] at failed
      cases answer with
      | error reason =>
        cases failed
        exact .inl ⟨nofun, rfl⟩
      | ok response =>
        cases isAbsolute with
        | false => cases failed
        | true =>
          cases success : response.isSuccess with
          | true =>
            simp only [success] at failed
            exact tellsStatus_read success failed
          | false =>
            simp only [success] at failed
            cases failed
            refine .inl ⟨?_, rfl⟩
            rintro ⟨_, members, same, succeeded, -⟩
            cases same
            exact Bool.false_ne_true (success.symm.trans succeeded)

end CaseStore

/-- Whatever is asked over the network and whatever comes back, a failure of the case store has the
status that the store answered with, and none if it did not answer, exactly when no object came back
with a status of success. Where one did, which cannot be read as what was asked for, the failure has
no status.

Proof: only the questions to the case store end with a failure of it, and each of them is one call.
A call fails because nothing came, because of the status, or in reading the body; only the last of
the three ways to fail in reading drops the status. -/
theorem failure_has_status_unless_object_came (transport : Transport σ) (settings : Settings)
    (question : Question) (peer : σ) {failure : CaseStore.Failure}
    (failed : question.FailsWith (peers transport settings) peer (.store failure)) :
    ∃ wire isAbsolute, (question.draft settings).prepare = .ok (wire, isAbsolute) ∧
      let came := (transport wire peer).1
      (failure.status? = statusOf came ↔ ¬ BringsObject came) ∧
        (BringsObject came → failure.status? = none) := by
  have noOther {Reason : Type} {own : Reason → Failure}
      (isOf : (Failure.store failure).IsOf own) (other : ∀ reason, own reason ≠ .store failure) :
      False := by
    rcases isOf with ⟨reason, same⟩ | ⟨fault, same⟩
    · exact other reason same.symm
    · cases same
  have documented := peers_documented transport settings
  have tells : ∃ wire isAbsolute, (question.draft settings).prepare = .ok (wire, isAbsolute) ∧
      CaseStore.TellsStatus failure (transport wire peer).1 := by
    cases question
    all_goals
      dsimp only [Question.FailsWith] at failed
      dsimp only [Question.draft]
    case search | fetch | start | submit =>
      dsimp only [peers, CaseStore.questions] at failed
      exact CaseStore.tellsStatus_perform failed
    case login user => exact (noOther (documented.login _ _ _ failed) nofun).elim
    case details token => exact (noOther (documented.details _ _ _ failed) nofun).elim
    case lease => exact (noOther (documented.lease _ _ failed) nofun).elim
    case transform url request token =>
      exact (noOther (documented.transform _ _ _ _ _ failed) nofun).elim
    case pay command => exact (noOther (documented.pay _ _ _ failed) nofun).elim
  obtain ⟨wire, isAbsolute, prepared, told⟩ := tells
  refine ⟨wire, isAbsolute, prepared, ?_⟩
  rcases told with ⟨noObject, same⟩ | ⟨isObject, lost⟩
  · exact ⟨iff_of_true same noObject, fun isObject => absurd isObject noObject⟩
  · refine ⟨iff_of_false (fun same => ?_) (not_not_intro isObject), fun _ => lost⟩
    obtain ⟨response, _, isAnswer, -⟩ := isObject
    rw [lost, isAnswer] at same
    cases same

/-- Whether a failure is one of the case store with this status. -/
def isStoreFailure (status : Option Nat) : Failure → Bool
  | .store failure => failure.status? == status
  | _ => false

/-- A result that is tested to be a failure of the case store with a status is one. -/
theorem storeFailure_of_any {result : Except Failure α} {status : Option Nat}
    (shown : (Simulation.failureOf? result).any (isStoreFailure status) = true) :
    ∃ failure, result = .error (.store failure) ∧ failure.status? = status := by
  obtain ⟨failure, failed, isStore⟩ := Simulation.error_of_any shown
  cases failure with
  | store failure => exact ⟨failure, failed, beq_iff_eq.mp isStore⟩
  | _ => cases isStore

/-- The question for a case. -/
def plainFetch : Question := .fetch ⟨"token", "token"⟩ "1"

/-- A page in place of a case is reported with its status. -/
theorem page_is_reported_with_status :
    ∃ failure, plainFetch.FailsWith (peers (answering (success "<html>")) localSettings) ()
      (.store failure) ∧ failure.status? = statusOf (.ok (success "<html>")) := by
  have shown : (Simulation.failureOf? ((peers (answering (success "<html>"))
      localSettings).cases.fetch ⟨"token", "token"⟩ "1" ()).1.result).any
        (isStoreFailure (some 200)) = true := by
    decide +kernel
  obtain ⟨failure, failed, -⟩ := storeFailure_of_any shown
  obtain ⟨_, _, -, told, -⟩ := failure_has_status_unless_object_came (answering (success "<html>"))
    localSettings plainFetch () failed
  have noJson : (success "<html>").json?.toOption.any (·.isNone) = true := by decide +kernel
  refine ⟨failure, failed, told.mpr ?_⟩
  rintro ⟨_, members, same, -, isObject⟩
  cases same
  rw [isObject] at noJson
  cases noJson

/-- A case without a number for its identity, and a started event without a token, are reported
without the status that they came with. -/
theorem unread_object_has_no_status :
    let asked (text : String) := peers (answering (success text)) localSettings
    (∃ failure, ((asked "\x7b\"id\": \"x\"\x7d").cases.fetch ⟨"token", "token"⟩ "1" ()).1.result =
        .error (.store failure) ∧
          failure.status? ≠ statusOf (.ok (success "\x7b\"id\": \"x\"\x7d"))) ∧
      ∃ failure, ((asked "\x7b\x7d").cases.start ⟨"token", "token"⟩
        ⟨.str "user", some "BULKSCAN", .str "Bulk_Scanned", none⟩ "createCase" ()).1.result =
          .error (.store failure) ∧ failure.status? ≠ statusOf (.ok (success "\x7b\x7d")) := by
  intro asked
  have lost {α : Type} {result : Except Failure α} (text : String)
      (shown : (Simulation.failureOf? result).any (isStoreFailure none) = true) :
      ∃ failure, result = .error (.store failure) ∧
        failure.status? ≠ statusOf (.ok (success text)) := by
    obtain ⟨failure, failed, noStatus⟩ := storeFailure_of_any shown
    refine ⟨failure, failed, ?_⟩
    rw [noStatus]
    exact nofun
  refine ⟨lost _ ?_, lost _ ?_⟩
  all_goals decide +kernel

end Mailroom.Http
