import Mailroom.Http.Peers

/-!
# Failures of a collaborator's own

Each collaborator fails in ways of its own: identity and leases with a failed authentication, the
case store, the transformation service and the payments service with failures of theirs. What
none of them foresees is a fault. Collaborators over the network keep to this, whatever comes
over it.
-/

namespace Mailroom

/-- A failure of a collaborator's own, or a fault. -/
def Failure.IsOf {Reason : Type} (failure : Failure) (own : Reason → Failure) : Prop :=
  (∃ reason, failure = own reason) ∨ ∃ fault, failure = .faulty fault

/-- Collaborators that fail in ways of their own, or with a fault. -/
structure Peers.Documented {σ : Type} (peers : Peers σ) : Prop where
  search : ∀ caller types query state failure,
    (peers.cases.search caller types query state).1.result = .error failure → failure.IsOf .store
  fetch : ∀ caller reference state failure,
    (peers.cases.fetch caller reference state).1.result = .error failure → failure.IsOf .store
  start : ∀ caller target event state failure,
    (peers.cases.start caller target event state).1.result = .error failure → failure.IsOf .store
  submit : ∀ caller target submission state failure,
    (peers.cases.submit caller target submission state).1.result = .error failure →
      failure.IsOf .store
  login : ∀ login state failure,
    (peers.login login state).1.result = .error failure → failure.IsOf .authentication
  details : ∀ token state failure,
    (peers.userDetails token state).1.result = .error failure → failure.IsOf .authentication
  lease : ∀ state failure, (peers.lease state).1.result = .error failure → failure.IsOf .authentication
  transform : ∀ url request token state failure,
    (peers.transform url request token state).1.result = .error failure →
      failure.IsOf .transformation
  pay : ∀ command state failure,
    (peers.pay command state).1.result = .error failure → failure.IsOf .payments

namespace Simulation

/-- What is tested of a value that a piece of work may end with holds of the one it
ends with. -/
theorem ok_of_any {ε α : Type} {outcome : Except ε α} {property : α → Bool}
    (holds : outcome.toOption.any property = true) :
    ∃ value, outcome = .ok value ∧ property value = true := by
  cases outcome with
  | ok value => exact ⟨value, rfl, holds⟩
  | error failure => cases holds

/-- How work has failed, if it has. -/
def failureOf? {α : Type} : Except Failure α → Option Failure
  | .ok _ => none
  | .error failure => some failure

/-- What is tested of a failure that work may end with holds of the one it ends with. -/
theorem error_of_any {α : Type} {outcome : Except Failure α} {property : Failure → Bool}
    (holds : (failureOf? outcome).any property = true) :
    ∃ failure, outcome = .error failure ∧ property failure = true := by
  cases outcome with
  | ok value => cases holds
  | error failure => exact ⟨failure, rfl, holds⟩

end Simulation

namespace Http

variable {σ α : Type}

/-- What of a result that fails is known of its failure. -/
def FailsBy (kind : Failure → Prop) (result : Except Failure α) : Prop :=
  ∀ failure, result = .error failure → kind failure

/-- A value fails in no way. -/
theorem FailsBy.ok {kind : Failure → Prop} (value : α) : FailsBy kind (.ok value) :=
  fun _ => nofun

/-- A failure of the kind. -/
theorem FailsBy.error {kind : Failure → Prop} {failure : Failure} (ofKind : kind failure) :
    FailsBy kind (.error failure : Except Failure α) :=
  fun _ same => Except.error.inj same ▸ ofKind

/-- A failure of a collaborator's own. -/
theorem FailsBy.own {Reason : Type} {own : Reason → Failure} {reason : Reason} :
    FailsBy (·.IsOf own) (.error (own reason) : Except Failure α) :=
  .error (.inl ⟨reason, rfl⟩)

/-- A fault of a collaborator. -/
theorem FailsBy.fault {Reason : Type} {own : Reason → Failure} {fault : Fault} :
    FailsBy (·.IsOf own) (.error (.faulty fault) : Except Failure α) :=
  .error (.inr ⟨fault, rfl⟩)

/-- One result after another fails as they do. -/
theorem FailsBy.bind {β : Type} {kind : Failure → Prop} {first : Except Failure α}
    {next : α → Except Failure β} (firstFails : FailsBy kind first)
    (nextFails : ∀ value, FailsBy kind (next value)) : FailsBy kind (first >>= next) := by
  cases first with
  | ok value => exact nextFails value
  | error failure => exact .error (firstFails failure rfl)

/-- The body of an answer that cannot be read is a fault. -/
theorem FailsBy.json {Reason : Type} {own : Reason → Failure} (response : Response) :
    FailsBy (·.IsOf own) (response.json?.mapError Failure.faulty) := by
  cases response.json? with
  | ok body => exact .ok body
  | error fault => exact .fault

section Exchange

variable {kind : Failure → Prop} {transport : Transport σ} {draft : Draft} {peer : σ}

/-- What is asked of a peer fails as the reply does to whatever comes of it. -/
theorem FailsBy.exchange {reply : Except SendFailure Response → Reply α}
    (replies : ∀ came, FailsBy kind (reply came).result) :
    FailsBy kind (exchange transport draft reply peer).1.result :=
  replies _

/-- A reply that is read from an answer fails as the reading does, and as it is refused. -/
theorem FailsBy.answered {read : Response → Except Failure α} {refused : SendFailure → Failure}
    (reads : ∀ response, FailsBy kind (read response))
    (refuses : ∀ failure, kind (refused failure)) :
    FailsBy kind (Http.exchange transport draft (answered read refused) peer).1.result := by
  refine .exchange fun came => ?_
  cases came with
  | ok response => exact reads response
  | error failure => exact .error (refuses failure)

end Exchange

namespace CaseStore

/-- A call to the case store fails in ways of the store. -/
theorem perform_fails (transport : Transport σ) (base : String) (caller : CaseStore.Caller)
    (call : Call) (read : Json → Except Fault α) (peer : σ) :
    FailsBy (·.IsOf .store) (perform transport base caller call read peer).1.result := by
  unfold perform
  refine .answered (fun response => .bind ?_ fun body => ?_) fun failure => ?_
  · unfold objectOf
    split
    · exact .fault
    · exact .own
    · exact .ok _
    · exact .own
  · unfold readAnswer
    split
    · exact .ok _
    · split
      · exact .own
      · exact .fault
  · cases failure with
    | faulty fault => exact .inr ⟨fault, rfl⟩
    | _ => exact .inl ⟨_, rfl⟩

end CaseStore

namespace IdentityService

/-- What a failed request means to the identity service is a failure of its own, or a fault. -/
theorem sendFailure_isOf (rejected : Nat → AuthenticationFailure)
    (failed : String → AuthenticationFailure) (failure : SendFailure) :
    (sendFailure rejected failed failure).IsOf .authentication := by
  cases failure with
  | faulty fault =>
    unfold sendFailure
    dsimp only
    split
    · exact .inl ⟨_, rfl⟩
    · exact .inr ⟨fault, rfl⟩
  | _ => exact .inl ⟨_, rfl⟩

/-- What is asked of the identity service fails in ways of its own when the reading does. -/
theorem ask_fails (transport : Transport σ) (draft : Draft) {read : Option Json → Except Failure α}
    (reads : ∀ body, FailsBy (·.IsOf .authentication) (read body))
    (rejected : Nat → AuthenticationFailure) (failed : String → AuthenticationFailure) (peer : σ) :
    FailsBy (·.IsOf .authentication) (ask transport draft read rejected failed peer).1.result := by
  unfold ask
  exact .answered (fun response => .bind (.json response) reads) (sendFailure_isOf rejected failed)

/-- The token in an answer is found, or missed in ways of the identity service. -/
theorem tokenOf_fails (login : Login) (body : Option Json) :
    FailsBy (·.IsOf .authentication) (tokenOf login body) := by
  unfold tokenOf
  split
  · exact .own
  · split
    · exact .ok _
    · exact .own
  · exact .fault

/-- So are the details. -/
theorem detailsOf_fails (body : Option Json) :
    FailsBy (·.IsOf .authentication) (detailsOf body) := by
  unfold detailsOf
  split
  · exact .own
  · dsimp only
    split
    · exact .own
    · exact .ok _
  · exact .fault

end IdentityService

/-- And a lease. -/
theorem lease_fails (transport : Transport σ) (url name : String) (peer : σ) :
    FailsBy (·.IsOf .authentication) (lease transport url name peer).1.result := by
  unfold lease
  refine .answered (fun _ => .ok _) fun failure => ?_
  cases failure with
  | faulty fault => exact .inr ⟨fault, rfl⟩
  | _ => exact .inl ⟨_, rfl⟩

/-- A transformation fails in ways of the transformation service, and is rejected only with the
status of a rejection. -/
theorem transform_failsBy {kind : Failure → Prop} (faulty : ∀ fault, kind (.faulty fault))
    (own : ∀ failure, (∀ status objections body, failure = .rejected status objections body →
      isRejection status = true) → kind (.transformation failure))
    (transport : Transport σ) (url : Option String) (request : Transformation.Request)
    (token : String) (peer : σ) :
    FailsBy kind (transform transport url request token peer).1.result := by
  unfold transform
  split
  · exact .error (faulty _)
  · exact .error (faulty _)
  refine .exchange fun came => ?_
  cases came with
  | ok response =>
    refine .bind ?_ fun body => ?_
    · cases response.json? with
      | ok body => exact .ok body
      | error fault => exact .error (faulty fault)
    · split
      · exact .error (own _ nofun)
      · split
        · exact .ok _
        · exact .error (own _ nofun)
  | error failure =>
    cases failure with
    | faulty fault => exact .error (faulty fault)
    | transport reason => exact .error (own _ nofun)
    | status response =>
      dsimp only [transformationReply, transformationFailure]
      split
      case isTrue isRejected =>
        have rejects (objections : Transformation.Objections) :
            kind (.transformation (.rejected response.status objections response.text)) := by
          refine own _ fun status _ _ same => ?_
          cases same
          exact isRejected
        unfold rejection
        dsimp only
        split
        · exact .error (rejects _)
        · exact .error (rejects _)
      case isFalse => exact .error (own _ nofun)

/-- A transformation fails in ways of the transformation service. -/
theorem transform_fails (transport : Transport σ) (url : Option String)
    (request : Transformation.Request) (token : String) (peer : σ) :
    FailsBy (·.IsOf .transformation) (transform transport url request token peer).1.result :=
  transform_failsBy (fun fault => .inr ⟨fault, rfl⟩) (fun failure _ => .inl ⟨failure, rfl⟩)
    transport url request token peer

/-- A command about payments fails in ways of the payments service. -/
theorem pay_fails (transport : Transport σ) (url : String) (command : Payments.Command) (peer : σ) :
    FailsBy (·.IsOf .payments) (pay transport url command peer).1.result := by
  unfold pay
  refine .exchange fun came => ?_
  cases came with
  | ok response => exact .ok _
  | error failure =>
    cases failure with
    | faulty fault => exact .fault
    | _ => exact .own

/-- Collaborators over the network fail in ways of their own. -/
theorem peers_documented (transport : Transport σ) (settings : Settings) :
    (peers transport settings).Documented := by
  constructor
  all_goals
    dsimp only [peers, CaseStore.questions, IdentityService.logIn, IdentityService.userDetails]
  case search => exact fun _ _ _ => CaseStore.perform_fails _ _ _ _ _
  case fetch => exact fun _ _ => CaseStore.perform_fails _ _ _ _ _
  case start => exact fun _ _ _ => CaseStore.perform_fails _ _ _ _ _
  case submit => exact fun _ _ _ => CaseStore.perform_fails _ _ _ _ _
  case login =>
    exact fun user => IdentityService.ask_fails _ _ (IdentityService.tokenOf_fails user) _ _
  case details => exact fun _ => IdentityService.ask_fails _ _ IdentityService.detailsOf_fails _ _
  case lease => exact lease_fails _ _ _
  case transform => exact fun _ _ _ => transform_fails _ _ _ _
  case pay => exact fun _ => pay_fails _ _ _

/-- A collaborator that answers everything alike. -/
def answering (response : Response) : Transport Unit :=
  fun _ peer => (.ok response, peer)

/-- An answer of success with a text. -/
def success (text : String) : Response where
  status := 200
  octets := text.toUTF8.toList

end Http
end Mailroom
