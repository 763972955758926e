import Mailroom.Proofs.Evictions
import Mailroom.Proofs.OfficeWithPayments

/-!
# Rejected tokens are not used again

The credential that a failed call was made with is dropped when the store has rejected it, so
the next operation for its jurisdiction logs in. Where every login hands out a fresh token,
this goes for whole sessions: no call is made as a system user with a token that the store has
already rejected in such a call.

A caseworker's callback is not followed up like this. When the caseworker presents the token of
a system user and the store rejects it, it stays in use, because nothing that a caseworker
presents changes what is kept.
-/

namespace Mailroom

namespace Call

/-- The token that a login has handed out. -/
def handedOut? : Call → Option String
  | .login _ (.ok token) => some token
  | _ => none

/-- The user token of a call that is made as a system user. -/
def systemToken? : Call → Option String
  | .start .caseworker _ _ _ _ | .submit .caseworker _ _ _ _ => none
  | call => call.userToken?

/-- Whether the store has rejected the credentials of a call. -/
def isRejected (call : Call) : Bool :=
  call.failure?.any Failure.rejectsCredentials

/-- The token of a call as a system user is its user token. -/
theorem userToken?_of_systemToken? {call : Call} {token : String}
    (isToken : call.systemToken? = some token) : call.userToken? = some token := by
  unfold systemToken? at isToken
  split at isToken
  · cases isToken
  · cases isToken
  · exact isToken

end Call

/-- The tokens that logins have handed out. -/
abbrev handedOut (journal : List Call) : List String :=
  journal.filterMap Call.handedOut?

/-- Tokens that are fresh in the end were fresh on the way. -/
theorem fresh_of_append {journal said : List Call} (fresh : (handedOut (journal ++ said)).Nodup) :
    (handedOut journal).Nodup := by
  rw [handedOut, List.filterMap_append] at fresh
  exact (List.nodup_append.mp fresh).1

/-- No call as a system user is made with a token that an earlier call was rejected with, where
`token?` says with which tokens the calls count. -/
def Shuns (token? : Call → Option String) (journal : List Call) : Prop :=
  journal.Pairwise fun earlier later =>
    earlier.isRejected = true → ∀ token ∈ token? earlier, token ∉ later.systemToken?

instance (token? : Call → Option String) (journal : List Call) : Decidable (Shuns token? journal) :=
  inferInstanceAs (Decidable (List.Pairwise _ journal))

/-- How the kept credentials and the journal stand to each other. -/
structure Clean (journal : List Call) (cache : CredentialCache) : Prop where
  /-- What is kept has been handed out. -/
  known : ∀ entry ∈ cache, entry.2.token ∈ handedOut journal
  /-- No token is kept for two jurisdictions. -/
  apart : (cache.map fun entry => entry.2.token).Nodup
  /-- What is kept was never rejected. -/
  unspoiled : ∀ entry ∈ cache, ∀ call ∈ journal, call.isRejected = true →
    call.systemToken? ≠ some entry.2.token
  /-- What was used has been handed out. -/
  used : ∀ call ∈ journal, ∀ token, call.systemToken? = some token → token ∈ handedOut journal
  /-- What was rejected was not used again. -/
  shunned : Shuns Call.systemToken? journal

namespace Clean

variable {journal said : List Call} {cache : CredentialCache} {key : String}

/-- At the start of a process nothing is kept and nothing was said. -/
theorem start : Clean [] [] where
  known := by simp
  apart := List.nodup_nil
  unspoiled := by simp
  used := by simp
  shunned := List.Pairwise.nil

/-- What has been handed out stays so. -/
theorem handedOut_append {token : String} (isToken : token ∈ handedOut journal) :
    token ∈ handedOut (journal ++ said) := by
  rw [handedOut, List.filterMap_append]
  exact List.mem_append_left _ isToken

/-- More is said with tokens that were handed out and never rejected, and what is rejected of it
is dropped. -/
theorem grow {after : CredentialCache} (clean : Clean journal cache)
    (fewer : after.Sublist cache)
    (trusted : ∀ call ∈ said, ∀ token, call.systemToken? = some token →
      token ∈ handedOut journal ∧
        ∀ earlier ∈ journal, earlier.isRejected = true → earlier.systemToken? ≠ some token)
    (shunned : Shuns Call.systemToken? said)
    (spared : ∀ entry ∈ after, ∀ call ∈ said, call.isRejected = true →
      call.systemToken? ≠ some entry.2.token) : Clean (journal ++ said) after where
  known entry isKept := handedOut_append (clean.known entry (fewer.subset isKept))
  apart := clean.apart.sublist (fewer.map _)
  unspoiled := by
    intro entry isKept call isCall rejected
    rcases List.mem_append.mp isCall with isEarlier | isSaid
    · exact clean.unspoiled entry (fewer.subset isKept) call isEarlier rejected
    · exact spared entry isKept call isSaid rejected
  used := by
    intro call isCall token isToken
    rcases List.mem_append.mp isCall with isEarlier | isSaid
    · exact handedOut_append (clean.used call isEarlier token isToken)
    · exact handedOut_append (trusted call isSaid token isToken).1
  shunned := by
    refine List.pairwise_append.mpr ⟨clean.shunned, shunned, ?_⟩
    intro earlier isEarlier later isSaid rejected token isRejectedToken isToken
    exact (trusted later isSaid token isToken).2 earlier isEarlier rejected isRejectedToken

/-- Calls that are not made as a system user change nothing. -/
theorem aside (clean : Clean journal cache) (others : ∀ call ∈ said, call.systemToken? = none) :
    Clean (journal ++ said) cache := by
  have none {call : Call} (isSaid : call ∈ said) (token : String) :
      call.systemToken? ≠ some token := by
    rw [others call isSaid]
    exact nofun
  refine clean.grow (List.Sublist.refl cache) ?_ ?_ ?_
  · intro call isSaid token isToken
    exact absurd isToken (none isSaid token)
  · refine List.pairwise_of_forall_mem_list fun earlier _ later isLater _ token _ isToken => ?_
    exact none isLater token isToken
  · intro entry _ call isSaid _
    exact none isSaid _

/-- An operation with a credential that is kept: the one whose token is rejected is no longer kept
afterwards. -/
theorem settle {credential : Credential} {failed : Option Failure} (clean : Clean journal cache)
    (kept : (key, credential) ∈ cache) (spoken : Spoken credential.token said failed) :
    Clean (journal ++ said) (cache.settled key failed) := by
  have sameToken {call : Call} (isSaid : call ∈ said) {token : String}
      (isToken : call.systemToken? = some token) : token = credential.token :=
    spoken.same call isSaid token (Call.userToken?_of_systemToken? isToken)
  refine clean.grow (CredentialCache.settled_sublist failed) ?_ ?_ ?_
  · intro call isSaid token isToken
    rw [sameToken isSaid isToken]
    exact ⟨clean.known _ kept, clean.unspoiled _ kept⟩
  · refine spoken.alone.imp fun lasting rejected => ?_
    rw [Call.isRejected, lasting] at rejected
    cases rejected
  · -- the rejected credential is dropped, and no other credential has its token
    intro entry isKept call isSaid rejected isToken
    cases fails : call.failure? with
    | none =>
      rw [Call.isRejected, fails] at rejected
      cases rejected
    | some failure =>
      rw [Call.isRejected, fails, Option.any_some] at rejected
      rw [spoken.told call isSaid failure fails, CredentialCache.settled, if_pos rejected] at isKept
      obtain ⟨wasKept, other⟩ := List.mem_filter.mp isKept
      have same : entry = (key, credential) :=
        List.inj_on_of_nodup_map clean.apart wasKept kept (sameToken isSaid isToken)
      rw [same] at other
      simp at other

/-- The credential of a login is kept, whose token was handed out and not used so far. -/
theorem keep {credential : Credential} (clean : Clean journal cache)
    (handed : credential.token ∈ handedOut journal)
    (apart : ∀ entry ∈ cache, entry.2.token ≠ credential.token)
    (unused : ∀ call ∈ journal, call.systemToken? ≠ some credential.token) :
    Clean journal (cache ++ [(key, credential)]) where
  known := by
    intro entry isKept
    rcases List.mem_append.mp isKept with wasKept | isNew
    · exact clean.known entry wasKept
    · rw [List.mem_singleton.mp isNew]
      exact handed
  apart := by
    rw [List.map_append]
    refine List.nodup_append.mpr ⟨clean.apart, List.nodup_singleton _, ?_⟩
    intro token isToken other isNew
    obtain ⟨entry, wasKept, rfl⟩ := List.mem_map.mp isToken
    rw [List.mem_singleton.mp isNew]
    exact apart entry wasKept
  unspoiled := by
    intro entry isKept call isCall rejected
    rcases List.mem_append.mp isKept with wasKept | isNew
    · exact clean.unspoiled entry wasKept call isCall rejected
    · rw [List.mem_singleton.mp isNew]
      exact unused call isCall
  used := clean.used
  shunned := clean.shunned

/-- A login with a fresh token, whose credential is kept. -/
theorem logIn {credential : Credential} {login : Login} (clean : Clean journal cache)
    (fresh : (handedOut
      (journal ++ [.login login (.ok credential.token), .aside])).Nodup) :
    Clean (journal ++ [.login login (.ok credential.token), .aside])
      (cache ++ [(key, credential)]) := by
  have tokens : handedOut (journal ++ [.login login (.ok credential.token), .aside]) =
      handedOut journal ++ [credential.token] := by
    rw [handedOut, List.filterMap_append]
    rfl
  have isNew : credential.token ∉ handedOut journal := by
    intro isOld
    rw [tokens] at fresh
    exact (List.nodup_append.mp fresh).2.2 _ isOld _ (List.mem_singleton_self _) rfl
  refine (clean.aside ?_).keep ?_ ?_ ?_
  · simp [Call.systemToken?, Call.userToken?]
  · rw [tokens]
    simp
  · intro entry isKept same
    exact isNew (same ▸ clean.known entry isKept)
  · intro call isCall isToken
    rcases List.mem_append.mp isCall with isEarlier | isSaid
    · exact isNew (clean.used call isEarlier _ isToken)
    · have none : call.systemToken? = none := by
        rcases List.mem_pair.mp isSaid with rfl | rfl
        · rfl
        · rfl
      rw [none] at isToken
      cases isToken

/-- Getting a credential where logins hand out fresh tokens; the credential is kept then. -/
theorem authenticate {result : Option Credential} {after : CredentialCache}
    (clean : Clean journal cache) (authenticates : Office.Authenticates key cache result said after)
    (fresh : (handedOut (journal ++ said)).Nodup) :
    Clean (journal ++ said) after ∧ ∀ credential ∈ result, (key, credential) ∈ after := by
  cases authenticates with
  | @kept credential found =>
    rw [List.append_nil]
    refine ⟨clean, ?_⟩
    rintro _ ⟨⟩
    obtain ⟨before, after, parts, -⟩ := List.lookup_eq_some_iff.mp found
    rw [parts]
    simp
  | failed aside =>
    refine ⟨clean.aside fun call isSaid => ?_, nofun⟩
    have none := aside call isSaid
    cases isToken : call.systemToken? with
    | none => rfl
    | some token =>
      rw [Call.userToken?_of_systemToken? isToken] at none
      cases none
  | loggedIn login absent =>
    refine ⟨clean.logIn fresh, ?_⟩
    rintro _ ⟨⟩
    simp

/-- Work that gets a credential and is an operation with it, where logins hand out fresh tokens. -/
theorem course {seen after : CredentialCache} (clean : Clean journal cache)
    (course : Office.SystemCourse key cache seen said after)
    (fresh : (handedOut (journal ++ said)).Nodup) :
    Clean (journal ++ said) after := by
  cases course with
  | unauthenticated authenticates => exact (clean.authenticate authenticates fresh).1
  | operates authenticates spoken =>
    rw [← List.append_assoc] at fresh ⊢
    obtain ⟨authenticated, kept⟩ := clean.authenticate authenticates (fresh_of_append fresh)
    exact authenticated.settle (kept _ rfl) spoken

end Clean

namespace Flow

variable {σ α : Type}

/-- Work that keeps an invariant of the collaborators and the kept credentials. -/
def Maintains (invariant : σ → CredentialCache → Prop) (work : Flow σ α) : Prop :=
  ∀ run, invariant run.peers run.credentials →
    invariant (work.run run).2.peers (work.run run).2.credentials

variable {invariant : σ → CredentialCache → Prop}

/-- Inert work maintains everything. -/
theorem Inert.maintains {work : Flow σ α} (inert : Inert work) : Maintains invariant work := by
  intro run holds
  obtain ⟨samePeers, sameCredentials⟩ := inert run
  rw [samePeers, sameCredentials]
  exact holds

/-- An invariant that the pieces of work maintain is maintained by composed work. -/
theorem maintains_compositional (invariant : σ → CredentialCache → Prop) :
    Compositional (σ := σ) (Maintains invariant) where
  pure value := (Inert.pure value).maintains
  fail failure := (Inert.fail failure).maintains
  bind {_ _ work next} first second := by
    intro run holds
    have begun := first run holds
    rw [bind_run]
    revert begun
    rcases work.run run with ⟨result, after⟩
    cases result with
    | ok value => exact second value after
    | error failure => exact id
  attempt law := law
  log level message := (Inert.log level message).maintains
  count metric _ holds := holds
  correlated correlation law run holds := law { run with correlation } holds

end Flow

namespace Office

open Mailroom.Flow

variable {σ α : Type} {office : Office σ} {party : Party}

/-- Work after which the journal is clean if it was before, as far as logins hand out fresh
tokens. -/
abbrev KeepsClean (work : Flow (σ × List Call) α) : Prop :=
  work.Maintains fun state cache => (handedOut state.2).Nodup → Clean state.2 cache

/-- A question that is no call as a system user keeps the journal clean. -/
theorem ask_clean (call : Except Failure α → Call) (question : Ask σ α)
    (others : ∀ answer, (call answer).systemToken? = none) :
    KeepsClean (Flow.ask (Call.written call question)) := by
  intro run clean fresh
  obtain ⟨answer, peers, log, asked⟩ := written_run call question run
  rw [asked] at fresh ⊢
  refine (clean (fresh_of_append fresh)).aside fun other isSaid => ?_
  rw [List.mem_singleton.mp isSaid]
  exact others answer

/-- Work that gets a credential and is an operation with it keeps the journal clean. -/
theorem serves_clean {jurisdiction : Option String} {work : Flow (σ × List Call) α}
    (serves : (office.journaled party).Serves jurisdiction work) : KeepsClean work := by
  cases jurisdiction with
  | none =>
    obtain ⟨next, rfl, -⟩ := serves
    exact fun run clean => clean
  | some named =>
    intro run clean fresh
    obtain ⟨said, journal, course⟩ := serves_course serves run
    rw [journal] at fresh ⊢
    exact (clean (fresh_of_append fresh)).course course fresh

/-- A caseworker's write keeps the journal clean. -/
theorem caseworker_write_clean (caller : CaseStore.Caller) (target : CaseStore.Target)
    (event : String) (draft : Draft) (context : String) :
    KeepsClean ((office.journaled .caseworker).write caller target event draft context) := by
  have compositional : Compositional (σ := σ × List Call) KeepsClean :=
    maintains_compositional _
  refine compositional.bind (ask_clean (.start .caseworker caller target event)
    (office.peers.cases.start caller target event) fun _ => rfl) fun started => ?_
  refine compositional.after_log (compositional.bind (compositional.lift _) fun submission => ?_)
  exact ask_clean (.submit .caseworker caller target submission)
    (office.peers.cases.submit caller target submission) fun _ => rfl

/-- Every part of a delivery and of a callback keeps the journal clean. -/
theorem parts_clean (office : Office σ) (party : Party) :
    (office.journaled party).Parts KeepsClean where
  toCompositional := maintains_compositional _
  search service types field value := serves_clean (searchIds_serves service types field value)
  lease := ask_clean (fun _ => .aside) office.peers.lease fun _ => rfl
  transform url request token :=
    ask_clean (fun _ => .aside) (office.peers.transform url request token) fun _ => rfl
  pay command := ask_clean (fun _ => .aside) (office.peers.pay command) fun _ => rfl

/-- Filing a record keeps the journal clean. -/
theorem fileNewRecord_clean (envelope : Envelope) :
    KeepsClean ((office.journaled party).fileNewRecord envelope) := by
  refine (maintains_compositional _).after_log (serves_clean (serves_of_settles ?_))
  intro credential
  refine (writeAs_settles credential _ _ _ _ _ _).bind fun created => ?_
  exact Inert.bind (Inert.log _ _) fun _ => Inert.pure _

/-- Attaching evidence keeps the journal clean. -/
theorem attachTo_clean (envelope : Envelope) (case : Case) :
    KeepsClean ((office.journaled party).attachTo envelope case) :=
  serves_clean (serves_of_settles fun credential =>
    attachDocuments_settles credential _ _ _ _ _ _)

/-- A delivery keeps the journal clean. -/
theorem deliver_clean (office : Office σ) (message : Json) :
    KeepsClean ((office.journaled .systemUser).deliver message) := by
  have parts : (office.journaled .systemUser).DeliveryParts KeepsClean := {
    toParts := office.parts_clean .systemUser
    fetch := fun reference jurisdiction => serves_clean (fetchCase_serves reference jurisdiction)
    create := fun jurisdiction caseType event envelopeId data context =>
      serves_clean (createCase_serves jurisdiction caseType event _ context)
    file := fileNewRecord_clean
    attach := attachTo_clean }
  exact parts.deliver message

/-- A callback keeps the journal clean. -/
theorem process_clean (office : Office σ) (request : Callback.Request)
    (userToken userId : Option String) :
    KeepsClean ((office.journaled .caseworker).process request userToken userId) := by
  have parts : (office.journaled .caseworker).CallbackParts KeepsClean := {
    toParts := office.parts_clean .caseworker
    openCase := fun caller userId jurisdiction caseType event record service data context =>
      (maintains_compositional _).bind (caseworker_write_clean caller _ event _ context) fun _ =>
        (maintains_compositional _).pure _ }
  exact parts.process request userToken userId

/-- The journal of a session is clean where logins hand out fresh tokens. -/
theorem session_clean (office : Office σ) (peers : σ) (jobs : List Job)
    (fresh : (handedOut (office.journal peers jobs)).Nodup) :
    Clean (office.journal peers jobs) (office.session peers jobs).credentials := by
  refine office.session_induct (fun run => (handedOut run.peers.2).Nodup →
    Clean run.peers.2 run.credentials) (fun _ => Clean.start) ?_ ?_ jobs fresh
  · exact fun message run clean => office.deliver_clean message run clean
  · exact fun request userToken userId run clean =>
      office.process_clean request userToken userId run clean

/-- What becomes of rejected credentials, operation by operation and in whole sessions. -/
structure DropsRejected (office : Office σ) : Prop where
  fetch : ∀ reference jurisdiction, Evicts (some jurisdiction)
    ((office.journaled .systemUser).credential (some jurisdiction))
    ((office.journaled .systemUser).fetchCase reference jurisdiction)
  byLegacyId : ∀ legacyId name, Evicts (office.jurisdictionOf (some name))
    ((office.journaled .systemUser).credential (office.jurisdictionOf (some name)))
    ((office.journaled .systemUser).casesByLegacyId legacyId name)
  byEnvelope : ∀ envelopeId name, Evicts (office.jurisdictionOf (some name))
    ((office.journaled .systemUser).credential (office.jurisdictionOf (some name)))
    ((office.journaled .systemUser).casesByEnvelope envelopeId name)
  recordsByEnvelope : ∀ envelopeId name, Evicts (office.jurisdictionOf (some name))
    ((office.journaled .systemUser).credential (office.jurisdictionOf (some name)))
    ((office.journaled .systemUser).recordsByEnvelope envelopeId name)
  byRecord : ∀ recordId name, Evicts (office.jurisdictionOf name)
    ((office.journaled .systemUser).credential (office.jurisdictionOf name))
    ((office.journaled .systemUser).casesByRecord recordId name)
  create : ∀ jurisdiction caseType event draft context, Evicts (some jurisdiction)
    ((office.journaled .systemUser).credential (some jurisdiction))
    ((office.journaled .systemUser).createCase jurisdiction caseType event draft context)
  /-- The credential of a record and of evidence is at hand when the operation begins. -/
  createRecord : ∀ credential jurisdiction caseType event draft context,
    Evicts (some jurisdiction) (pure credential)
      ((office.journaled .systemUser).createRecord credential jurisdiction caseType event draft
        context)
  attach : ∀ credential jurisdiction caseType caseRef event draft context,
    Evicts (some jurisdiction) (pure credential)
      ((office.journaled .systemUser).attachDocuments credential jurisdiction caseType caseRef event
        draft context)
  /-- What a caseworker presents is not kept, and a rejection of it drops nothing. -/
  caseworker : ∀ caller userId jurisdiction caseType event draft context run,
    (((office.journaled .caseworker).createForCaseworker caller userId jurisdiction caseType event
      draft context).run run).2.credentials = run.credentials
  /-- Where every login hands out a fresh token, a token that was rejected in a call as a system
  user is not used in another one. -/
  sessions : ∀ peers jobs, (handedOut (office.journal peers jobs)).Nodup →
    Shuns Call.systemToken? (office.journal peers jobs)

/-- Whichever call of an operation fails, the credential that the store has rejected is dropped,
no other is, and none that was rejected is used again. -/
theorem rejected_credentials_are_dropped (office : Office σ) : office.DropsRejected where
  fetch reference jurisdiction := evicts_of_serves (fetchCase_serves reference jurisdiction)
  byLegacyId legacyId name := searchServiceCases_evicts name _ _ _
  byEnvelope envelopeId name := searchServiceCases_evicts name _ _ _
  recordsByEnvelope envelopeId name := evicts_of_service fun service =>
    evicts_of_serves (searchIds_serves service _ _ _)
  byRecord recordId name := evicts_of_service fun service =>
    evicts_of_serves (searchIds_serves service _ _ _)
  create jurisdiction caseType event draft context :=
    evicts_of_serves (createCase_serves jurisdiction caseType event draft context)
  createRecord credential jurisdiction caseType event draft context :=
    evicts_of_settles (writeAs_settles credential jurisdiction _ none event draft context)
      credential
  attach credential jurisdiction caseType caseRef event draft context :=
    evicts_of_settles (attachDocuments_settles credential jurisdiction caseType caseRef event draft
      context) credential
  caseworker caller userId jurisdiction caseType event draft context run := by
    have speaks : Speaks caller.userToken ((office.journaled .caseworker).createForCaseworker caller
        userId jurisdiction caseType event draft context) :=
      (write_speaks caller _ event draft context).bind fun _ => (Inert.pure _).speaks
    obtain ⟨said, journal, credentials, spoken⟩ := speaks run
    exact credentials
  sessions peers jobs fresh := (office.session_clean peers jobs fresh).shunned

end Office

namespace Simulation

/-- A delivery whose first search is rejected. -/
def rejectedDelivery : List Call :=
  numberedOffice.journal { book := { failures := [(.search, .status (some 401))] } }
    [.delivery (sampleMessage "first" "EXCEPTION")]

/-- Its second attempt logs in anew and does without the rejected token. -/
theorem rejected_delivery_logs_in_again :
    (handedOut rejectedDelivery).Nodup ∧ Shuns Call.systemToken? rejectedDelivery ∧
      rejectedDelivery.filterMap Call.systemToken? =
        ["Bearer user-token-1", "Bearer user-token-2", "Bearer user-token-2",
          "Bearer user-token-2"] := by
  have fresh : (handedOut rejectedDelivery).Nodup := by decide +kernel
  refine ⟨fresh, ?_, by decide +kernel⟩
  exact (Office.rejected_credentials_are_dropped numberedOffice).sessions _ _ fresh

/-- A world that holds a record of an envelope, and whose store will reject the credentials of the
first creation. -/
def rejectingWorld : World where
  book := {
    cases := [(1, {
      id := some 1
      caseType := .str (Service.recordCaseType "bulkscan")
      data := [(CaseField.envelopeId, .str "first")] })]
    failures := [(.startCreate, .status (some 403))] }

/-- An envelope whose record is found, a caseworker who presents the token that was used for this,
and the envelope again. -/
def misuse : List Job := [
  .delivery (sampleMessage "first" "EXCEPTION"),
  .callback paidRequest (some "Bearer user-token-1") (some "user"),
  .delivery (sampleMessage "first" "EXCEPTION")]

/-- A token that the store has rejected when a caseworker presented it goes on being used. -/
theorem misused_token_is_used_again :
    (handedOut (numberedOffice.journal rejectingWorld misuse)).Nodup ∧
      ¬Shuns Call.userToken? (numberedOffice.journal rejectingWorld misuse) := by
  decide +kernel

end Simulation
end Mailroom
