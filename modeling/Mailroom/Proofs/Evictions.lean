import Mailroom.Proofs.Journal
import Mailroom.Proofs.KeptCredentials

/-!
# Dropping rejected credentials

An operation that is carried out as a system user calls the case store with one user token,
that of its credential, and ends as soon as a call fails. The failure decides what is kept
afterwards: the credential of its jurisdiction is dropped when the store has rejected it, and
left alone otherwise. The credentials of the other jurisdictions are never touched.
-/

namespace Mailroom

/-- Whether the case store has rejected the credentials of a call, answering 401 or 403. -/
def Failure.rejectsCredentials : Failure → Bool
  | .store failure => failure.status? == some 401 || failure.status? == some 403
  | _ => false

/-- The failure that a piece of work has ended with. -/
def failureOf {α : Type} : Except Failure α → Option Failure
  | .ok _ => none
  | .error failure => some failure

namespace Call

/-- The user token of a call to the case store. -/
def userToken? : Call → Option String
  | .search caller _ | .fetch caller _ | .start _ caller _ _ _ | .submit _ caller _ _ _ =>
    some caller.userToken
  | .login .. | .aside => none

/-- How a call to the case store has failed. -/
def failure? : Call → Option Failure
  | .search _ answer => failureOf answer
  | .fetch _ answer => failureOf answer
  | .start _ _ _ _ answer => failureOf answer
  | .submit _ _ _ _ answer => failureOf answer
  | .login .. | .aside => none

/-- Only calls to the case store fail in this sense. -/
theorem failure?_of_no_userToken {call : Call} (aside : call.userToken? = none) :
    call.failure? = none := by
  cases call with
  | login | aside => rfl
  | search | fetch | start | submit => cases aside

end Call

namespace CredentialCache

variable {cache : CredentialCache} {key : String}

/-- What is kept after an operation with the credential of a jurisdiction. -/
def settled (cache : CredentialCache) (key : String) : Option Failure → CredentialCache
  | some failure => if failure.rejectsCredentials then cache.drop key else cache
  | none => cache

/-- Where no credential is kept there is none to drop. -/
theorem drop_of_absent (absent : cache.find? key = none) : cache.drop key = cache := by
  unfold find? at absent
  rw [List.lookup_eq_none_iff] at absent
  unfold drop
  rw [List.filter_eq_self]
  intro entry isEntry
  have other := absent entry isEntry
  rw [bne_iff_ne] at other ⊢
  exact other.symm

/-- After a failure the credential of the jurisdiction is gone if the failure rejects it, and
as it was otherwise. -/
theorem find?_settled_self (failure : Failure) :
    (cache.settled key (some failure)).find? key =
      if failure.rejectsCredentials then none else cache.find? key := by
  by_cases rejects : failure.rejectsCredentials = true
  · simp only [settled, rejects, if_true]
    exact find?_drop_self cache key
  · simp only [settled, rejects, if_false, Bool.false_eq_true]

/-- The credentials of the other jurisdictions stay, however an operation ends. -/
theorem find?_settled_of_ne (failed : Option Failure) {other : String} (different : other ≠ key) :
    (cache.settled key failed).find? other = cache.find? other := by
  unfold settled
  split
  · split
    · exact find?_drop_of_ne cache key different
    · rfl
  · rfl

/-- An operation adds nothing to what is kept. -/
theorem settled_sublist (failed : Option Failure) : (cache.settled key failed).Sublist cache := by
  unfold settled
  split
  · split
    · exact List.filter_sublist
    · exact List.Sublist.refl cache
  · exact List.Sublist.refl cache

end CredentialCache

namespace Flow

variable {σ α β : Type}

/-- Work that neither asks anybody nor touches the kept credentials. -/
def Inert (work : Flow σ α) : Prop :=
  ∀ run, (work.run run).2.peers = run.peers ∧ (work.run run).2.credentials = run.credentials

/-- A value is no work. -/
theorem Inert.pure (value : α) : Inert (Pure.pure value : Flow σ α) := fun _ => ⟨rfl, rfl⟩

/-- A failure is no work. -/
theorem Inert.fail (failure : Failure) : Inert (Flow.fail failure : Flow σ α) := fun _ => ⟨rfl, rfl⟩

/-- The log is inert. -/
theorem Inert.log (level : LogLevel) (message : String) : Inert (Flow.log (σ := σ) level message) :=
  fun _ => ⟨rfl, rfl⟩

/-- A result without effects is inert. -/
theorem Inert.lift (result : Except Failure α) : Inert (Flow.lift result : Flow σ α) := by
  cases result with
  | ok value => exact Inert.pure value
  | error failure => exact Inert.fail failure

/-- Work that is inert in both its parts is inert. -/
theorem Inert.bind {work : Flow σ α} {next : α → Flow σ β} (first : Inert work)
    (second : ∀ value, Inert (next value)) : Inert (work >>= next) := by
  intro run
  have begun := first run
  rw [bind_run]
  revert begun
  rcases work.run run with ⟨result, after⟩
  cases result with
  | ok value =>
    intro begun
    obtain ⟨samePeers, sameCredentials⟩ := second value after
    exact ⟨samePeers.trans begun.1, sameCredentials.trans begun.2⟩
  | error failure => exact id

end Flow

/-- Calls to the case store with one user token, of which the last alone may fail; then it is
this failure that the work ends with. -/
structure Spoken (token : String) (said : List Call) (failed : Option Failure) : Prop where
  same : ∀ call ∈ said, ∀ used, call.userToken? = some used → used = token
  alone : said.Pairwise fun earlier _ => earlier.failure? = none
  told : ∀ call ∈ said, ∀ failure, call.failure? = some failure → failed = some failure

namespace Spoken

variable {token : String} {failed : Option Failure}

/-- Nothing was said. -/
theorem nothing : Spoken token [] failed where
  same := by simp
  alone := List.Pairwise.nil
  told := by simp

/-- One call was made. -/
theorem single {call : Call} (same : ∀ used, call.userToken? = some used → used = token)
    (told : ∀ failure, call.failure? = some failure → failed = some failure) :
    Spoken token [call] failed where
  same := by simpa using same
  alone := List.pairwise_singleton _ call
  told := by simpa using told

/-- More is said only after calls that did not fail. -/
theorem append {first second : List Call} (earlier : Spoken token first none)
    (later : Spoken token second failed) : Spoken token (first ++ second) failed where
  same := by
    intro call isCall
    rcases List.mem_append.mp isCall with isFirst | isSecond
    · exact earlier.same call isFirst
    · exact later.same call isSecond
  alone := by
    refine List.pairwise_append.mpr ⟨earlier.alone, later.alone, fun call isFirst _ _ => ?_⟩
    cases fails : call.failure? with
    | none => rfl
    | some failure => cases earlier.told call isFirst failure fails
  told := by
    intro call isCall failure fails
    rcases List.mem_append.mp isCall with isFirst | isSecond
    · cases earlier.told call isFirst failure fails
    · exact later.told call isSecond failure fails

end Spoken

namespace Flow

variable {σ α β : Type} {token : String}

/-- Work that calls the case store with a user token, ends as soon as a call fails, and leaves
the kept credentials alone. -/
def Speaks (token : String) (work : Flow (σ × List Call) α) : Prop :=
  ∀ run, ∃ said, (work.run run).2.peers.2 = run.peers.2 ++ said ∧
    (work.run run).2.credentials = run.credentials ∧ Spoken token said (failureOf (work.run run).1)

/-- Inert work says nothing. -/
theorem Inert.speaks {work : Flow (σ × List Call) α} (inert : Inert work) : Speaks token work := by
  intro run
  obtain ⟨samePeers, sameCredentials⟩ := inert run
  refine ⟨[], ?_, sameCredentials, Spoken.nothing⟩
  rw [samePeers, List.append_nil]

/-- A question that is written down changes the collaborators, the journal and the log alone. -/
theorem written_run (call : Except Failure α → Call) (question : Ask σ α)
    (run : Run (σ × List Call)) :
    ∃ answer peers log, (Flow.ask (Call.written call question)).run run =
      (answer, { run with peers := (peers, run.peers.2 ++ [call answer]), log }) := by
  obtain ⟨entries, asked⟩ := ask_run (Call.written call question) run
  exact ⟨_, _, _, asked⟩

/-- A call to the case store is made with its token, and its failure ends the work. -/
theorem Speaks.ask (call : Except Failure α → Call) (question : Ask σ α)
    (same : ∀ answer, (call answer).userToken? = some token)
    (told : ∀ answer, (call answer).failure? = failureOf answer) :
    Speaks token (Flow.ask (Call.written call question)) := by
  intro run
  obtain ⟨answer, peers, log, asked⟩ := written_run call question run
  rw [asked]
  refine ⟨[call answer], rfl, rfl, Spoken.single ?_ ?_⟩
  · intro used isToken
    exact Option.some.inj (isToken.symm.trans (same answer))
  · intro failure fails
    exact (told answer).symm.trans fails

/-- Any other call says nothing with a token. -/
theorem Speaks.aside (question : Ask σ α) :
    Speaks token (Flow.ask (Call.written (fun _ => .aside) question)) := by
  intro run
  obtain ⟨answer, peers, log, asked⟩ := written_run (fun _ => .aside) question run
  rw [asked]
  exact ⟨[.aside], rfl, rfl, Spoken.single nofun nofun⟩

/-- One piece of work after another. -/
theorem Speaks.bind {work : Flow (σ × List Call) α} {next : α → Flow (σ × List Call) β}
    (first : Speaks token work) (second : ∀ value, Speaks token (next value)) :
    Speaks token (work >>= next) := by
  intro run
  obtain ⟨said, journal, credentials, spoken⟩ := first run
  rw [bind_run]
  revert journal credentials spoken
  rcases work.run run with ⟨result, middle⟩
  cases result with
  | error failure => exact fun journal credentials spoken => ⟨said, journal, credentials, spoken⟩
  | ok value =>
    intro journal credentials spoken
    obtain ⟨more, journalAfter, credentialsAfter, spokenAfter⟩ := second value middle
    refine ⟨said ++ more, ?_, credentialsAfter.trans credentials, spoken.append spokenAfter⟩
    rw [journalAfter, journal, List.append_assoc]

/-- An operation with a credential at hand: calls with its token, after which the credential
of the jurisdiction is dropped or left as the failure demands. -/
def Settles (key token : String) (work : Flow (σ × List Call) α) : Prop :=
  ∀ run, ∃ said failed, (work.run run).2.peers.2 = run.peers.2 ++ said ∧
    (work.run run).2.credentials = run.credentials.settled key failed ∧ Spoken token said failed

variable {key : String}

/-- Inert work may follow an operation. -/
theorem Settles.bind {work : Flow (σ × List Call) α} {next : α → Flow (σ × List Call) β}
    (settles : Settles key token work) (inert : ∀ value, Inert (next value)) :
    Settles key token (work >>= next) := by
  intro run
  obtain ⟨said, failed, journal, credentials, spoken⟩ := settles run
  refine ⟨said, failed, ?_⟩
  rw [bind_run]
  revert journal credentials
  rcases work.run run with ⟨result, after⟩
  cases result with
  | error failure => exact fun journal credentials => ⟨journal, credentials, spoken⟩
  | ok value =>
    intro journal credentials
    obtain ⟨samePeers, sameCredentials⟩ := inert value after
    refine ⟨?_, sameCredentials.trans credentials, spoken⟩
    rw [samePeers]
    exact journal

/-- An attempt is an operation like what it attempts. -/
theorem Settles.attempt {work : Flow (σ × List Call) α} (settles : Settles key token work) :
    Settles key token (Flow.attempt work) := settles

end Flow

namespace Office

open Mailroom.Flow

variable {σ α : Type} {office : Office σ} {party : Party}

/-! ### Operations with a credential at hand -/

/-- Dropping a credential takes it out of the cache and asks nobody. -/
theorem invalidate_run (jurisdiction : String) (run : Run σ) :
    ∃ metrics log, (invalidate (some jurisdiction)).run run =
      (.ok (), { run with
        credentials := run.credentials.drop (Text.lower jurisdiction), metrics, log }) := by
  rw [invalidate_pieces, bind_run, takeOut_run]
  cases found : run.credentials.find? (Text.lower jurisdiction) with
  | some credential =>
    simp only [Option.isSome_some, if_true]
    exact ⟨_, _, rfl⟩
  | none =>
    rw [CredentialCache.drop_of_absent found]
    exact ⟨run.metrics, run.log, rfl⟩

/-- Guarded work settles what is kept by its failure, and does nothing else of its own. -/
theorem guarded_run (jurisdiction : String) (work : Flow σ α) (run : Run σ) :
    ((guarded (some jurisdiction) work).run run).2.peers = (work.run run).2.peers ∧
      ((guarded (some jurisdiction) work).run run).2.credentials =
        (work.run run).2.credentials.settled (Text.lower jurisdiction)
          (failureOf (work.run run).1) := by
  unfold guarded
  rw [bind_run, attempt_run]
  cases (work.run run).1 with
  | ok value => exact ⟨rfl, rfl⟩
  | error failure =>
    cases failure with
    | store failure =>
      change _ ∧ _ = if failure.rejectsCredentials = true then _ else _
      by_cases rejects : failure.rejectsCredentials = true
      · obtain ⟨metrics, log, dropped⟩ := invalidate_run jurisdiction (work.run run).2
        simp only [rejects, if_true]
        rw [bind_run, dropped]
        exact ⟨rfl, rfl⟩
      · simp only [rejects, if_false, Bool.false_eq_true]
        exact ⟨rfl, rfl⟩
    | _ => exact ⟨rfl, rfl⟩

/-- Guarded work with a user token is an operation. -/
theorem guarded_settles {token : String} {work : Flow (σ × List Call) α}
    (speaks : Speaks token work) (jurisdiction : String) :
    Settles (Text.lower jurisdiction) token (guarded (some jurisdiction) work) := by
  intro run
  obtain ⟨said, journal, credentials, spoken⟩ := speaks run
  obtain ⟨samePeers, settled⟩ := guarded_run jurisdiction work run
  refine ⟨said, failureOf (work.run run).1, ?_, ?_, spoken⟩
  · rw [samePeers]
    exact journal
  · rw [settled, credentials]

/-- Leasing a service token goes aside of the case store. -/
theorem caller_then_speaks {token : String} {next : CaseStore.Caller → Flow (σ × List Call) α}
    (speaks : ∀ serviceToken, Speaks token (next ⟨token, serviceToken⟩)) :
    Speaks token ((office.journaled party).caller token >>= next) := by
  have leased : (office.journaled party).caller token >>= next =
      Flow.ask (Call.written (fun _ => .aside) office.peers.lease) >>= fun serviceToken =>
        next ⟨token, serviceToken⟩ := by
    unfold Office.caller
    rw [bind_assoc]
    rfl
  rw [leased]
  exact Speaks.bind (Speaks.aside office.peers.lease) speaks

/-- A write is made with one token from its start to its submission. -/
theorem write_speaks (caller : CaseStore.Caller) (target : CaseStore.Target) (event : String)
    (draft : Draft) (context : String) :
    Speaks caller.userToken
      ((office.journaled party).write caller target event draft context) := by
  refine Speaks.bind (Speaks.ask (.start party caller target event)
    (office.peers.cases.start caller target event) (fun _ => rfl) fun _ => rfl) fun started => ?_
  refine Speaks.bind (Inert.log _ _).speaks fun _ => ?_
  refine Speaks.bind (Inert.lift (draft started)).speaks fun submission => ?_
  exact Speaks.ask (.submit party caller target submission)
    (office.peers.cases.submit caller target submission) (fun _ => rfl) fun _ => rfl

/-- A write with the credential of a system user is an operation. -/
theorem writeAs_settles (credential : Credential) (jurisdiction : String) (caseType : Json)
    (caseRef : Option String) (event : String) (draft : Draft) (context : String) :
    Settles (Text.lower jurisdiction) credential.token
      ((office.journaled party).writeAs credential jurisdiction caseType caseRef event draft
        context) :=
  guarded_settles (caller_then_speaks fun serviceToken =>
    write_speaks ⟨credential.token, serviceToken⟩ _ event draft context) jurisdiction

/-- Attaching documents is an operation, whatever it makes of a failure. -/
theorem attachDocuments_settles (credential : Credential) (jurisdiction : String) (caseType : Json)
    (caseRef event : String) (draft : Draft) (context : String) :
    Settles (Text.lower jurisdiction) credential.token
      ((office.journaled party).attachDocuments credential jurisdiction caseType caseRef event draft
        context) := by
  refine (writeAs_settles credential jurisdiction caseType (some caseRef) event draft
    context).attempt.bind fun outcome => ?_
  split
  · exact Inert.pure _
  · split
    · exact Inert.fail _
    · exact Inert.fail _
  · exact Inert.fail _

/-! ### Operations that get their credential -/

/-- Work that gets the credential of a jurisdiction and goes on as an operation with it. -/
def Serves (office : Office (σ × List Call)) (jurisdiction : Option String)
    (work : Flow (σ × List Call) α) : Prop :=
  ∃ next, work = office.credential jurisdiction >>= next ∧
    ∀ named credential, jurisdiction = some named →
      Settles (Text.lower named) credential.token (next credential)

/-- An operation with the credential of a jurisdiction that is named. -/
theorem serves_of_settles {office : Office (σ × List Call)} {named : String}
    {next : Credential → Flow (σ × List Call) α}
    (settles : ∀ credential, Settles (Text.lower named) credential.token (next credential)) :
    office.Serves (some named) (office.credential (some named) >>= next) := by
  refine ⟨next, rfl, fun other credential isNamed => ?_⟩
  cases isNamed
  exact settles credential

/-- Searching is such work. -/
theorem searchIds_serves (service : Service) (caseTypes field value : String) :
    (office.journaled party).Serves service.jurisdiction
      ((office.journaled party).searchIds service caseTypes field value) := by
  refine ⟨_, rfl, fun named credential isNamed => ?_⟩
  rw [isNamed]
  refine Settles.bind (guarded_settles (caller_then_speaks fun serviceToken => ?_) named)
    fun cases => Inert.pure _
  exact Speaks.ask (.search ⟨credential.token, serviceToken⟩) (office.peers.cases.search
    ⟨credential.token, serviceToken⟩ caseTypes (matchQuery field (.str value)))
    (fun _ => rfl) fun _ => rfl

/-- Fetching is such work. -/
theorem fetchCase_serves (reference jurisdiction : String) :
    (office.journaled party).Serves (some jurisdiction)
      ((office.journaled party).fetchCase reference jurisdiction) := by
  refine serves_of_settles fun credential => ?_
  refine Settles.bind (Settles.attempt (guarded_settles (caller_then_speaks fun serviceToken => ?_)
    jurisdiction)) fun outcome => ?_
  · exact Speaks.ask (.fetch ⟨credential.token, serviceToken⟩) (office.peers.cases.fetch
      ⟨credential.token, serviceToken⟩ reference) (fun _ => rfl) fun _ => rfl
  · split
    · exact Inert.pure _
    · exact Inert.fail _
    · exact Inert.fail _

/-- Creating a case is such work. -/
theorem createCase_serves (jurisdiction caseType event : String) (draft : Draft)
    (context : String) :
    (office.journaled party).Serves (some jurisdiction)
      ((office.journaled party).createCase jurisdiction caseType event draft context) :=
  serves_of_settles fun credential =>
    (writeAs_settles credential jurisdiction _ none event draft context).bind fun _ => Inert.pure _

/-- What getting a credential comes to: the one that is kept, a failure, or a login whose token
is kept from now on. -/
inductive Authenticates (key : String) (cache : CredentialCache) :
    Option Credential → List Call → CredentialCache → Prop
  | kept {credential : Credential} (found : cache.find? key = some credential) :
    Authenticates key cache (some credential) [] cache
  | failed {said : List Call} (aside : ∀ call ∈ said, call.userToken? = none) :
    Authenticates key cache none said cache
  | loggedIn {credential : Credential} (login : Login) (absent : cache.find? key = none) :
    Authenticates key cache (some credential) [.login login (.ok credential.token), .aside]
      (cache ++ [(key, credential)])

namespace Authenticates

variable {key : String} {cache after : CredentialCache} {result : Option Credential}
  {said : List Call}

/-- The case store is not called for a credential. -/
theorem aside (authenticates : Authenticates key cache result said after) :
    ∀ call ∈ said, call.userToken? = none := by
  cases authenticates with
  | kept found => simp
  | failed aside => exact aside
  | loggedIn login absent => simp [Call.userToken?]

/-- Getting a credential leaves those of the other jurisdictions. -/
theorem others (authenticates : Authenticates key cache result said after) {other : String}
    (different : other ≠ key) : after.find? other = cache.find? other := by
  cases authenticates with
  | kept found => rfl
  | failed aside => rfl
  | @loggedIn credential login absent =>
    have same := CredentialCache.find?_keepFirst_of_ne cache key credential different
    rw [CredentialCache.keepFirst, absent] at same
    exact same

end Authenticates

/-- Getting a credential comes to one of these. -/
theorem credential_authenticates (office : Office σ) (party : Party) (jurisdiction : String)
    (run : Run (σ × List Call)) :
    ∃ said, (((office.journaled party).credential (some jurisdiction)).run run).2.peers.2 =
        run.peers.2 ++ said ∧
      Authenticates (Text.lower jurisdiction) run.credentials
        (((office.journaled party).credential (some jurisdiction)).run run).1.toOption said
        (((office.journaled party).credential (some jurisdiction)).run run).2.credentials := by
  rw [credential_pieces, bind_run]
  cases found : run.credentials.find? (Text.lower jurisdiction) with
  | some credential =>
    rw [lookUp_of_kept _ _ _ found]
    exact ⟨[], (List.append_nil _).symm, .kept found⟩
  | none =>
    obtain ⟨entries, looked⟩ := lookUp_of_absent (office.journaled party) jurisdiction run found
    rw [looked]
    cases (office.journaled party).user? (Text.lower jurisdiction) with
    | none => exact ⟨[], (List.append_nil _).symm, .failed (by simp)⟩
    | some login =>
      obtain ⟨token, peers, log, loggedIn⟩ := written_run (.login login)
        (office.peers.login login) { run with log := run.log ++ entries }
      have login_run : (Flow.ask ((office.journaled party).peers.login login)).run _ = _ := loggedIn
      dsimp only
      rw [bind_run, login_run]
      cases token with
      | error failure => exact ⟨[_], rfl, .failed (by simp [Call.userToken?])⟩
      | ok token =>
        obtain ⟨details, peers, log, identified⟩ := written_run (fun _ => .aside)
          (office.peers.userDetails token) { run with
            peers := (peers, run.peers.2 ++ [.login login (.ok token)]), log }
        have details_run :
          (Flow.ask ((office.journaled party).peers.userDetails token)).run _ = _ := identified
        dsimp only
        rw [bind_run, details_run]
        have twoCalls : run.peers.2 ++ [Call.login login (.ok token)] ++ [.aside] =
            run.peers.2 ++ [.login login (.ok token), .aside] := List.append_assoc ..
        cases details with
        | error failure => exact ⟨_, twoCalls, .failed (by simp [Call.userToken?])⟩
        | ok details =>
          dsimp only
          rw [storeIfAbsent_run]
          refine ⟨_, twoCalls, ?_⟩
          rw [CredentialCache.keepFirst, found]
          exact .loggedIn login found

/-- The course of work that gets a credential and is an operation with it: what it has seen once
it got the credential, what it said, and what is kept after it. -/
inductive SystemCourse (key : String) (before : CredentialCache) :
    CredentialCache → List Call → CredentialCache → Prop
  | unauthenticated {said : List Call} {seen : CredentialCache}
    (authenticates : Authenticates key before none said seen) :
    SystemCourse key before seen said seen
  | operates {credential : Credential} {said more : List Call} {seen : CredentialCache}
    {failed : Option Failure} (authenticates : Authenticates key before (some credential) said seen)
    (spoken : Spoken credential.token more failed) :
    SystemCourse key before seen (said ++ more) (seen.settled key failed)

/-- Such work takes such a course. -/
theorem serves_course {named : String} {work : Flow (σ × List Call) α}
    (serves : (office.journaled party).Serves (some named) work) (run : Run (σ × List Call)) :
    ∃ said, (work.run run).2.peers.2 = run.peers.2 ++ said ∧
      SystemCourse (Text.lower named) run.credentials
        (((office.journaled party).credential (some named)).run run).2.credentials said
        (work.run run).2.credentials := by
  obtain ⟨next, rfl, settles⟩ := serves
  obtain ⟨said, journal, authenticates⟩ := office.credential_authenticates party named run
  rw [bind_run]
  revert journal authenticates
  rcases ((office.journaled party).credential (some named)).run run with ⟨result, seen⟩
  intro journal authenticates
  cases result with
  | error failure => exact ⟨said, journal, .unauthenticated authenticates⟩
  | ok credential =>
    obtain ⟨more, failed, journalAfter, credentials, spoken⟩ := settles named credential rfl seen
    refine ⟨said ++ more, ?_, ?_⟩
    · rw [journalAfter, journal, List.append_assoc]
    · rw [credentials]
      exact .operates authenticates spoken

/-! ### What an operation leaves behind -/

/-- How the credentials that are kept after an operation of a jurisdiction compare to those that
were kept before it and to those it has seen when it called the case store, whatever it said
there: when a call has failed, the credential of the jurisdiction is gone if the store has
rejected it, and as it was seen otherwise; the others are as they were in any case. -/
structure Evicted (jurisdiction : Option String) (before seen after : CredentialCache)
    (said : List Call) : Prop where
  own : ∀ call ∈ said, ∀ failure, call.failure? = some failure →
    ∃ key, jurisdictionKey jurisdiction = .ok key ∧
      after.find? key = if failure.rejectsCredentials then none else seen.find? key
  others : ∀ key, jurisdictionKey jurisdiction ≠ .ok key → after.find? key = before.find? key

/-- Whatever its calls come to, work on a jurisdiction leaves its credentials so; what it has seen
is what is kept once it has authenticated. -/
def Evicts (jurisdiction : Option String) (authentication : Flow (σ × List Call) Credential)
    (work : Flow (σ × List Call) α) : Prop :=
  ∀ run, ∃ said, (work.run run).2.peers.2 = run.peers.2 ++ said ∧
    Evicted jurisdiction run.credentials (authentication.run run).2.credentials
      (work.run run).2.credentials said

variable {jurisdiction : Option String} {authentication : Flow (σ × List Call) Credential}

/-- Inert work touches no credential. -/
theorem evicts_of_inert {work : Flow (σ × List Call) α} (inert : Inert work) :
    Evicts jurisdiction authentication work := by
  intro run
  obtain ⟨samePeers, sameCredentials⟩ := inert run
  refine ⟨[], ?_, ?_, ?_⟩
  · rw [samePeers, List.append_nil]
  · intro call isCall
    cases isCall
  · intro key different
    rw [sameCredentials]

/-- What an operation leaves behind is settled by its failure. -/
theorem evicted_of_spoken {named token : String} {seen : CredentialCache} {said : List Call}
    {failed : Option Failure} (spoken : Spoken token said failed) :
    Evicted (some named) seen seen (seen.settled (Text.lower named) failed) said where
  own := by
    intro call isCall failure fails
    refine ⟨Text.lower named, rfl, ?_⟩
    rw [spoken.told call isCall failure fails]
    exact CredentialCache.find?_settled_self failure
  others := by
    intro key different
    refine CredentialCache.find?_settled_of_ne failed fun same => different ?_
    rw [same]
    rfl

/-- An operation with a credential at hand has seen what was kept when it began. -/
theorem evicts_of_settles {named token : String} {work : Flow (σ × List Call) α}
    (settles : Settles (Text.lower named) token work) (credential : Credential) :
    Evicts (some named) (pure credential) work := by
  intro run
  obtain ⟨said, failed, journal, credentials, spoken⟩ := settles run
  refine ⟨said, journal, ?_⟩
  rw [credentials]
  exact evicted_of_spoken spoken

/-- The course of work on a jurisdiction leaves its credentials so. -/
theorem SystemCourse.evicted {named : String} {before seen after : CredentialCache}
    {said : List Call} (course : SystemCourse (Text.lower named) before seen said after) :
    Evicted (some named) before seen after said := by
  have unlike {key : String} (different : jurisdictionKey (some named) ≠ .ok key) :
      key ≠ Text.lower named := fun same => different (same ▸ rfl)
  have quiet {said : List Call} {result : Option Credential}
      (authenticates : Authenticates (Text.lower named) before result said seen) {call : Call}
      (isCall : call ∈ said) (failure : Failure) : call.failure? ≠ some failure := by
    rw [Call.failure?_of_no_userToken (authenticates.aside call isCall)]
    exact nofun
  cases course with
  | unauthenticated authenticates =>
    constructor
    · intro call isCall failure fails
      exact absurd fails (quiet authenticates isCall failure)
    · exact fun key different => authenticates.others (unlike different)
  | operates authenticates spoken =>
    have evicted : Evicted (some named) seen seen _ _ := evicted_of_spoken spoken
    constructor
    · intro call isCall failure fails
      rcases List.mem_append.mp isCall with isFirst | isSecond
      · exact absurd fails (quiet authenticates isFirst failure)
      · exact evicted.own call isSecond failure fails
    · intro key different
      rw [evicted.others key different]
      exact authenticates.others (unlike different)

/-- An operation that gets its credential has seen what is kept after that. -/
theorem evicts_of_serves {work : Flow (σ × List Call) α}
    (serves : (office.journaled party).Serves jurisdiction work) :
    Evicts jurisdiction ((office.journaled party).credential jurisdiction) work := by
  cases jurisdiction with
  | none =>
    obtain ⟨next, rfl, -⟩ := serves
    exact evicts_of_inert fun run => ⟨rfl, rfl⟩
  | some named =>
    intro run
    obtain ⟨said, journal, course⟩ := serves_course serves run
    exact ⟨said, journal, course.evicted⟩

/-- The jurisdiction of a service, if the service is known and has one. -/
def jurisdictionOf (office : Office σ) (name : Option String) : Option String :=
  match office.services.get name with
  | .ok service => service.jurisdiction
  | .error _ => none

/-- Work that begins with looking a service up is work on its jurisdiction. -/
theorem evicts_of_service {name : Option String} {next : Service → Flow (σ × List Call) α}
    (evicts : ∀ service : Service, Evicts service.jurisdiction
      ((office.journaled party).credential service.jurisdiction) (next service)) :
    Evicts (office.jurisdictionOf name)
      ((office.journaled party).credential (office.jurisdictionOf name))
      ((office.journaled party).serviceNamed name >>= next) := by
  unfold serviceNamed jurisdictionOf
  change Evicts _ _ ((match office.services.get name with
    | .ok service => pure service
    | .error unknown => Flow.fail (.unknownService unknown)) >>= next)
  cases office.services.get name with
  | ok service => exact evicts service
  | error unknown => exact evicts_of_inert fun run => ⟨rfl, rfl⟩

/-- Searching the cases of a service is work on its jurisdiction. -/
theorem searchServiceCases_evicts (name field value description : String) :
    Evicts (office.jurisdictionOf (some name))
      ((office.journaled party).credential (office.jurisdictionOf (some name)))
      ((office.journaled party).searchServiceCases name field value description) := by
  refine evicts_of_service fun service => ?_
  split
  · exact evicts_of_inert (Inert.bind (Inert.log _ _) fun _ => Inert.pure _)
  · exact evicts_of_serves (searchIds_serves service _ _ _)

end Office
end Mailroom
