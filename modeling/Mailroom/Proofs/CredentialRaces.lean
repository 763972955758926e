import Mailroom.Proofs.KeptCredentials
import Mailroom.Proofs.OfficeInMemory
import Mathlib.Data.List.Induction

/-!
# Races for credentials

Any number of workers get and drop credentials at the same time. A worker goes from one
stage to the next in pieces that nobody interrupts, and between two pieces of one worker
the others may do theirs. What matters of it is written down as it happens: who was logged
in, which credentials were stored, returned and removed.

The law is that the cache is what the written history makes of it: a credential is stored
only where there is none, and whatever a worker returns is the credential that is kept at
this moment. So from one storing to the next removal there is one credential for everybody,
and it does not matter who has logged in besides.
-/

namespace Mailroom

/-- How far a worker is that gets or drops the credential of a jurisdiction. -/
inductive Stage where
  | looking (jurisdiction : String)
  | loggingIn (jurisdiction : String) (login : Login)
  | asking (jurisdiction : String) (login : Login) (token : String)
  | storing (jurisdiction : String) (credential : Credential)
  | supplied (jurisdiction : String) (credential : Credential)
  | failed (failure : Failure)
  | dropping (jurisdiction : String)
  | counting (jurisdiction : String)
  | finished

/-- Whether a worker has still to count a removal under a key. -/
def Stage.isCounting (key : String) : Stage → Bool
  | .counting jurisdiction => Text.lower jurisdiction = key
  | _ => false

/-- What is written down of a race. -/
inductive Happening where
  /-- A user was logged in and got a token. -/
  | loggedIn (login : Login) (token : String)
  /-- The user of a token was told. -/
  | identified (token : String) (details : UserDetails)
  /-- A credential was stored. -/
  | stored (jurisdiction : String) (credential : Credential)
  /-- A worker looked at the cache for the last time and got this credential. -/
  | returned (jurisdiction : String) (credential : Credential)
  /-- A credential was taken out of the cache. -/
  | removed (jurisdiction : String)

namespace Happening

/-- Whether a credential was stored under a key. -/
def isStored (key : String) : Happening → Bool
  | .stored jurisdiction _ => Text.lower jurisdiction = key
  | _ => false

/-- What is kept under a key after something has happened. -/
def keep (key : String) (kept : Option Credential) : Happening → Option Credential
  | .stored jurisdiction credential =>
    if Text.lower jurisdiction = key then some credential else kept
  | .removed jurisdiction => if Text.lower jurisdiction = key then none else kept
  | _ => kept

/-- What is kept under a key after a history. -/
def keptAfter (key : String) (history : List Happening) : Option Credential :=
  history.foldl (keep key) none

/-- What happens fits what has happened before: a credential is stored where there is none,
and one that is returned is the one that is kept. -/
def Fits (past : List Happening) : Happening → Prop
  | .stored jurisdiction _ => keptAfter (Text.lower jurisdiction) past = none
  | .returned jurisdiction credential => keptAfter (Text.lower jurisdiction) past = some credential
  | _ => True

end Happening

/-- Workers, the run that they share, and what has happened. -/
structure Race (σ : Type) where
  workers : List Stage
  run : Run σ
  history : List Happening

/-- One turn in a race. -/
inductive Turn (σ : Type) where
  /-- A worker comes that needs the credential of a jurisdiction. -/
  | needs (jurisdiction : String)
  /-- A worker comes that drops the credential of a jurisdiction. -/
  | drops (jurisdiction : String)
  /-- A worker does its next piece. -/
  | works (worker : Nat)
  /-- The collaborators change for other reasons. -/
  | elsewhere (peers : σ)

namespace Office

open Mailroom.Flow Happening

variable {σ : Type}

/-- Do a piece of work; it leads to the next stage, or it fails. -/
def settle {α : Type} (work : Flow σ α) (run : Run σ) (next : α → Stage × List Happening) :
    Stage × List Happening × Run σ :=
  match work.run run with
  | (.ok value, after) => ((next value).1, (next value).2, after)
  | (.error failure, after) => (.failed failure, [], after)

/-- The next piece of the work of one worker: the stage after it, what has happened, and the
run after it. -/
def advance (office : Office σ) (stage : Stage) (run : Run σ) :
    Stage × List Happening × Run σ :=
  match stage with
  | .looking jurisdiction => settle (office.lookUp jurisdiction) run fun
    | .inl credential => (.supplied jurisdiction credential, [.returned jurisdiction credential])
    | .inr login => (.loggingIn jurisdiction login, [])
  | .loggingIn jurisdiction login => settle (ask (office.peers.login login)) run fun token =>
    (.asking jurisdiction login token, [.loggedIn login token])
  | .asking jurisdiction _ token => settle (ask (office.peers.userDetails token)) run fun details =>
    (.storing jurisdiction (credentialOf token details), [.identified token details])
  | .storing jurisdiction credential =>
    let absent := (run.credentials.find? (Text.lower jurisdiction)).isNone
    settle (storeIfAbsent (Text.lower jurisdiction) credential) run fun kept =>
      (.supplied jurisdiction kept,
        (if absent then [.stored jurisdiction credential] else []) ++ [.returned jurisdiction kept])
  | .dropping jurisdiction => settle (takeOut jurisdiction) run fun
    | true => (.counting jurisdiction, [.removed jurisdiction])
    | false => (.finished, [])
  | .counting jurisdiction => settle (noteRemoval jurisdiction) run fun _ => (.finished, [])
  | .supplied .. | .failed _ | .finished => (stage, [], run)

/-- What a turn makes of a race. -/
def turn (office : Office σ) (race : Race σ) : Turn σ → Race σ
  | .needs jurisdiction => { race with workers := race.workers ++ [.looking jurisdiction] }
  | .drops jurisdiction => { race with workers := race.workers ++ [.dropping jurisdiction] }
  | .works worker =>
    match race.workers[worker]? with
    | none => race
    | some stage =>
      let (next, happenings, run) := office.advance stage race.run
      { workers := race.workers.set worker next, run, history := race.history ++ happenings }
  | .elsewhere peers => { race with run := { race.run with peers } }

/-- A race from the start, when no credential is kept and none was dropped. -/
def race (office : Office σ) (peers : σ) (turns : List (Turn σ)) : Race σ :=
  turns.foldl office.turn { workers := [], run := { peers }, history := [] }

/-- A credential came of a login of the user who is configured under a key. -/
def Earned (office : Office σ) (history : List Happening) (key : String)
    (credential : Credential) : Prop :=
  ∃ login token details, office.user? key = some login ∧
    .loggedIn login token ∈ history ∧ .identified token details ∈ history ∧
    credential = credentialOf token details

/-- A piece of work that touches neither the kept credentials nor the counters. -/
structure Leaves (run after : Run σ) : Prop where
  credentials : after.credentials = run.credentials
  metrics : after.metrics = run.metrics

/-- All that the next piece of a worker can be. -/
inductive Moves (office : Office σ) (run : Run σ) : Stage → Stage × List Happening × Run σ → Prop
  | found {jurisdiction : String} {credential : Credential}
      (kept : run.credentials.find? (Text.lower jurisdiction) = some credential) :
      Moves office run (.looking jurisdiction)
        (.supplied jurisdiction credential, [.returned jurisdiction credential], run)
  | missed {jurisdiction : String} {login : Login} {after : Run σ}
      (user : office.user? (Text.lower jurisdiction) = some login) (leaves : Leaves run after) :
      Moves office run (.looking jurisdiction) (.loggingIn jurisdiction login, [], after)
  | loggedIn {jurisdiction : String} {login : Login} {token : String} {after : Run σ}
      (leaves : Leaves run after) :
      Moves office run (.loggingIn jurisdiction login)
        (.asking jurisdiction login token, [.loggedIn login token], after)
  | identified {jurisdiction : String} {login : Login} {token : String} {details : UserDetails}
      {after : Run σ} (leaves : Leaves run after) :
      Moves office run (.asking jurisdiction login token)
        (.storing jurisdiction (credentialOf token details), [.identified token details], after)
  | gaveUp {stage : Stage} {failure : Failure} {after : Run σ}
      (idle : ∀ key, stage.isCounting key = false) (leaves : Leaves run after) :
      Moves office run stage (.failed failure, [], after)
  | stored {jurisdiction : String} {credential : Credential}
      (absent : run.credentials.find? (Text.lower jurisdiction) = none) :
      Moves office run (.storing jurisdiction credential)
        (.supplied jurisdiction credential,
          [.stored jurisdiction credential, .returned jurisdiction credential],
          { run with
            credentials := (run.credentials.keepFirst (Text.lower jurisdiction) credential).2 })
  | lost {jurisdiction : String} {credential other : Credential}
      (kept : run.credentials.find? (Text.lower jurisdiction) = some other) :
      Moves office run (.storing jurisdiction credential)
        (.supplied jurisdiction other, [.returned jurisdiction other], run)
  | removed {jurisdiction : String}
      (kept : (run.credentials.find? (Text.lower jurisdiction)).isSome) :
      Moves office run (.dropping jurisdiction)
        (.counting jurisdiction, [.removed jurisdiction],
          { run with credentials := run.credentials.drop (Text.lower jurisdiction) })
  | unneeded {jurisdiction : String} :
      Moves office run (.dropping jurisdiction) (.finished, [], run)
  | counted {jurisdiction : String} {log : List LogEntry} :
      Moves office run (.counting jurisdiction)
        (.finished, [], { run with
          metrics := run.metrics.count (.credentialInvalidated (Text.lower jurisdiction))
          log })
  | rests {stage : Stage} : Moves office run stage (stage, [], run)

variable {office : Office σ} {run : Run σ}

/-- A question is a piece of work that leaves the credentials alone, whether it is answered
or not. -/
theorem settle_ask {α : Type} {question : Ask σ α} {stage : Stage}
    {next : α → Stage × List Happening} (idle : ∀ key, stage.isCounting key = false)
    (answered : ∀ value after, Leaves run after →
      Moves office run stage ((next value).1, (next value).2, after)) :
    Moves office run stage (settle (ask question) run next) := by
  obtain ⟨entries, asked⟩ := ask_run question run
  unfold settle
  rw [asked]
  cases (question run.peers).1.result with
  | ok value => exact answered value _ ⟨rfl, rfl⟩
  | error failure => exact .gaveUp idle ⟨rfl, rfl⟩

/-- The next piece of a worker is one of these. -/
theorem advance_moves (office : Office σ) (stage : Stage) (run : Run σ) :
    Moves office run stage (office.advance stage run) := by
  cases stage with
  | looking jurisdiction =>
    rw [advance, settle]
    cases kept : run.credentials.find? (Text.lower jurisdiction) with
    | some credential =>
      rw [office.lookUp_of_kept jurisdiction run kept]
      exact .found kept
    | none =>
      obtain ⟨entries, missed⟩ := office.lookUp_of_absent jurisdiction run kept
      rw [missed]
      cases user : office.user? (Text.lower jurisdiction) with
      | none => exact .gaveUp (fun _ => rfl) ⟨rfl, rfl⟩
      | some login => exact .missed user ⟨rfl, rfl⟩
  | loggingIn jurisdiction login =>
    exact settle_ask (fun _ => rfl) fun _ _ leaves => .loggedIn leaves
  | asking jurisdiction login token =>
    exact settle_ask (fun _ => rfl) fun _ _ leaves => .identified leaves
  | storing jurisdiction credential =>
    rw [advance, settle, storeIfAbsent_run]
    cases kept : run.credentials.find? (Text.lower jurisdiction) with
    | none =>
      have stores : (run.credentials.keepFirst (Text.lower jurisdiction) credential).1 =
          credential := by
        rw [CredentialCache.keepFirst, kept]
      rw [stores]
      exact .stored kept
    | some other =>
      have keeps : run.credentials.keepFirst (Text.lower jurisdiction) credential =
          (other, run.credentials) := by
        rw [CredentialCache.keepFirst, kept]
      rw [keeps]
      exact .lost kept
  | dropping jurisdiction =>
    rw [advance, settle, takeOut_run]
    cases kept : (run.credentials.find? (Text.lower jurisdiction)).isSome with
    | true => exact .removed kept
    | false => exact .unneeded
  | counting jurisdiction =>
    obtain ⟨entries, noted⟩ := noteRemoval_run jurisdiction run
    rw [advance, settle, noted]
    exact .counted
  | supplied jurisdiction credential => exact .rests
  | failed failure => exact .rests
  | finished => exact .rests

/-- Several pieces of a worker one after the other, with nobody else at work. -/
def advances (office : Office σ) : Nat → Stage × Run σ → Stage × Run σ
  | 0, reached => reached
  | pieces + 1, (stage, run) =>
    let (next, _, after) := office.advance stage run
    office.advances pieces (next, after)

/-- The pieces of a worker alone begin with the first one. -/
theorem advances_succ (office : Office σ) (pieces : Nat) (stage : Stage) (run : Run σ) :
    office.advances (pieces + 1) (stage, run) =
      office.advances pieces ((office.advance stage run).1, (office.advance stage run).2.2) := rfl

/-- Alone, a worker who needs a credential gets it as `credential` does. -/
theorem advances_looking (office : Office σ) (jurisdiction : String) (run : Run σ) :
    office.advances 4 (.looking jurisdiction, run) =
      match (office.credential (some jurisdiction)).run run with
      | (.ok credential, after) => (.supplied jurisdiction credential, after)
      | (.error failure, after) => (.failed failure, after) := by
  rw [credential_pieces, bind_run, advances_succ, advance, settle]
  rcases (office.lookUp jurisdiction).run run with ⟨failure | credential | login, looked⟩
  · rfl
  · rfl
  dsimp only
  rw [bind_run, advances_succ, advance, settle]
  rcases (ask (office.peers.login login)).run looked with ⟨failure | token, loggedIn⟩
  · rfl
  dsimp only
  rw [bind_run, advances_succ, advance, settle]
  rcases (ask (office.peers.userDetails token)).run loggedIn with ⟨failure | details, identified⟩
  · rfl
  · rfl

/-- Alone, a worker who drops a credential does so as `invalidate` does. -/
theorem advances_dropping (office : Office σ) (jurisdiction : String) (run : Run σ) :
    office.advances 2 (.dropping jurisdiction, run) =
      (.finished, ((invalidate (some jurisdiction)).run run).2) := by
  rw [invalidate_pieces, bind_run, advances_succ, advance, settle, takeOut_run]
  cases (run.credentials.find? (Text.lower jurisdiction)).isSome with
  | true => rfl
  | false => rfl

end Office

namespace Happening

/-- Everything in a history fits what has happened before. -/
def Coherent (history : List Happening) : Prop :=
  ∀ past happening since, history = past ++ happening :: since → happening.Fits past

variable {history : List Happening} {happening : Happening}

/-- What is kept after one thing more. -/
theorem keptAfter_append (key : String) (history happenings : List Happening) :
    keptAfter key (history ++ happenings) = happenings.foldl (keep key) (keptAfter key history) :=
  List.foldl_append

/-- Nothing has to fit anything. -/
theorem Coherent.nil : Coherent [] := by
  intro past happening since parts
  cases past <;> cases parts

/-- A history goes on with what fits it. -/
theorem Coherent.next (coherent : Coherent history) (fits : happening.Fits history) :
    Coherent (history ++ [happening]) := by
  intro past other since parts
  rcases parts_append_last parts with ⟨-, rfl, rfl⟩ | ⟨rest, -, earlier⟩
  · exact fits
  · exact coherent past other rest earlier

/-- The start of a coherent history is coherent. -/
theorem Coherent.earlier {rest : List Happening} (coherent : Coherent (history ++ rest)) :
    Coherent history := by
  intro past happening since parts
  refine coherent past happening (since ++ rest) ?_
  rw [parts, List.append_assoc, List.cons_append]

/-- A credential that is kept stays until it is removed. -/
theorem keptAfter_of_unremoved {key : String} {credential : Credential}
    {between : List Happening} (coherent : Coherent (history ++ between))
    (kept : keptAfter key history = some credential)
    (unremoved : ∀ jurisdiction, .removed jurisdiction ∈ between → Text.lower jurisdiction ≠ key) :
    keptAfter key (history ++ between) = some credential := by
  -- from the start to the end: what is stored needs an empty place, and there is none
  induction between using List.reverseRecOn with
  | nil => rwa [List.append_nil]
  | append_singleton before last inductionHypothesis =>
    rw [← List.append_assoc] at coherent ⊢
    have stays : keptAfter key (history ++ before) = some credential := by
      refine inductionHypothesis coherent.earlier fun jurisdiction isRemoved => ?_
      exact unremoved jurisdiction (List.mem_append_left _ isRemoved)
    have fits : last.Fits (history ++ before) := coherent (history ++ before) last [] rfl
    rw [keptAfter_append, stays]
    cases last with
    | stored jurisdiction other =>
      have different : Text.lower jurisdiction ≠ key := by
        rintro rfl
        cases stays.symm.trans fits
      exact if_neg different
    | removed jurisdiction =>
      exact if_neg (unremoved jurisdiction (List.mem_append_right _ (List.mem_singleton_self _)))
    | loggedIn login token => rfl
    | identified token details => rfl
    | returned jurisdiction other => rfl

/-- A credential that is kept was stored. -/
theorem stored_of_keptAfter {key : String} {credential : Credential}
    (kept : keptAfter key history = some credential) :
    ∃ jurisdiction, Text.lower jurisdiction = key ∧ .stored jurisdiction credential ∈ history := by
  induction history using List.reverseRecOn with
  | nil => cases kept
  | append_singleton before last inductionHypothesis =>
    have earlier (stays : keptAfter key before = some credential) :
        ∃ jurisdiction, Text.lower jurisdiction = key ∧
          .stored jurisdiction credential ∈ before ++ [last] := by
      obtain ⟨jurisdiction, named, isStored⟩ := inductionHypothesis stays
      exact ⟨jurisdiction, named, List.mem_append_left _ isStored⟩
    rw [keptAfter_append] at kept
    cases last with
    | stored jurisdiction other =>
      change (if Text.lower jurisdiction = key then some other else keptAfter key before) =
        some credential at kept
      by_cases named : Text.lower jurisdiction = key
      · rw [if_pos named] at kept
        obtain rfl := Option.some.inj kept
        exact ⟨jurisdiction, named, List.mem_append_right _ (List.mem_singleton_self _)⟩
      · rw [if_neg named] at kept
        exact earlier kept
    | removed jurisdiction =>
      change (if Text.lower jurisdiction = key then none else keptAfter key before) =
        some credential at kept
      by_cases named : Text.lower jurisdiction = key
      · rw [if_pos named] at kept
        cases kept
      · rw [if_neg named] at kept
        exact earlier kept
    | loggedIn login token => exact earlier kept
    | identified token details => exact earlier kept
    | returned jurisdiction other => exact earlier kept

end Happening

namespace Office

open Mailroom.Flow Happening

variable {σ : Type} {office : Office σ} {run after : Run σ} {stage next : Stage}
  {history happenings : List Happening}

/-- A login counts whatever happens after it. -/
theorem Earned.later {key : String} {credential : Credential}
    (earned : office.Earned history key credential) (more : List Happening) :
    office.Earned (history ++ more) key credential := by
  obtain ⟨login, token, details, user, loggedIn, identified, same⟩ := earned
  exact ⟨login, token, details, user, List.mem_append_left _ loggedIn,
    List.mem_append_left _ identified, same⟩

/-- What a worker has got so far was got as it should be. -/
def Entitled (office : Office σ) (history : List Happening) : Stage → Prop
  | .loggingIn jurisdiction login => office.user? (Text.lower jurisdiction) = some login
  | .asking jurisdiction login token =>
    office.user? (Text.lower jurisdiction) = some login ∧ .loggedIn login token ∈ history
  | .storing jurisdiction credential =>
    office.Earned history (Text.lower jurisdiction) credential
  | .supplied jurisdiction credential => .returned jurisdiction credential ∈ history
  | _ => True

/-- What was got as it should be stays so. -/
theorem Entitled.later (entitled : office.Entitled history stage) (more : List Happening) :
    office.Entitled (history ++ more) stage := by
  cases stage with
  | loggingIn jurisdiction login => exact entitled
  | asking jurisdiction login token => exact ⟨entitled.1, List.mem_append_left _ entitled.2⟩
  | storing jurisdiction credential => exact Earned.later entitled more
  | supplied jurisdiction credential => exact List.mem_append_left _ entitled
  | looking | failed | dropping | counting | finished => trivial

/-- A piece changes the cache as the history says. -/
theorem Moves.kept (moves : Moves office run stage (next, happenings, after)) (key : String) :
    after.credentials.find? key = happenings.foldl (keep key) (run.credentials.find? key) := by
  cases moves with
  | found | lost | unneeded | counted | rests => rfl
  | missed _ leaves | loggedIn leaves | identified leaves | gaveUp _ leaves =>
    rw [leaves.credentials]
    rfl
  | @stored jurisdiction credential absent =>
    change _ = if Text.lower jurisdiction = key then some credential else _
    by_cases named : Text.lower jurisdiction = key
    · rw [if_pos named, ← named, CredentialCache.find?_keepFirst, CredentialCache.keepFirst, absent]
    · rw [if_neg named]
      exact CredentialCache.find?_keepFirst_of_ne _ _ _ (Ne.symm named)
  | @removed jurisdiction kept =>
    change _ = if Text.lower jurisdiction = key then none else _
    by_cases named : Text.lower jurisdiction = key
    · rw [if_pos named, ← named]
      exact CredentialCache.find?_drop_self _ _
    · rw [if_neg named]
      exact CredentialCache.find?_drop_of_ne _ _ (Ne.symm named)

/-- What happens in a piece fits the history, when the cache is what the history says. -/
theorem Moves.coherent (moves : Moves office run stage (next, happenings, after))
    (kept : ∀ key, run.credentials.find? key = keptAfter key history)
    (coherent : Coherent history) : Coherent (history ++ happenings) := by
  cases moves with
  | missed | gaveUp | unneeded | counted | rests => rwa [List.append_nil]
  | loggedIn | identified | removed => exact coherent.next trivial
  | found isKept | lost isKept => exact coherent.next ((kept _).symm.trans isKept)
  | @stored jurisdiction credential absent =>
    have empty : (Happening.stored jurisdiction credential).Fits history :=
      (kept _).symm.trans absent
    rw [List.append_cons]
    refine (coherent.next empty).next ?_
    rw [Fits, keptAfter_append]
    exact if_pos rfl

/-- A piece leads a worker on as it should, and what it stores is what a login has brought. -/
theorem Moves.entitled (moves : Moves office run stage (next, happenings, after))
    (entitled : office.Entitled history stage) :
    office.Entitled (history ++ happenings) next ∧
      ∀ jurisdiction credential, .stored jurisdiction credential ∈ happenings →
        office.Earned (history ++ happenings) (Text.lower jurisdiction) credential := by
  cases moves with
  | found => exact ⟨List.mem_append_right _ (List.mem_singleton_self _), by simp⟩
  | missed user => exact ⟨user, by simp⟩
  | loggedIn =>
    exact ⟨⟨entitled, List.mem_append_right _ (List.mem_singleton_self _)⟩, by simp⟩
  | @identified jurisdiction login token details _ leaves =>
    refine ⟨⟨login, token, details, entitled.1, List.mem_append_left _ entitled.2, ?_, rfl⟩, ?_⟩
    · exact List.mem_append_right _ (List.mem_singleton_self _)
    · simp
  | stored =>
    refine ⟨List.mem_append_right _ (by simp), fun jurisdiction credential isStored => ?_⟩
    simp only [List.mem_cons, Happening.stored.injEq, reduceCtorEq, List.not_mem_nil, or_false]
      at isStored
    obtain ⟨rfl, rfl⟩ := isStored
    exact Earned.later entitled _
  | lost => exact ⟨List.mem_append_right _ (List.mem_singleton_self _), by simp⟩
  | gaveUp | removed | unneeded | counted => exact ⟨trivial, by simp⟩
  | rests => exact ⟨entitled.later [], by simp⟩

/-- One for a credential that is kept under a key, and none otherwise. -/
def keptCount (run : Run σ) (key : String) : Nat :=
  if (run.credentials.find? key).isSome then 1 else 0

/-- A piece that stores a credential fills a place, one that removes it has a removal to
count, and one that counts it has done so. -/
theorem Moves.account (moves : Moves office run stage (next, happenings, after)) (key : String) :
    after.metrics.times (.credentialInvalidated key) + (next.isCounting key).toNat +
        keptCount after key =
      run.metrics.times (.credentialInvalidated key) + (stage.isCounting key).toNat +
        keptCount run key + happenings.countP (isStored key) := by
  have cache := moves.kept key
  unfold keptCount
  cases moves with
  | found | lost | unneeded | rests => rfl
  | missed _ leaves | loggedIn leaves | identified leaves =>
    rw [leaves.credentials, leaves.metrics]
    rfl
  | gaveUp idle leaves =>
    rw [leaves.credentials, leaves.metrics, idle]
    rfl
  | @stored jurisdiction credential absent =>
    rw [cache]
    by_cases named : Text.lower jurisdiction = key
    · subst named
      simp [keep, Stage.isCounting, isStored, absent]
    · simp [keep, Stage.isCounting, isStored, named]
  | @removed jurisdiction kept =>
    rw [cache]
    by_cases named : Text.lower jurisdiction = key
    · subst named
      simp [keep, Stage.isCounting, isStored, kept]
    · simp [keep, Stage.isCounting, isStored, named]
  | @counted jurisdiction log =>
    rw [Metrics.times_count]
    by_cases named : Text.lower jurisdiction = key
    · simp [Stage.isCounting, named]
    · simp [Stage.isCounting, named, Ne.symm named]

/-- What holds of a race at any time. -/
structure Sound (office : Office σ) (race : Race σ) : Prop where
  kept : ∀ key, race.run.credentials.find? key = keptAfter key race.history
  coherent : Coherent race.history
  entitled : ∀ stage ∈ race.workers, office.Entitled race.history stage
  earned : ∀ jurisdiction credential, .stored jurisdiction credential ∈ race.history →
    office.Earned race.history (Text.lower jurisdiction) credential
  account : ∀ key, race.history.countP (isStored key) =
    race.run.metrics.times (.credentialInvalidated key) +
      race.workers.countP (Stage.isCounting key) + keptCount race.run key

/-- A worker among the others, and the workers after its next piece. -/
theorem exists_among {workers : List Stage} {worker : Nat} (isAt : workers[worker]? = some stage) :
    ∃ before behind, workers = before ++ stage :: behind ∧
      ∀ next, workers.set worker next = before ++ next :: behind := by
  obtain ⟨inside, rfl⟩ := List.getElem?_eq_some_iff.mp isAt
  refine ⟨workers.take worker, workers.drop (worker + 1), ?_, fun next => ?_⟩
  · rw [← List.drop_eq_getElem_cons inside, List.take_append_drop]
  · exact List.set_eq_take_append_cons_drop.trans (if_pos inside)

/-- The next piece of a worker keeps a race sound. -/
theorem Sound.works {race : Race σ} (sound : office.Sound race) {before behind : List Stage}
    (among : race.workers = before ++ stage :: behind)
    (moves : Moves office race.run stage (next, happenings, after)) :
    office.Sound {
      workers := before ++ next :: behind
      run := after
      history := race.history ++ happenings } := by
  have others : ∀ other ∈ before ++ behind, office.Entitled race.history other := by
    intro other isOther
    refine sound.entitled other ?_
    rw [among]
    rcases List.mem_append.mp isOther with isBefore | isBehind
    · exact List.mem_append_left _ isBefore
    · exact List.mem_append_right _ (List.mem_cons_of_mem _ isBehind)
  have own : office.Entitled race.history stage := sound.entitled stage (by simp [among])
  obtain ⟨goesOn, stores⟩ := moves.entitled own
  constructor
  case kept =>
    intro key
    rw [moves.kept, keptAfter_append, sound.kept]
  case coherent => exact moves.coherent sound.kept sound.coherent
  case entitled =>
    intro other isWorker
    rcases List.mem_append.mp isWorker with isBefore | isRest
    · exact (others other (List.mem_append_left _ isBefore)).later happenings
    · rcases List.mem_cons.mp isRest with rfl | isBehind
      · exact goesOn
      · exact (others other (List.mem_append_right _ isBehind)).later happenings
  case earned =>
    intro jurisdiction credential isStored
    rcases List.mem_append.mp isStored with earlier | now
    · exact (sound.earned jurisdiction credential earlier).later happenings
    · exact stores jurisdiction credential now
  case account =>
    intro key
    have balance := sound.account key
    have change := moves.account key
    rw [among, List.countP_append, List.countP_cons] at balance
    rw [List.countP_append, List.countP_append, List.countP_cons]
    cases counting : stage.isCounting key <;> cases counts : next.isCounting key <;>
      simp only [counting, counts, Bool.toNat_true, Bool.toNat_false, if_true,
        Bool.false_eq_true, if_false] at balance change ⊢ <;>
      omega

/-- A worker who has not begun changes nothing. -/
theorem Sound.arrives {race : Race σ} (sound : office.Sound race) {stage : Stage}
    (entitled : office.Entitled race.history stage) (idle : ∀ key, stage.isCounting key = false) :
    office.Sound { race with workers := race.workers ++ [stage] } := by
  refine ⟨sound.kept, sound.coherent, fun other isWorker => ?_, sound.earned, fun key => ?_⟩
  · rcases List.mem_append.mp isWorker with isEarlier | isNew
    · exact sound.entitled other isEarlier
    · rw [List.mem_singleton.mp isNew]
      exact entitled
  · rw [List.countP_append, List.countP_singleton, idle]
    exact sound.account key

/-- Every turn keeps a race sound. -/
theorem Sound.turn {race : Race σ} (sound : office.Sound race) (turn : Turn σ) :
    office.Sound (office.turn race turn) := by
  cases turn with
  | needs jurisdiction => exact sound.arrives trivial fun _ => rfl
  | drops jurisdiction => exact sound.arrives trivial fun _ => rfl
  | elsewhere peers =>
    exact ⟨sound.kept, sound.coherent, sound.entitled, sound.earned, sound.account⟩
  | works worker =>
    rw [Office.turn]
    cases isAt : race.workers[worker]? with
    | none => exact sound
    | some stage =>
      obtain ⟨before, behind, among, set⟩ := exists_among isAt
      have moves := office.advance_moves stage race.run
      dsimp only
      generalize office.advance stage race.run = ended at moves
      obtain ⟨next, happenings, after⟩ := ended
      dsimp only
      rw [set next]
      exact sound.works among moves

/-- A race is sound after any turns. -/
theorem race_sound (office : Office σ) (peers : σ) (turns : List (Turn σ)) :
    office.Sound (office.race peers turns) := by
  unfold race
  have begins : office.Sound { workers := [], run := { peers }, history := [] } := by
    refine ⟨fun _ => rfl, Coherent.nil, List.forall_mem_nil _, ?_, fun _ => rfl⟩
    intro jurisdiction credential isStored
    cases isStored
  generalize ({ workers := [], run := { peers }, history := [] } : Race σ) = start at begins
  induction turns generalizing start with
  | nil => exact begins
  | cons turn rest inductionHypothesis => exact inductionHypothesis _ (begins.turn turn)

/-- From the storing of a credential up to the next removal it is the one that everybody gets. -/
theorem shared_of_coherent {past between rest : List Happening} {jurisdiction other : String}
    {credential found : Credential}
    (coherent : Coherent (past ++ .stored jurisdiction credential :: between ++ rest))
    (unremoved : ∀ other, .removed other ∈ between → Text.lower other ≠ Text.lower jurisdiction)
    (named : Text.lower other = Text.lower jurisdiction)
    (isReturned : .returned other found ∈ between) : found = credential := by
  obtain ⟨middle, since, rfl⟩ := List.append_of_mem isReturned
  have whole : Coherent ((past ++ [.stored jurisdiction credential]) ++ middle ++
      .returned other found :: (since ++ rest)) := by
    simpa using coherent
  have isKept : keptAfter (Text.lower jurisdiction)
      (past ++ [.stored jurisdiction credential]) = some credential := by
    rw [keptAfter_append]
    exact if_pos rfl
  have stays := keptAfter_of_unremoved whole.earlier isKept fun removed isRemoved =>
    unremoved removed (List.mem_append_left _ isRemoved)
  have fits : keptAfter (Text.lower other)
      ((past ++ [.stored jurisdiction credential]) ++ middle) = some found :=
    whole _ (.returned other found) (since ++ rest) rfl
  rw [named, stays] at fits
  exact (Option.some.inj fits).symm

open Simulation

/-- What the workers of a race can rely on. -/
structure Agreed (office : Office σ) (race : Race σ) : Prop where
  /-- A credential that is kept under a key is from a login of the user of this key. -/
  kept : ∀ key credential, race.run.credentials.find? key = some credential →
    office.Earned race.history key credential
  /-- So is a credential that was returned for a jurisdiction, in whatever spelling. -/
  returned : ∀ jurisdiction credential, .returned jurisdiction credential ∈ race.history →
    office.Earned race.history (Text.lower jurisdiction) credential
  /-- What a worker is supplied with is what it found when it last looked at the cache. -/
  supplied : ∀ jurisdiction credential, .supplied jurisdiction credential ∈ race.workers →
    .returned jurisdiction credential ∈ race.history
  /-- From the storing of a credential up to the next removal every worker gets this one. -/
  shared : ∀ past jurisdiction credential between rest,
    race.history = past ++ .stored jurisdiction credential :: between ++ rest →
    (∀ other, .removed other ∈ between → Text.lower other ≠ Text.lower jurisdiction) →
    ∀ other found, Text.lower other = Text.lower jurisdiction →
      .returned other found ∈ between → found = credential
  /-- A piece of work that fails leaves the cache as it was. -/
  failed : ∀ stage failure happenings after,
    office.advance stage race.run = (.failed failure, happenings, after) →
    after.credentials = race.run.credentials
  /-- Of the credentials that were stored under a key one may be kept and some may still
  have to be counted as removed; the others are counted. -/
  account : ∀ key, race.history.countP (isStored key) =
    race.run.metrics.times (.credentialInvalidated key) +
      race.workers.countP (Stage.isCounting key) + keptCount race.run key
  /-- When no worker is between removing and counting, the counter is the number of stored
  credentials, less one if one is kept. -/
  settled : ∀ key, (∀ stage ∈ race.workers, stage.isCounting key = false) →
    race.run.metrics.times (.credentialInvalidated key) =
      race.history.countP (isStored key) - keptCount race.run key

/-- Workers who get and drop credentials at the same time agree, whatever turns they take
and whatever the collaborators answer. -/
theorem workers_agree (office : Office σ) (peers : σ) (turns : List (Turn σ)) :
    office.Agreed (office.race peers turns) := by
  have sound := office.race_sound peers turns
  generalize office.race peers turns = race at sound
  have earned {key : String} {credential : Credential} {past rest : List Happening}
      (parts : race.history = past ++ rest) (kept : keptAfter key past = some credential) :
      office.Earned race.history key credential := by
    obtain ⟨jurisdiction, rfl, isStored⟩ := stored_of_keptAfter kept
    refine sound.earned jurisdiction credential ?_
    rw [parts]
    exact List.mem_append_left rest isStored
  constructor
  case kept =>
    intro key credential isKept
    rw [sound.kept] at isKept
    exact earned (List.append_nil _).symm isKept
  case returned =>
    intro jurisdiction credential isReturned
    obtain ⟨past, since, parts⟩ := List.append_of_mem isReturned
    exact earned parts (sound.coherent past _ since parts)
  case supplied =>
    intro jurisdiction credential isSupplied
    exact sound.entitled (.supplied jurisdiction credential) isSupplied
  case shared =>
    intro past jurisdiction credential between rest parts unremoved other found named isReturned
    have coherent := sound.coherent
    rw [parts] at coherent
    exact shared_of_coherent coherent unremoved named isReturned
  case failed =>
    intro stage failure happenings after ends
    have moves := office.advance_moves stage race.run
    rw [ends] at moves
    cases moves with
    | gaveUp _ leaves => exact leaves.credentials
    | rests => rfl
  case account => exact sound.account
  case settled =>
    intro key idle
    have none : race.workers.countP (Stage.isCounting key) = 0 :=
      List.countP_eq_zero.mpr fun stage isWorker => by simp [idle stage isWorker]
    have balance := sound.account key
    omega

/-- Two workers need the credential of one jurisdiction and both log in; the second one is
first to store what it has got, and both are supplied with that. -/
example :
    (numberedOffice.race {} [.needs "BULKSCAN", .needs "bulkscan", .works 0, .works 1, .works 0,
      .works 1, .works 0, .works 1, .works 1, .works 0]).workers.map (fun
        | .supplied _ credential => credential.token
        | _ => "") = ["Bearer user-token-2", "Bearer user-token-2"] := by
  decide +kernel

end Office
end Mailroom
