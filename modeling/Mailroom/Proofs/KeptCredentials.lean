import Mailroom.Proofs.Assurance

/-!
# Kept credentials

A credential comes from the cache or from a login. Several workers may get and drop
credentials at the same time, and what one of them does in one go is less than the whole:
it looks into the cache, logs in, asks who the user is, and stores the credential unless
another one is there by then; or it takes a credential out of the cache, and counts that
afterwards. The pieces are given here with what each of them does to the run, and put
together they are the work of one worker alone.
-/

namespace Mailroom

namespace Metrics

/-- How often an event happened is said by its first entry. -/
theorem times_cons (known : Metric) (often : Nat) (rest : Metrics) (metric : Metric) :
    times ((known, often) :: rest) metric =
      if metric = known then often else rest.times metric := by
  unfold times
  by_cases same : metric = known
  · rw [if_pos same, same, List.lookup_cons_self]
    rfl
  · rw [if_neg same, List.lookup_cons, beq_eq_false_iff_ne.mpr same]

/-- Counting an event adds one to how often it happened, and nothing to the others. -/
theorem times_count (metrics : Metrics) (metric other : Metric) :
    (metrics.count metric).times other =
      metrics.times other + if other = metric then 1 else 0 := by
  induction metrics with
  | nil =>
    rw [count, times_cons]
    by_cases same : other = metric
    · simp [same, times]
    · simp [same]
  | cons entry rest inductionHypothesis =>
    obtain ⟨known, often⟩ := entry
    by_cases found : known = metric
    · rw [count, if_pos found, times_cons, times_cons, found]
      by_cases same : other = metric
      · simp [same]
      · simp [same]
    · rw [count, if_neg found, times_cons, times_cons, inductionHypothesis]
      by_cases same : other = known
      · simp [same, found]
      · simp [same]

end Metrics

namespace CredentialCache

variable (cache : CredentialCache) (key : String)

/-- A credential that was dropped is not found. -/
theorem find?_drop_self : (cache.drop key).find? key = none := by
  unfold find? drop
  rw [List.lookup_eq_none_iff]
  intro entry isKept
  have other : (entry.1 != key) = true := (List.mem_filter.mp isKept).2
  rw [bne_iff_ne] at other ⊢
  exact other.symm

/-- Dropping a credential leaves those of the other jurisdictions. -/
theorem find?_drop_of_ne {other : String} (different : other ≠ key) :
    (cache.drop key).find? other = cache.find? other := by
  unfold find? drop
  induction cache with
  | nil => rfl
  | cons entry rest inductionHypothesis =>
    obtain ⟨known, credential⟩ := entry
    by_cases dropped : known = key
    · have unlike : (other == known) = false := by simpa [dropped] using different
      rw [List.filter_cons_of_neg (by simp [dropped]), List.lookup_cons, unlike]
      exact inductionHypothesis
    · rw [List.filter_cons_of_pos (by simpa using dropped), List.lookup_cons, List.lookup_cons,
        inductionHypothesis]

/-- Keeping a credential leaves those of the other jurisdictions. -/
theorem find?_keepFirst_of_ne (credential : Credential) {other : String}
    (different : other ≠ key) :
    find? (cache.keepFirst key credential).2 other = cache.find? other := by
  unfold keepFirst
  cases found : cache.find? key with
  | some kept => rfl
  | none =>
    have unlike : (other == key) = false := by simpa using different
    simp [find?, List.lookup_append, List.lookup_cons, unlike]

end CredentialCache

namespace Flow

variable {σ α : Type}

/-- Lines in the log change the log alone. -/
theorem logLines_run (lines : List LogLine) (run : Run σ) :
    ∃ entries, (lines.forM fun line => log (σ := σ) line.level line.message).run run =
      (.ok (), { run with log := run.log ++ entries }) := by
  induction lines generalizing run with
  | nil => exact ⟨[], by rw [List.append_nil]; rfl⟩
  | cons line rest inductionHypothesis =>
    obtain ⟨entries, logged⟩ := inductionHypothesis
      { run with log := run.log ++ [⟨line, correlationOf run.correlation⟩] }
    refine ⟨⟨line, correlationOf run.correlation⟩ :: entries, ?_⟩
    rw [List.append_cons]
    exact logged

/-- A question ends with the result of its answer, and changes the collaborators and the log
alone. -/
theorem ask_run (question : Ask σ α) (run : Run σ) :
    ∃ entries, (ask question).run run =
      ((question run.peers).1.result,
        { run with peers := (question run.peers).2, log := run.log ++ entries }) := by
  obtain ⟨entries, logged⟩ := logLines_run (question run.peers).1.log
    { run with peers := (question run.peers).2 }
  have asked : (ask question).run run =
      (((question run.peers).1.log.forM fun line => log line.level line.message) >>= fun _ =>
        lift (question run.peers).1.result).run { run with peers := (question run.peers).2 } := rfl
  refine ⟨entries, ?_⟩
  rw [asked, bind_run, logged]
  cases (question run.peers).1.result <;> rfl

end Flow

namespace Office

open Mailroom.Flow

variable {σ : Type} (office : Office σ)

/-- Look for the credential of a jurisdiction; when there is none, find the user to log in. -/
def lookUp (jurisdiction : String) : Flow σ (Credential ⊕ Login) := do
  match ← cached? (Text.lower jurisdiction) with
  | some credential => return .inl credential
  | none =>
    match office.user? (Text.lower jurisdiction) with
    | none => fail (.authentication (.noUser jurisdiction))
    | some login =>
      log .info ("Logging in IDAM user for jurisdiction " ++ jurisdiction)
      return .inr login

/-- Take the credential of a jurisdiction out of the cache, and say whether there was one. -/
def takeOut (jurisdiction : String) : Flow σ Bool := do
  let run ← get
  if (run.credentials.find? (Text.lower jurisdiction)).isSome then
    set { run with credentials := run.credentials.drop (Text.lower jurisdiction) }
    return true
  else return false

/-- Count and log that the credential of a jurisdiction was taken out. -/
def noteRemoval (jurisdiction : String) : Flow σ Unit := do
  count (.credentialInvalidated (Text.lower jurisdiction))
  log .info ("Removed cached IDAM credential for jurisdiction " ++ jurisdiction)

/-- The credential with a token, for the user that the token belongs to. -/
def credentialOf (token : String) (details : UserDetails) : Credential :=
  ⟨token, details.id, details.email⟩

/-- Getting a credential is a look-up and, when that finds none, a login, a question for the
user, and storing what came of it. -/
theorem credential_pieces (jurisdiction : String) :
    office.credential (some jurisdiction) = (do
      match ← office.lookUp jurisdiction with
      | .inl credential => return credential
      | .inr login =>
        let token ← ask (office.peers.login login)
        let details ← ask (office.peers.userDetails token)
        storeIfAbsent (Text.lower jurisdiction) (credentialOf token details)) := by
  unfold credential credentialWhile lookUp logIn
  simp only [jurisdictionKey, Flow.reading, pure_bind, bind_assoc, Option.getD_some]
  congr 1
  funext found
  cases found with
  | some credential => simp
  | none =>
    cases office.user? (Text.lower jurisdiction) with
    | none => rfl
    | some login => simp [credentialOf]

/-- Dropping a credential is taking it out and, when there was one, counting that. -/
theorem invalidate_pieces (jurisdiction : String) :
    (invalidate (some jurisdiction) : Flow σ Unit) = (do
      if ← takeOut jurisdiction then noteRemoval jurisdiction) := by
  unfold invalidate takeOut noteRemoval
  simp only [jurisdictionKey, Flow.reading, pure_bind, bind_assoc]
  congr 1
  funext run
  split
  · simp
  · simp

variable (jurisdiction : String) (run : Run σ)

/-- A credential that is kept is found, and nothing changes. -/
theorem lookUp_of_kept {credential : Credential}
    (kept : run.credentials.find? (Text.lower jurisdiction) = some credential) :
    (office.lookUp jurisdiction).run run = (.ok (.inl credential), run) := by
  have found : (cached? (Text.lower jurisdiction)).run run = (.ok (some credential), run) :=
    congrArg (fun found => (Except.ok found, run)) kept
  rw [lookUp, bind_run, found]
  rfl

/-- Without a kept credential the user is found or there is none; nothing but the log changes. -/
theorem lookUp_of_absent (absent : run.credentials.find? (Text.lower jurisdiction) = none) :
    ∃ entries, (office.lookUp jurisdiction).run run =
      (match office.user? (Text.lower jurisdiction) with
        | some login => .ok (.inr login)
        | none => .error (.authentication (.noUser jurisdiction)),
      { run with log := run.log ++ entries }) := by
  have found : (cached? (Text.lower jurisdiction)).run run = (.ok none, run) :=
    congrArg (fun found => (Except.ok found, run)) absent
  rw [lookUp, bind_run, found]
  cases office.user? (Text.lower jurisdiction) with
  | none => exact ⟨[], by rw [List.append_nil]; rfl⟩
  | some login => exact ⟨_, rfl⟩

/-- Storing a credential keeps the one that is there, and changes nothing but the cache. -/
theorem storeIfAbsent_run (key : String) (credential : Credential) :
    (storeIfAbsent key credential).run run =
      (.ok (run.credentials.keepFirst key credential).1,
        { run with credentials := (run.credentials.keepFirst key credential).2 }) := rfl

/-- Taking a credential out drops it where there is one, and changes nothing else. -/
theorem takeOut_run :
    (takeOut jurisdiction).run run =
      (.ok (run.credentials.find? (Text.lower jurisdiction)).isSome,
        if (run.credentials.find? (Text.lower jurisdiction)).isSome then
          { run with credentials := run.credentials.drop (Text.lower jurisdiction) }
        else run) := by
  have looked : (get : Flow σ (Run σ)).run run = (.ok run, run) := rfl
  rw [takeOut, bind_run, looked]
  cases found : (run.credentials.find? (Text.lower jurisdiction)).isSome with
  | true => simp only [found, if_true]; rfl
  | false => simp only [found, Bool.false_eq_true, if_false]; rfl

/-- Noting a removal changes nothing but the counter and the log. -/
theorem noteRemoval_run :
    ∃ entries, (noteRemoval jurisdiction).run run =
      (.ok (), { run with
        metrics := run.metrics.count (.credentialInvalidated (Text.lower jurisdiction))
        log := run.log ++ entries }) :=
  ⟨_, rfl⟩

end Office
end Mailroom
