import Mailroom.Peers

/-!
# Credentials of system users

Calls that the mail room makes for itself use a system user per jurisdiction.
Logging in is expensive, so the credential is kept and shared. It is dropped
only when the case store rejects it. Jurisdictions are told apart without
regard to case.

Getting a credential is split into steps, a look-up, a login and a store that
keeps what is there, because several workers may take them at the same time:
the first credential that is stored is the one that everybody uses.
-/

namespace Mailroom

namespace CredentialCache

/-- The credential that is kept for a jurisdiction. -/
def find? (cache : CredentialCache) (key : String) : Option Credential :=
  List.lookup key cache

/-- Keep a credential unless one is kept already; the one that is kept is the result. -/
def keepFirst (cache : CredentialCache) (key : String) (credential : Credential) :
    Credential × CredentialCache :=
  match cache.find? key with
  | some kept => (kept, cache)
  | none => (credential, cache ++ [(key, credential)])

/-- Drop the credential of a jurisdiction. -/
def drop (cache : CredentialCache) (key : String) : CredentialCache :=
  cache.filter fun entry => entry.1 != key

/-- After keeping, the kept credential is found. -/
theorem find?_keepFirst (cache : CredentialCache) (key : String) (credential : Credential) :
    find? (cache.keepFirst key credential).2 key = some (cache.keepFirst key credential).1 := by
  unfold keepFirst
  cases found : cache.find? key with
  | some kept => simpa using found
  | none =>
    have absent : List.lookup key cache = none := found
    simp [find?, List.lookup_append, absent]

end CredentialCache

namespace Office

variable {σ : Type}

/-- The key of a jurisdiction; one that is not named has none. -/
def jurisdictionKey (jurisdiction : Option String) : Except Fault String :=
  match jurisdiction with
  | some jurisdiction => .ok (Text.lower jurisdiction)
  | none => .error .noSuchOperation

/-- The system user of a jurisdiction; the last one counts when several names
differ in case only. -/
def user? (office : Office σ) (key : String) : Option Login :=
  (office.users.reverse.find? fun entry => Text.lower entry.1 == key).map (·.2)

/-- The credential that is kept under a key. -/
def cached? (key : String) : Flow σ (Option Credential) := do
  return (← get).credentials.find? key

/-- Store a credential unless one is there, and take the one that is there. -/
def storeIfAbsent (key : String) (credential : Credential) : Flow σ Credential := do
  let run ← get
  let (kept, credentials) := run.credentials.keepFirst key credential
  set { run with credentials }
  return kept

/-- Log a system user in and ask who the user is. -/
def logIn (office : Office σ) (login : Login) : Flow σ Credential := do
  let token ← Flow.ask (office.peers.login login)
  let details ← Flow.ask (office.peers.userDetails token)
  return ⟨token, details.id, details.email⟩

/-- The credential of a jurisdiction, from the cache or by a login. What other
workers do while this one logs in comes in as `meanwhile`. -/
def credentialWhile (office : Office σ) (meanwhile : Flow σ Unit) (jurisdiction : Option String) :
    Flow σ Credential := do
  let key ← Flow.reading (jurisdictionKey jurisdiction)
  match ← cached? key with
  | some credential => return credential
  | none =>
    let name := jurisdiction.getD ""
    match office.user? key with
    | none => Flow.fail (.authentication (.noUser name))
    | some login =>
      Flow.log .info ("Logging in IDAM user for jurisdiction " ++ name)
      meanwhile
      let credential ← office.logIn login
      storeIfAbsent key credential

/-- The credential of a jurisdiction. -/
def credential (office : Office σ) (jurisdiction : Option String) : Flow σ Credential :=
  office.credentialWhile (pure ()) jurisdiction

/-- Drop the credential of a jurisdiction, so that the next call logs in again. -/
def invalidate (jurisdiction : Option String) : Flow σ Unit := do
  let key ← Flow.reading (jurisdictionKey jurisdiction)
  let run ← get
  if (run.credentials.find? key).isSome then
    set { run with credentials := run.credentials.drop key }
    Flow.count (.credentialInvalidated key)
    Flow.log .info
      ("Removed cached IDAM credential for jurisdiction " ++ jurisdiction.getD "")

/-- Whether a credential is kept for a jurisdiction. -/
def isCached (jurisdiction : Option String) : Flow σ Bool := do
  let key ← Flow.reading (jurisdictionKey jurisdiction)
  return (← cached? key).isSome

end Office
end Mailroom
