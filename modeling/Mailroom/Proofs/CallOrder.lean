import Mailroom.Proofs.OwnFailures
import Mailroom.Proofs.Transcript

/-!
# The order of calls

A write comes after what it needs: a login, unless a credential is kept, and a lease. Its calls
then stand one after the other, the start of the event, and the submission of what was drafted
from the answer, with nothing in between. Wherever the write breaks off, the transcript says how
far it came.
-/

namespace Mailroom

open Mailroom.Flow

/-- Whether a call is about credentials: a login, the question who was logged in, or a lease. -/
def Dealing.isAside : Dealing → Bool
  | .login .. | .details .. | .lease .. => true
  | _ => false

/-- A transcript that goes on with nothing but asides from where something held. -/
def Besides (kept : List Dealing → Prop) (said : List Dealing) : Prop :=
  ∃ earlier asides, said = earlier ++ asides ∧ kept earlier ∧ ∀ call ∈ asides, call.isAside

namespace Besides

variable {kept : List Dealing → Prop} {said : List Dealing}

/-- Where something holds, no aside is needed. -/
theorem here (held : kept said) : Besides kept said :=
  ⟨said, [], (List.append_nil said).symm, held, List.forall_mem_nil _⟩

/-- One more aside. -/
theorem aside (held : Besides kept said) {call : Dealing} (isAside : call.isAside) :
    Besides kept (said ++ [call]) := by
  obtain ⟨earlier, asides, rfl, isKept, areAsides⟩ := held
  refine ⟨earlier, asides ++ [call], List.append_assoc .., isKept, fun other isOther => ?_⟩
  rcases List.mem_append.mp isOther with before | last
  · exact areAsides other before
  · rw [List.mem_singleton.mp last]
    exact isAside

end Besides

/-- Collaborators whose answers about credentials fail in ways of one kind, as does the lack of a
system user. -/
structure Peers.Vouching {σ : Type} (peers : Peers σ) (kind : Failure → Prop) : Prop where
  unstaffed : ∀ name, kind (.authentication (.noUser name))
  login : ∀ login state failure, (peers.login login state).1.result = .error failure → kind failure
  details : ∀ token state failure,
    (peers.userDetails token state).1.result = .error failure → kind failure
  lease : ∀ state failure, (peers.lease state).1.result = .error failure → kind failure

/-- Any collaborators fail in some way. -/
theorem Peers.vouching_anyhow {σ : Type} (peers : Peers σ) : peers.Vouching fun _ => True where
  unstaffed _ := trivial
  login _ _ _ _ := trivial
  details _ _ _ _ := trivial
  lease _ _ _ := trivial

/-- Collaborators that fail in ways of their own refuse credentials by a failed authentication. -/
theorem Peers.Documented.vouching {σ : Type} {peers : Peers σ} (documented : peers.Documented) :
    peers.Vouching (·.IsOf .authentication) where
  unstaffed _ := .inl ⟨_, rfl⟩
  login := documented.login
  details := documented.details
  lease := documented.lease

/-- How a write ends, and with what transcript: before it was started, when it was started or
drafted in vain, or with the answer to its submission. -/
inductive WriteEnds (kept : List Dealing → Prop) (kind : Failure → Prop) (target : CaseStore.Target)
    (event : String) (draft : Office.Draft) : Except Failure Case → List Dealing → Prop where
  | unleased {failure said} (ofKind : kind failure) (before : Besides kept said) :
    WriteEnds kept kind target event draft (.error failure) said
  | unstarted {caller failure said} (before : Besides kept said) :
    WriteEnds kept kind target event draft (.error failure)
      (said ++ [.start caller target event (.error failure)])
  | undrafted {caller started failure said} (before : Besides kept said)
    (drafted : draft started = .error failure) :
    WriteEnds kept kind target event draft (.error failure)
      (said ++ [.start caller target event (.ok started)])
  | submitted {caller started submission answer said} (before : Besides kept said)
    (drafted : draft started = .ok submission) :
    WriteEnds kept kind target event draft answer
      (said ++ [.start caller target event (.ok started)] ++ [.submit caller target submission answer])

namespace Office

variable {σ : Type} {office : Office σ} {kept : List Dealing → Prop} {kind : Failure → Prop}

/-- A question about credentials is an aside, and fails as its collaborator does. -/
theorem ask_besides {α : Type} (call : Except Failure α → Dealing) (question : Ask σ α)
    (isAside : ∀ answer, (call answer).isAside)
    (fails : ∀ state failure, (question state).1.result = .error failure → kind failure) :
    (ask (Dealing.written call question)).Confines (fun state => Besides kept state.2) kind := by
  refine Assures.ask _ fun state held => ?_
  have further := held.aside (isAside (question state.1).1.result)
  dsimp only [Dealing.written]
  cases answered : (question state.1).1.result with
  | ok value =>
    rw [answered] at further
    exact further
  | error failure =>
    rw [answered] at further
    exact ⟨fails state.1 failure answered, further⟩

/-- Logging a system user in makes asides alone. -/
theorem logIn_besides (vouching : office.peers.Vouching kind) (login : Login) :
    (office.transcribed.logIn login).Confines (fun state => Besides kept state.2) kind :=
  Confines.bind (ask_besides (.login login) _ (fun _ => rfl) (vouching.login login)) fun token =>
    Confines.bind (ask_besides (.details token) _ (fun _ => rfl) (vouching.details token))
      fun _ => Confines.pure _

/-- So does getting the credential of a jurisdiction. -/
theorem credential_besides (vouching : office.peers.Vouching kind) (jurisdiction : String) :
    (office.transcribed.credential (some jurisdiction)).Confines
      (fun state => Besides kept state.2) kind :=
  credential_passes jurisdiction (fun _ _ held => ⟨vouching.unstaffed _, held⟩)
    (logIn_besides vouching)

/-- So does leasing a token. -/
theorem caller_besides (vouching : office.peers.Vouching kind) (userToken : String) :
    (office.transcribed.caller userToken).Confines (fun state => Besides kept state.2) kind :=
  Confines.bind (ask_besides .lease _ (fun _ => rfl) vouching.lease) fun _ => Confines.pure _

/-- The two phases of a write are two calls in a row. -/
theorem write_ends (caller : CaseStore.Caller) (target : CaseStore.Target) (event : String)
    (draft : Draft) (context : String) :
    (office.transcribed.write caller target event draft context).Tells (Besides kept)
      (fun case => WriteEnds kept kind target event draft (.ok case))
      (fun failure => WriteEnds kept kind target event draft (.error failure)) := by
  let begun (started : StartedEvent) : List Dealing → Prop := fun said =>
    ∃ before, Besides kept before ∧ said = before ++ [.start caller target event (.ok started)]
  have starts : (ask (office.transcribed.peers.cases.start caller target event)).Tells
      (Besides kept) begun
      fun failure => WriteEnds kept kind target event draft (.error failure) := by
    refine ask_tells (.start caller target event) _ fun said answer before => ?_
    cases answer with
    | ok started => exact ⟨said, before, rfl⟩
    | error failure => exact .unstarted before
  refine Assures.bind starts fun started => Assures.after_log ?_
  refine Assures.through (fun submission (state : σ × List Dealing) =>
    draft started = .ok submission ∧ begun started state.2) ?_ fun submission => ?_
  · cases drafted : draft started with
    | ok submission => exact Assures.pure submission fun _ held => ⟨rfl, held⟩
    | error failure =>
      refine Assures.fail failure ?_
      rintro ⟨state, said⟩ ⟨before, held, rfl⟩
      exact .undrafted held drafted
  · refine Assures.given fun drafted => ask_tells (.submit caller target submission) _ ?_
    rintro said answer ⟨before, held, rfl⟩
    cases answer with
    | ok case => exact .submitted held drafted
    | error failure => exact .submitted held drafted

/-- A write with the credential of a system user leases a token first. -/
theorem writeAs_ends (vouching : office.peers.Vouching kind) (credential : Credential)
    (jurisdiction : String) (caseType : Json) (caseRef : Option String) (event : String)
    (draft : Draft) (context : String) :
    let target : CaseStore.Target := ⟨credential.userId, some jurisdiction, caseType, caseRef⟩
    (office.transcribed.writeAs credential jurisdiction caseType caseRef event draft context).Tells
      (Besides kept) (fun case => WriteEnds kept kind target event draft (.ok case))
      (fun failure => WriteEnds kept kind target event draft (.error failure)) := by
  intro target
  have leases : (office.transcribed.caller credential.token).Tells (Besides kept)
      (fun _ => Besides kept)
      fun failure => WriteEnds kept kind target event draft (.error failure) :=
    (caller_besides vouching _).to_end (fun _ _ => id)
      fun _ _ refused => .unleased refused.1 refused.2
  exact guarded_passes jurisdiction
    (Assures.bind leases fun caller => write_ends caller target event draft context)

end Office
end Mailroom
