import Mailroom.Proofs.Assurance
import Mailroom.Simulation.CaseBook
import Mathlib.Data.List.Forall2

/-!
# A case store that keeps its word

What may be relied on when the mail room works with a case store: a search for
a key finds exactly the stored cases of the types it names that hold the key, a
started update comes with the case as it is, a submission that succeeds stores
what was submitted and answers with the identity of the case, and an update
replaces the submitted members and nothing else. Any call may fail at any time,
and a submission that fails may have been carried out all the same.

Nothing is said of the state in which the collaborators keep what they know.
A view of it tells which states can occur and which cases a state holds; the
other collaborators leave both alone.
-/

namespace Mailroom

/-- The field of case data at the end of a path. -/
def dataField (path : List String) : String :=
  ".".intercalate ("data" :: path)

/-- Where a case names the envelopes that touched it. -/
def envelopePath : List String := [CaseField.bulkScanEnvelopes, "value", "id"]

/-- Where an exception record names its envelope. -/
def recordEnvelopePath : List String := [CaseField.envelopeId]

/-- Where a case names the exception record it was created from. -/
def caseRecordPath : List String := [CaseField.bulkScanCaseReference]

/-- The places of case data that are searched. -/
def searchPaths : List (List String) := [envelopePath, recordEnvelopePath, caseRecordPath]

namespace Case

/-- Whether the data of a case holds a text at the end of a path. -/
def holds (path : List String) (text : String) (case : Case) : Bool :=
  Simulation.CaseBook.holds text path (.obj case.data)

/-- Whether a case is of one of some types. -/
def isOfType (types : List String) (case : Case) : Bool :=
  match case.caseType with
  | .str caseType => types.contains caseType
  | _ => false

/-- A case as a creation leaves it: under an identity of its own, with the
submitted data. -/
structure Founded (caseType : Json) (data : Fields) (stored : List Case) (case : Case) :
    Prop where
  named : case.id.isSome
  fresh : ∀ other ∈ stored, other.id ≠ case.id
  caseType : case.caseType = caseType
  data : ∀ name, case.data.get? name = data.get? name

/-- A case as an update leaves it: the same case with the submitted members in
the place of the old ones. -/
structure Revised (data : Fields) (old new : Case) : Prop where
  id : new.id = old.id
  caseType : new.caseType = old.caseType
  data : ∀ name, new.data.get? name = (old.data.merge data).get? name

end Case

/-- A service whose cases can be searched for by their types. -/
structure Service.Searchable (service : Service) : Prop where
  some_types : service.caseTypes ≠ []
  whole_types : ∀ caseType ∈ service.caseTypes, ',' ∉ caseType.toList

/-- Services whose cases can be searched for, each by its types. -/
def Services.Searchable (services : Services) : Prop :=
  ∀ name service, services.get name = .ok service → service.Searchable

/-- How to look at the state of the collaborators: which states can occur, and
which cases they hold. -/
structure StoreView (σ : Type) where
  sound : σ → Prop
  cases : σ → List Case

namespace StoreView

variable {σ : Type} (view : StoreView σ)

/-- A state that can occur and holds cases with a property. -/
def Meets (property : List Case → Prop) (state : σ) : Prop :=
  view.sound state ∧ property (view.cases state)

/-- A state that can occur and holds exactly these cases. -/
abbrev Holds (stored : List Case) : σ → Prop :=
  view.Meets (· = stored)

end StoreView

/-- Collaborators that keep a property unless something is written: every
question but the start of an event and a submission leaves it in force. -/
structure Peers.Quiet {σ : Type} (peers : Peers σ) (kept : σ → Prop) : Prop where
  search : ∀ caller types query state, kept state →
    kept (peers.cases.search caller types query state).2
  fetch : ∀ caller reference state, kept state → kept (peers.cases.fetch caller reference state).2
  login : ∀ login state, kept state → kept (peers.login login state).2
  details : ∀ token state, kept state → kept (peers.userDetails token state).2
  lease : ∀ state, kept state → kept (peers.lease state).2
  transform : ∀ url request token state, kept state →
    kept (peers.transform url request token state).2
  pay : ∀ command state, kept state → kept (peers.pay command state).2

/-- A case was added to the stored ones, under the given identity. -/
def Added (caseType : Json) (data : Fields) (stored after : List Case) (id : Option Int) : Prop :=
  ∃ case : Case, case.Founded caseType data stored ∧ case.id = id ∧ after = stored ++ [case]

/-- The cases with a reference were updated, all others left as they were. -/
def Updated (reference : String) (data : Fields) : List Case → List Case → Prop :=
  List.Forall₂ fun old new =>
    if Case.idText old.id = reference then Case.Revised data old new else new = old

/-- What a submission was for has happened to the stored cases; a creation has
given the case this identity. -/
def Submitted (caseType : Json) (caseRef : Option String) (data : Fields)
    (stored after : List Case) (id : Option Int) : Prop :=
  match caseRef with
  | none => Added caseType data stored after id
  | some reference => Updated reference data stored after

/-- A case that is fetched is a stored one. -/
def Peers.FetchesStored {σ : Type} (peers : Peers σ) (view : StoreView σ) : Prop :=
  ∀ caller reference state case, view.sound state →
    (peers.cases.fetch caller reference state).1.result = .ok case → case ∈ view.cases state

/-- A target that is none yet, or is referred to by the text of its identity. -/
def CaseStore.Target.Identified (target : CaseStore.Target) : Prop :=
  ∀ reference, target.caseRef = some reference → ∃ id, Case.idText id = reference

/-- Collaborators that keep their word, as far as the keys go that are searched for. -/
structure Faithful {σ : Type} (peers : Peers σ) (view : StoreView σ) (keys : String → Prop) :
    Prop where
  /-- A search for a key finds the stored cases of the named types that hold it. -/
  search_exact : ∀ caller types path key state hits,
    view.sound state → types ≠ [] → (∀ caseType ∈ types, ',' ∉ caseType.toList) →
    path ∈ searchPaths → keys key →
    (peers.cases.search caller (",".intercalate types)
      (Office.matchQuery (dataField path) (.str key)) state).1.result = .ok hits →
    hits.Perm ((view.cases state).filter fun case => case.isOfType types && case.holds path key)
  /-- The start of an update comes with the stored case. -/
  start_current : ∀ caller target event state started reference,
    view.sound state → target.Identified → target.caseRef = some reference →
    (peers.cases.start caller target event state).1.result = .ok started →
    ∃ case ∈ view.cases state, Case.idText case.id = reference ∧ started.case = some case
  /-- A submission that succeeds is carried out, and a creation answers with the
  identity of the case; one that fails may have been carried out. -/
  submit : ∀ caller target submission state, view.sound state → target.Identified →
    view.sound (peers.cases.submit caller target submission state).2 ∧
    match (peers.cases.submit caller target submission state).1.result with
    | .ok answer => Submitted target.caseType target.caseRef submission.data (view.cases state)
        (view.cases (peers.cases.submit caller target submission state).2) answer.id
    | .error _ =>
      view.cases (peers.cases.submit caller target submission state).2 = view.cases state ∨
      ∃ id, Submitted target.caseType target.caseRef submission.data (view.cases state)
        (view.cases (peers.cases.submit caller target submission state).2) id
  /-- Nothing but a submission changes the stored cases. -/
  quiet : ∀ property, peers.Quiet (view.Meets property)
  start_quiet : ∀ property caller target event state, view.Meets property state →
    view.Meets property (peers.cases.start caller target event state).2

end Mailroom
