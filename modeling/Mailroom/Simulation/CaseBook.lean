import Mailroom.CaseAccess
import Mailroom.Json.Reader

/-!
# A case store in memory

A store that keeps its cases in order and binds every token to the event, the
case type and the case it was issued for; a token is used up by the first
submission that names it. Searches find exactly the cases that hold the value.

Failures and interventions can be planned: the next call of an operation fails,
or something happens to the store just before it is carried out.
-/

namespace Mailroom.Simulation

/-- The operations of a case store. -/
inductive Operation where
  | search
  | fetch
  | startUpdate
  | startCreate
  | submitUpdate
  | submitCreate
  deriving DecidableEq, Repr

namespace Operation

/-- The name of an operation. -/
def name : Operation → String
  | .search => "search_cases"
  | .fetch => "get_case"
  | .startUpdate => "start_event_for_case"
  | .startCreate => "start_for_create"
  | .submitUpdate => "submit_event_for_case"
  | .submitCreate => "submit_for_create"

/-- All operations. -/
def all : List Operation :=
  [.search, .fetch, .startUpdate, .startCreate, .submitUpdate, .submitCreate]

/-- The operation with a name. -/
def ofName? (name : String) : Option Operation :=
  all.find? (·.name == name)

end Operation

/-- How a planned failure shows. -/
inductive PlannedFailure where
  | status (status : Option Nat)
  | crash
  deriving DecidableEq, Repr

/-- What happens to the store before a call. -/
inductive Intervention where
  | dropTokens
  | delete (id : Int)
  | merge (id : Int) (data : Fields)

/-- What a token was issued for. -/
structure TokenBinding where
  caseType : Json
  caseId : Option Int
  event : String

/-- A store in memory. -/
structure CaseBook where
  cases : List (Int × Case) := []
  legacyIds : List (Int × String) := []
  nextId : Int := 1539007368674001
  tokens : List (String × TokenBinding) := []
  tokenCount : Nat := 0
  failures : List (Operation × PlannedFailure) := []
  interventions : List (Operation × Intervention) := []
  /-- Whether a started update comes with the case as it is. -/
  snapshots : Bool := true
  calls : List Json := []

namespace CaseBook

/-- Put a case under an identity, in the place of an earlier one. -/
def put (cases : List (Int × Case)) (id : Int) (case : Case) : List (Int × Case) :=
  if cases.any (·.1 == id) then cases.map fun entry => if entry.1 == id then (id, case) else entry
  else cases ++ [(id, case)]

/-- The case with an identity. -/
def find? (book : CaseBook) (id : Int) : Option Case :=
  book.cases.lookup id

/-- Add a case, under a new identity unless it has one. -/
def add (book : CaseBook) (case : Case) (legacyId : Option String) : Case × CaseBook :=
  let (id, nextId) := match case.id with
    | some id => (id, book.nextId)
    | none => (book.nextId, book.nextId + 1)
  let case := { case with id := some id }
  let legacyIds := match legacyId with
    | some legacyId => (id, legacyId) :: book.legacyIds
    | none => book.legacyIds
  (case, { book with cases := put book.cases id case, nextId, legacyIds })

/-- The case that a reference of digits names. -/
def caseOfReference? (book : CaseBook) (reference : String) : Option Case :=
  if Text.isAsciiDigits reference then (Text.readWhole reference).bind book.find? else none

mutual
/-- Whether some value at the end of a path has a text. Lists on the way are
entered element by element; a list at the end has none. -/
def holds (text : String) : List String → Json → Bool
  | [], .str value => value == text
  | [], .int value => toString value == text
  | [], _ => false
  | path, .arr elements => anyHolds text path elements
  | name :: path, .obj members => memberHolds text name path members
  | _, _ => false

/-- Whether some element holds the text. -/
def anyHolds (text : String) : List String → List Json → Bool
  | _, [] => false
  | path, element :: rest => holds text path element || anyHolds text path rest

/-- Whether the member with a name holds the text. -/
def memberHolds (text name : String) : List String → List (String × Json) → Bool
  | _, [] => false
  | path, (key, value) :: rest =>
    if key = name then holds text path value else memberHolds text name path rest
end

/-- Whether a case matches a field and a value. -/
def isMatch (book : CaseBook) (field value : String) (id : Int) (case : Case) : Bool :=
  if field = Office.legacyIdField then book.legacyIds.lookup id == some value
  else
    match (Text.splitOn '.' field.toList).map String.ofList with
    | "data" :: path => holds value path (.obj case.data)
    | _ => false

/-- The field and value of a query. -/
def readQuery (query : String) : Option (String × String) :=
  match Json.read query with
  | .ok (.obj [("query", .obj [("match_phrase", .obj [(field, .str value)])])]) => some (field, value)
  | _ => none

/-- The cases of some types that match a query, in order. -/
def matching (book : CaseBook) (caseTypes query : String) : List Case :=
  let types := (Text.splitOn ',' caseTypes.toList).map String.ofList
  match readQuery query with
  | none => []
  | some (field, value) =>
    (book.cases.filter fun (id, case) =>
      (match case.caseType with
        | .str caseType => types.contains caseType
        | _ => false) && book.isMatch field value id case).map (·.2)

/-- Note a call. -/
def note (book : CaseBook) (operation : Operation) (caller : CaseStore.Caller)
    (arguments : Fields) : CaseBook :=
  { book with calls := book.calls ++ [.obj (
    [("op", .str operation.name), ("user_token", .str caller.userToken),
      ("service_token", .str caller.serviceToken)] ++ arguments)] }

/-- Take the first entry planned for an operation. -/
def takeFirst {α : Type} (operation : Operation) :
    List (Operation × α) → Option α × List (Operation × α)
  | [] => (none, [])
  | (other, entry) :: rest =>
    if other = operation then (some entry, rest)
    else
      let (found, rest) := takeFirst operation rest
      (found, (other, entry) :: rest)

/-- Carry out an intervention. -/
def intervene (book : CaseBook) : Intervention → CaseBook
  | .dropTokens => { book with tokens := [] }
  | .delete id => { book with cases := book.cases.filter (·.1 != id) }
  | .merge id data =>
    { book with cases := book.cases.map fun (other, case) =>
        if other == id then (other, { case with data := case.data.merge data }) else (other, case) }

/-- The failure that a plan causes. -/
def plannedFailure (operation : Operation) : PlannedFailure → Failure
  | .status status => .store (.reported ("Simulated " ++ operation.name ++ " failure") status)
  | .crash => .faulty (.interrupted ("Simulated " ++ operation.name ++ " failure"))

/-- Carry out a call: note it, fail if that is planned, intervene if that is
planned, and act. -/
def call {α : Type} (operation : Operation) (caller : CaseStore.Caller) (arguments : Fields)
    (act : CaseBook → Except Failure α × CaseBook) (book : CaseBook) : Except Failure α × CaseBook :=
  let book := book.note operation caller arguments
  match takeFirst operation book.failures with
  | (some planned, failures) => (.error (plannedFailure operation planned), { book with failures })
  | (none, _) =>
    match takeFirst operation book.interventions with
    | (some intervention, interventions) => act ({ book with interventions }.intervene intervention)
    | (none, _) => act book

/-- The failure for a case that is not there. -/
def notFound (reference : String) : Failure :=
  .store (.reported ("Case " ++ reference ++ " not found") (some 404))

/-- Fetch a case. -/
def fetch (reference : String) (book : CaseBook) : Except Failure Case × CaseBook :=
  if !Text.isAsciiDigits reference then
    (.error (.store (.reported ("Invalid case reference " ++ reference) (some 400))), book)
  else
    match book.caseOfReference? reference with
    | some case => (.ok case, book)
    | none => (.error (notFound reference), book)

/-- Issue a token. -/
def issue (book : CaseBook) (binding : TokenBinding) : String × CaseBook :=
  let token := "event-token-" ++ toString (book.tokenCount + 1)
  (token, { book with tokens := book.tokens ++ [(token, binding)], tokenCount := book.tokenCount + 1 })

/-- Start an event. -/
def start (target : CaseStore.Target) (event : String) (book : CaseBook) :
    Except Failure StartedEvent × CaseBook :=
  match target.caseRef with
  | none =>
    let (token, book) := book.issue ⟨target.caseType, none, event⟩
    (.ok ⟨.str token, .str event, none⟩, book)
  | some reference =>
    match book.caseOfReference? reference with
    | none => (.error (notFound reference), book)
    | some case =>
      let (token, book) := book.issue ⟨target.caseType, case.id, event⟩
      (.ok ⟨.str token, .str event, if book.snapshots then some case else none⟩, book)

/-- Whether a token was issued for a submission on a case. -/
def isIssuedFor (binding : TokenBinding) (target : CaseStore.Target) (caseId : Option Int)
    (submission : Submission) : Bool :=
  binding.caseType.same target.caseType && binding.caseId == caseId &&
    submission.event.id.same (.str binding.event)

/-- Use a token up; it must have been issued for the submission. -/
def useToken (book : CaseBook) (target : CaseStore.Target) (caseId : Option Int)
    (submission : Submission) : Except Failure Unit × CaseBook :=
  let token := submission.token.display
  let binding? := book.tokens.lookup token
  let book := { book with tokens := book.tokens.filter (·.1 != token) }
  match binding? with
  | some binding =>
    if isIssuedFor binding target caseId submission then (.ok (), book)
    else (.error (invalid token), book)
  | none => (.error (invalid token), book)
where
  /-- The failure for a token that was issued for something else. -/
  invalid (token : String) : Failure :=
    .store (.reported ("Event token " ++ token ++ " is not valid for this event") (some 409))

/-- Create a case from a submission. -/
def submitCreate (target : CaseStore.Target) (submission : Submission) (book : CaseBook) :
    Except Failure Case × CaseBook :=
  match book.useToken target none submission with
  | (.error failure, book) => (.error failure, book)
  | (.ok _, book) =>
    let (case, book) := book.add {
      jurisdiction := .ofText? target.jurisdiction
      caseType := target.caseType
      state := .str "ScannedRecordReceived"
      data := submission.data } none
    (.ok case, book)

/-- Update a case from a submission. -/
def submitUpdate (target : CaseStore.Target) (reference : String) (submission : Submission)
    (book : CaseBook) : Except Failure Case × CaseBook :=
  match book.caseOfReference? reference with
  | none => (.error (notFound reference), book)
  | some case =>
    match book.useToken target case.id submission with
    | (.error failure, book) => (.error failure, book)
    | (.ok _, book) =>
      let updated := { case with data := case.data.merge submission.data }
      (.ok updated, { book with cases := put book.cases (case.id.getD 0) updated })

/-- What is noted of a target. -/
def targetArguments (target : CaseStore.Target) : Fields :=
  [("user_id", target.userId), ("jurisdiction", .ofText? target.jurisdiction),
    ("case_type_id", target.caseType)] ++
    (target.caseRef.map fun reference => ("case_ref", Json.str reference)).toList

/-- A call as a question to a store that is part of a larger state. -/
def asked {α σ : Type} (get : σ → CaseBook) (set : CaseBook → σ → σ)
    (work : CaseBook → Except Failure α × CaseBook) : Ask σ α := fun state =>
  let (result, book) := work (get state)
  (⟨result, []⟩, set book state)

/-- The questions to a store in memory that is part of a larger state. -/
def questions {σ : Type} (get : σ → CaseBook) (set : CaseBook → σ → σ) :
    CaseStore.Questions σ :=
  { search := fun caller caseTypes query => asked get set
      (call .search caller [("case_type_ids", .str caseTypes), ("query", .str query)]
        fun book => (.ok (book.matching caseTypes query), book))
    fetch := fun caller reference => asked get set
      (call .fetch caller [("case_ref", .str reference)] (fetch reference))
    start := fun caller target event => asked get set
      (call (if target.caseRef.isSome then .startUpdate else .startCreate) caller
        (targetArguments target ++ [("event_id", .str event)]) (start target event))
    submit := fun caller target submission =>
      let arguments := targetArguments target ++ [("content", submission.toJson)]
      match target.caseRef with
      | none => asked get set (call .submitCreate caller arguments (submitCreate target submission))
      | some reference => asked get set
        (call .submitUpdate caller arguments (submitUpdate target reference submission)) }

end CaseBook
end Mailroom.Simulation
