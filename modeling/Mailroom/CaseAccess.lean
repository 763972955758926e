import Mailroom.Credentials
import Mailroom.Json.Writer

/-!
# Access to the case store

Every call to the case store goes through here: fetching, searching by a key,
and writing in two phases. A call made with the credential of a system user
drops that credential when the store rejects it.
-/

namespace Mailroom.Office

variable {σ : Type}

/-- The query for cases that hold a phrase in one field. -/
def matchQuery (field : String) (phrase : Json) : String :=
  Json.write (.obj [("query", .obj [("match_phrase", .obj [(field, phrase)])])])

/-- The field of the reference in an older system. -/
def legacyIdField : String := "alias.previousServiceCaseReference"
/-- The field of an exception record that names its envelope. -/
def recordEnvelopeField : String := "data.envelopeId"
/-- The field of a case that names the envelopes that touched it. -/
def caseEnvelopeField : String := "data.bulkScanEnvelopes.value.id"
/-- The field of a case that names its exception record. -/
def caseRecordField : String := "data.bulkScanCaseReference"

/-- A fresh service token together with a user token. -/
def caller (office : Office σ) (userToken : String) : Flow σ CaseStore.Caller := do
  let serviceToken ← Flow.ask office.peers.lease
  return ⟨userToken, serviceToken⟩

/-- Do work that calls the store with a system credential; a rejected
credential is dropped before the failure goes on. -/
def guarded {α : Type} (jurisdiction : Option String) (work : Flow σ α) : Flow σ α := do
  match ← Flow.attempt work with
  | .ok value => return value
  | .error (.store failure) =>
    if failure.rejectsCredentials then invalidate jurisdiction
    Flow.fail (.store failure)
  | .error failure => Flow.fail failure

/-- The failure that stands for a case that could not be fetched. -/
def retrievalFailure (reference : String) (status : Option Nat) : CallFailure :=
  if status = some 404 then .caseNotFound reference
  else if status = some 400 then .invalidReference reference
  else .notRetrieved reference status

/-- Fetch a case. -/
def fetchCase (office : Office σ) (reference jurisdiction : String) : Flow σ Case := do
  let credential ← office.credential (some jurisdiction)
  let work : Flow σ Case := do
    let caller ← office.caller credential.token
    Flow.ask (office.peers.cases.fetch caller reference)
  match ← Flow.attempt (guarded (some jurisdiction) work) with
  | .ok case => return case
  | .error (.store failure) => Flow.fail (.call (retrievalFailure reference failure.status?))
  | .error failure => Flow.fail failure

/-- The configuration of a service. -/
def serviceNamed (office : Office σ) (name : Option String) : Flow σ Service :=
  match office.services.get name with
  | .ok service => pure service
  | .error unknown => Flow.fail (.unknownService unknown)

/-- Search cases of some types by a field, as the system user of a service. -/
def searchIds (office : Office σ) (service : Service) (caseTypes field value : String) :
    Flow σ (List (Option Int)) := do
  let credential ← office.credential service.jurisdiction
  let work : Flow σ (List Case) := do
    let caller ← office.caller credential.token
    Flow.ask (office.peers.cases.search caller caseTypes (matchQuery field (.str value)))
  let cases ← guarded service.jurisdiction work
  return cases.map (·.id)

/-- The case types of a service as a search names them. -/
def caseTypeList (service : Service) : String :=
  ",".intercalate service.caseTypes

/-- Search the cases of a service by a field; without case types there is
nothing to search. -/
def searchServiceCases (office : Office σ) (name field value description : String) :
    Flow σ (List (Option Int)) := do
  let service ← office.serviceNamed (some name)
  if service.caseTypes.isEmpty then
    Flow.log .info ("Skipping case search by " ++ description ++ " (" ++ value ++ ") for service "
      ++ name ++ " because it has no case type ID configured")
    return []
  else office.searchIds service (caseTypeList service) field value

/-- Cases with a reference of an older system. -/
def casesByLegacyId (office : Office σ) (legacyId service : String) : Flow σ (List (Option Int)) :=
  office.searchServiceCases service legacyIdField legacyId "legacy ID"

/-- Cases that an envelope created or changed. -/
def casesByEnvelope (office : Office σ) (envelopeId service : String) :
    Flow σ (List (Option Int)) :=
  office.searchServiceCases service caseEnvelopeField envelopeId "envelope ID"

/-- Exception records that stand in for an envelope. -/
def recordsByEnvelope (office : Office σ) (envelopeId name : String) :
    Flow σ (List (Option Int)) := do
  let service ← office.serviceNamed (some name)
  office.searchIds service (Service.recordCaseType name) recordEnvelopeField envelopeId

/-- Cases that were created from an exception record. -/
def casesByRecord (office : Office σ) (recordId : String) (name : Option String) :
    Flow σ (List (Option Int)) := do
  let service ← office.serviceNamed name
  office.searchIds service (caseTypeList service) caseRecordField recordId

/-- What is written after an event was started, given what the start answered. -/
abbrev Draft := StartedEvent → Except Failure Submission

/-- What a log line says of an event on a target. -/
def eventContext (event : String) (target : CaseStore.Target) : String :=
  "Event: " ++ event ++ ", case type: " ++ target.caseType.display ++
    match target.caseRef with
    | some reference => ", case ref: " ++ reference
    | none => ""

/-- Write in two phases: start the event, make the submission from the answer
and submit it, all with the same credentials and on the same target. -/
def write (office : Office σ) (caller : CaseStore.Caller) (target : CaseStore.Target)
    (event : String) (draft : Draft) (context : String) : Flow σ Case := do
  let started ← Flow.ask (office.peers.cases.start caller target event)
  Flow.log .info ("Started event in CCD. " ++ eventContext event target ++ ". " ++ context)
  let submission ← Flow.lift (draft started)
  Flow.ask (office.peers.cases.submit caller target submission)

/-- Write with the credential of a system user. -/
def writeAs (office : Office σ) (credential : Credential) (jurisdiction : String) (caseType : Json)
    (caseRef : Option String) (event : String) (draft : Draft) (context : String) : Flow σ Case :=
  guarded (some jurisdiction) do
    let caller ← office.caller credential.token
    office.write caller ⟨credential.userId, some jurisdiction, caseType, caseRef⟩ event draft context

/-- Create a case as the system user of a jurisdiction. -/
def createCase (office : Office σ) (jurisdiction caseType event : String) (draft : Draft)
    (context : String) : Flow σ (Option Int) := do
  let credential ← office.credential (some jurisdiction)
  let case ← office.writeAs credential jurisdiction (.str caseType) none event draft context
  return case.id

/-- Create an exception record with a credential that is at hand. -/
def createRecord (office : Office σ) (credential : Credential) (jurisdiction caseType event : String)
    (draft : Draft) (context : String) : Flow σ Case :=
  office.writeAs credential jurisdiction (.str caseType) none event draft context

/-- Attach documents to a case by an event on it. A case that is not there is a
failure of its own, and leaves the credential alone. -/
def attachDocuments (office : Office σ) (credential : Credential) (jurisdiction : String)
    (caseType : Json) (caseRef event : String) (draft : Draft) (context : String) :
    Flow σ Unit := do
  let work := office.writeAs credential jurisdiction caseType (some caseRef) event draft context
  match ← Flow.attempt work with
  | .ok _ => return
  | .error (.store failure) =>
    if failure.status? = some 404 then
      Flow.fail (.call (.unableToAttach event caseType.display caseRef))
    else Flow.fail (.call (.notAttached caseRef failure.status?))
  | .error failure => Flow.fail failure

/-- Create a case with the credentials of a caseworker, which are never kept. -/
def createForCaseworker (office : Office σ) (caller : CaseStore.Caller) (userId : String)
    (jurisdiction : Option String) (caseType event : String) (draft : Draft) (context : String) :
    Flow σ (Option Int) := do
  let case ← office.write caller ⟨.str userId, jurisdiction, .str caseType, none⟩ event draft context
  return case.id

end Mailroom.Office
