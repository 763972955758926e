import Mailroom.Document.Collection
import Mailroom.Json.Reader
import Mailroom.Number.RealText
import Mailroom.Service

/-!
# Settings

The settings are read from named texts. Users and services are JSON texts; a
JSON null counts as not set. Everything has a default for a local set-up.
-/

namespace Mailroom

open Schema

/-- The name and password of a system user. -/
structure Login where
  username : String
  password : String
  deriving DecidableEq, Repr

/-- The settings of the mail room. -/
structure Settings where
  caseStoreUrl : String
  identityUrl : String
  clientId : String
  clientSecret : String
  redirectUri : String
  users : List (String × Login)
  leaseUrl : String
  leaseName : String
  documentUrl : String
  documentPath : String
  paymentsUrl : String
  timeout : Binary64
  services : List Service
  brokerUrl : String
  resultBackend : Option String
  queueName : String
  logLevel : String
  logsJson : Bool
  environment : String

namespace Settings

/-- Check a real number that stands in a text. -/
def real : Json → Checked Binary64
  | .str value => whole (fun value =>
      match Binary64.ofText? value with
      | some value => .accepted value
      | none => .refuse .notNumberText) value
  | .int value => .accepted (.ofInt value)
  | .real value => .accepted value
  | .bool value => .accepted (.ofInt (if value then 1 else 0))
  | _ => .refuse .notNumber

/-- Check a login. -/
def checkLogin : Json → Checked Login :=
  model "IdamUserCredentials" fun members =>
    Login.mk <$> required members "username" text <*> required members "password" text

/-- Check the logins by jurisdiction. -/
def checkUsers : List (String × Json) → Checked (List (String × Login))
  | [] => .accepted []
  | (name, value) :: rest =>
    (Checked.map (fun login users => (name, login) :: users)
      ((checkLogin value).inside (.member name))).apply fun _ => checkUsers rest

/-- Check an object of logins. -/
def usersObject : Json → Checked (List (String × Login))
  | .obj members => checkUsers members
  | _ => .refuse .notObject

/-- Check the settings that are given and take defaults for the others. -/
def check (members : Fields) : Checked Settings :=
  Settings.mk
  <$> optional members "CCD_API_URL" text "http://localhost:4452"
  <*> optional members "IDAM_API_URL" text "http://localhost:5000"
  <*> optional members "IDAM_CLIENT_ID" text "bsp"
  <*> optional members "IDAM_CLIENT_SECRET" text "dev-client-secret"
  <*> optional members "IDAM_REDIRECT_URI" text "http://localhost/receiver"
  <*> optional members "IDAM_USERS" usersObject []
  <*> optional members "S2S_URL" text "http://localhost:4552"
  <*> optional members "S2S_NAME" text "bulk_scan_orchestrator"
  <*> optional members "DOCUMENT_MANAGEMENT_URL" text "http://localhost:3453"
  <*> optional members "DOCUMENT_MANAGEMENT_CONTEXT_PATH" text "documents"
  <*> optional members "PAYMENTS_API_URL" text "http://localhost:8583"
  <*> optional members "HTTP_TIMEOUT_SECONDS" real (.ofInt 30)
  <*> optional members "SERVICE_CONFIG" (list Service.check) []
  <*> optional members "CELERY_BROKER_URL" text "redis://localhost:6379/0"
  <*> maybe members "CELERY_RESULT_BACKEND" text
  <*> optional members "ENVELOPES_QUEUE_NAME" text "envelopes"
  <*> optional members "LOG_LEVEL" text "INFO"
  <*> optional members "LOG_JSON" boolean true
  <*> optional members "ENVIRONMENT" text "development"

/-- Settings whose texts are JSON. -/
def structured : List String := ["IDAM_USERS", "SERVICE_CONFIG"]

/-- The value of a setting; a structured one that is null is not set. -/
def valueOf (name text : String) : Except Fault (Option Json) :=
  if structured.contains name then
    match Json.read text with
    | .ok .null => .ok none
    | .ok value => .ok (some value)
    | .error (.tooDeep isList) => .error (.tooDeep isList)
    | .error _ => .error .unreadableSetting
  else .ok (some (.str text))

/-- The values of named texts. -/
def valuesOf : List (String × String) → Except Fault Fields
  | [] => .ok []
  | (name, text) :: rest => do
    let value ← valueOf name text
    let values ← valuesOf rest
    return (value.map fun value => (name, value)).toList ++ values

/-- Settings as values, the timeout as text. -/
def toJson (settings : Settings) : Json :=
  .obj [
    ("CCD_API_URL", .str settings.caseStoreUrl),
    ("IDAM_API_URL", .str settings.identityUrl),
    ("IDAM_CLIENT_ID", .str settings.clientId),
    ("IDAM_CLIENT_SECRET", .str settings.clientSecret),
    ("IDAM_REDIRECT_URI", .str settings.redirectUri),
    ("IDAM_USERS", .obj (settings.users.map fun (name, login) =>
      (name, .obj [("username", .str login.username), ("password", .str login.password)]))),
    ("S2S_URL", .str settings.leaseUrl),
    ("S2S_NAME", .str settings.leaseName),
    ("DOCUMENT_MANAGEMENT_URL", .str settings.documentUrl),
    ("DOCUMENT_MANAGEMENT_CONTEXT_PATH", .str settings.documentPath),
    ("PAYMENTS_API_URL", .str settings.paymentsUrl),
    ("HTTP_TIMEOUT_SECONDS", .str settings.timeout.text),
    ("SERVICE_CONFIG", .arr (settings.services.map Service.toJson)),
    ("CELERY_BROKER_URL", .str settings.brokerUrl),
    ("CELERY_RESULT_BACKEND", .ofText? settings.resultBackend),
    ("ENVELOPES_QUEUE_NAME", .str settings.queueName),
    ("LOG_LEVEL", .str settings.logLevel),
    ("LOG_JSON", .bool settings.logsJson),
    ("ENVIRONMENT", .str settings.environment)]

/-- Where documents are kept. -/
def documentStore (settings : Settings) : Document.Store :=
  ⟨settings.documentUrl, settings.documentPath⟩

end Settings
end Mailroom
