import Mailroom.Fault
import Mailroom.Json.Display
import Mailroom.Schema.Scalar
import Mailroom.Text.Letter

/-!
# Services

A service is a tenant of the mail room: it has a jurisdiction, case types, an
address that turns envelopes into case data, and switches for what is done
without a caseworker. Services are looked up by name, and a later entry of a
name replaces an earlier one.
-/

namespace Mailroom

open Schema

/-- The configuration of a service. -/
structure Service where
  name : Option String
  jurisdiction : Option String
  transformationUrl : Option String
  caseTypes : List String
  createsCasesAutomatically : Bool
  createsCasesBeforePayments : Bool
  recordsEnvelopes : Bool
  deriving DecidableEq, Repr, Inhabited

namespace Service

/-- Check the configuration of a service. -/
def check : Json → Checked Service :=
  model "ServiceConfigItem" fun members =>
    Service.mk
    <$> maybe members "service" text
    <*> maybe members "jurisdiction" text
    <*> maybe members "transformation_url" text
    <*> optional members "case_type_ids" (list text) []
    <*> optional members "auto_case_creation_enabled" boolean false
    <*> optional members "allow_creating_case_before_payments_are_processed" boolean false
    <*> optional members "case_definition_has_envelope_ids" boolean false

/-- The configuration as a value. -/
def toJson (service : Service) : Json :=
  .obj [
    ("service", .ofText? service.name),
    ("jurisdiction", .ofText? service.jurisdiction),
    ("transformation_url", .ofText? service.transformationUrl),
    ("case_type_ids", .arr (service.caseTypes.map .str)),
    ("auto_case_creation_enabled", .bool service.createsCasesAutomatically),
    ("allow_creating_case_before_payments_are_processed", .bool service.createsCasesBeforePayments),
    ("case_definition_has_envelope_ids", .bool service.recordsEnvelopes)]

/-- The ending of the case types of exception records. -/
def recordSuffix : String := "_ExceptionRecord"

/-- The case type of the exception records of a service. -/
def recordCaseType (name : String) : String :=
  Text.upper name ++ recordSuffix

end Service

/-- The services by name. -/
structure Services where
  entries : List (String × Service)
  deriving Repr, Inhabited

/-- A service that was asked for and is not there. -/
structure UnknownService where
  name : Option String
  deriving DecidableEq, Repr

namespace UnknownService

/-- The wording of the failure. -/
def message (unknown : UnknownService) : String :=
  "Service " ++ unknown.name.getD "None" ++ " is not configured"

end UnknownService

namespace Services

/-- Put a service under its name, in the place of an earlier one. -/
def insert (entries : List (String × Service)) (name : String) (service : Service) :
    List (String × Service) :=
  if entries.any (·.1 == name) then
    entries.map fun entry => if entry.1 == name then (name, service) else entry
  else entries ++ [(name, service)]

/-- Collect the services that have a name. -/
def ofList (services : List Service) : Services :=
  ⟨services.foldl (fun entries service =>
    match service.name with
    | some name => if name.isEmpty then entries else insert entries name service
    | none => entries) []⟩

/-- The service with a name. -/
def get (services : Services) (name : Option String) : Except UnknownService Service :=
  match name.bind fun name => services.entries.lookup name with
  | some service => .ok service
  | none => .error ⟨name⟩

/-- The service that any value names: null names none, what is neither a text nor
a list or an object names one that is not there. -/
def find (services : Services) : Json → Except (UnknownService ⊕ Fault) Service
  | .arr _ | .obj _ => .error (.inr .wrongShape)
  | .null => (services.get none).mapError .inl
  | .str name => (services.get (some name)).mapError .inl
  | other => .error (.inl ⟨some other.display⟩)

/-- Whether cases of a service record the envelopes that changed them. -/
def recordsEnvelopes (services : Services) (name : Option String) : Bool :=
  match services.get name with
  | .ok service => service.recordsEnvelopes
  | .error _ => false

/-- The names of the services in the order of their characters. -/
def names (services : Services) : List String :=
  (services.entries.map (·.1)).mergeSort fun first second => !(second < first)

end Services
end Mailroom
