import Mailroom.Json

/-!
# Payment commands

The payments service is told which payments an envelope holds, and when they
move from an exception record to the case that was created from it.
-/

namespace Mailroom.Payments

/-- Register the payments of an envelope against a case or an exception record. -/
structure Create where
  envelopeId : String
  reference : String
  jurisdiction : String
  service : String
  poBox : Option String
  isRecord : Bool
  controlNumbers : List String
  deriving DecidableEq, Repr

/-- Move payments from an exception record to a case. The envelope and the
jurisdiction are whatever the record holds. -/
structure Update where
  recordId : String
  caseReference : String
  envelopeId : Json
  jurisdiction : Json

/-- A command to the payments service. -/
inductive Command where
  | create (command : Create)
  | update (command : Update)

namespace Command

/-- A command as a value. -/
def toJson : Command → Json
  | .create command => .obj [
      ("envelope_id", .str command.envelopeId),
      ("ccd_reference", .str command.reference),
      ("jurisdiction", .str command.jurisdiction),
      ("service", .str command.service),
      ("po_box", .ofText? command.poBox),
      ("is_exception_record", .bool command.isRecord),
      ("payments", .arr (command.controlNumbers.map fun number =>
        .obj [("document_control_number", .str number)]))]
  | .update command => .obj [
      ("exception_record_ref", .str command.recordId),
      ("new_case_ref", .str command.caseReference),
      ("envelope_id", command.envelopeId),
      ("jurisdiction", command.jurisdiction)]

/-- The method by which a command is sent. -/
def method : Command → String
  | .create _ => "POST"
  | .update _ => "PUT"

/-- What a command is about. -/
def subject : Command → String
  | .create command => "envelope " ++ command.envelopeId
  | .update command => "exception record " ++ command.recordId

end Command

/-- A command that was not delivered. -/
structure Failure where
  message : String
  deriving DecidableEq, Repr

end Mailroom.Payments
