import Mailroom.Case
import Mailroom.Envelope

/-!
# What log lines say of an envelope
-/

namespace Mailroom.Envelope

/-- The name of the file that an envelope came in. -/
def fileText (envelope : Envelope) : String :=
  envelope.zipFileName.getD "None"

/-- The envelope and its file. -/
def fileContext (envelope : Envelope) : String :=
  "Envelope ID: " ++ envelope.id ++ ". File name: " ++ envelope.fileText ++ "."

/-- The envelope, its file, its service and the case it belongs to. -/
def logContext (envelope : Envelope) (caseId : Option String) : String :=
  envelope.fileContext ++ " Service: " ++ envelope.container ++ "." ++
    match caseId with
    | some id => " Case ID: " ++ id ++ "."
    | none => ""

end Mailroom.Envelope

namespace Mailroom

/-- Identities in a message. -/
def idList (separator : String) (ids : List (Option Int)) : String :=
  separator.intercalate (ids.map Case.idText)

end Mailroom
