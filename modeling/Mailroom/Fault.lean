import Mailroom.Text.Encodable

/-!
# Faults

A fault is a value that an operation cannot work with, where no rule of the
domain says what to do. It is told apart by what the operation asked of the
value: to be walked or converted, to offer an operation, to have a certain
content, or to have a member.
-/

namespace Mailroom

/-- Why an operation could not work with a value. -/
inductive Fault where
  /-- The value cannot be walked, converted or used as a name. -/
  | wrongShape
  /-- The value does not offer the operation, such as the members of a number. -/
  | noSuchOperation
  /-- The value has the right shape and a content that is none. -/
  | badContent
  /-- A member that must be there is missing. -/
  | missingMember (name : String)
  /-- A collaborator stopped without a report of its own. -/
  | interrupted (message : String)
  /-- A number is too large to be a whole number. -/
  | tooLarge
  /-- A structured setting is no JSON text. -/
  | unreadableSetting
  /-- An address is no URL. -/
  | badUrl
  /-- A text that goes out holds characters that its encoding does not have. -/
  | unencodable (found : Text.Unencodable)
  /-- A message in the agreed form holds such a text. -/
  | unwritable (found : Text.Unencodable)
  /-- A value that goes out is nested too deep. -/
  | tooNested
  /-- A text that was read holds lists or objects too deep inside each other. -/
  | tooDeep (isList : Bool)
  deriving DecidableEq, Repr

namespace Fault

/-- The kind of a fault as messages name it. -/
def kind : Fault → String
  | .wrongShape => "TypeError"
  | .noSuchOperation => "AttributeError"
  | .badContent => "ValueError"
  | .missingMember _ => "KeyError"
  | .interrupted _ => "RuntimeError"
  | .tooLarge => "OverflowError"
  | .unreadableSetting => "SettingsError"
  | .badUrl => "InvalidURL"
  | .unencodable _ => "UnicodeEncodeError"
  | .unwritable _ => "PydanticSerializationError"
  | .tooNested => "ValueError"
  | .tooDeep _ => "RecursionError"

/-- Whether a fault is about the content of a value that has the right shape. -/
def isContent : Fault → Bool
  | .badContent | .unencodable _ | .unwritable _ | .tooNested => true
  | _ => false

/-- The wording of a fault: what its report says, or its kind. -/
def message : Fault → String
  | .interrupted message => message
  | .missingMember name => "'" ++ name ++ "'"
  | .unencodable found => found.message
  | .unwritable found =>
    "Error serializing to JSON: " ++ (Fault.unencodable found).kind ++ ": " ++ found.message
  | .tooNested => "Circular reference detected (depth exceeded)"
  | .tooDeep isList =>
    "maximum recursion depth exceeded while decoding a JSON "
      ++ (if isList then "array" else "object") ++ " from a unicode string"
  | fault => fault.kind

end Fault

/-- A text that goes out must be one that its encoding has characters for. -/
def checkEncodable (repertoire : Text.Repertoire) (characters : List Char) : Except Fault Unit :=
  match Text.Unencodable.find? repertoire characters with
  | some found => .error (.unencodable found)
  | none => .ok ()

end Mailroom
