import Mailroom.Json
import Mailroom.Text.Hex
import Mailroom.Text.Surrogate

/-!
# Writing JSON

The text of a value. In ASCII every other character is a `\u` escape, those
beyond the basic plane as a surrogate pair, and a comma and a colon are followed
by a space. In compact form only what JSON requires is escaped, and nothing
follows a comma or a colon.
-/

namespace Mailroom.Json

open Text

/-- A `\u` escape of a number below `2^16`. -/
def unitEscape (unit : Nat) : List Char :=
  '\\' :: 'u' :: hexDigits 4 unit

/-- How a value is laid out. -/
inductive Form where
  | ascii
  | compact
  deriving DecidableEq, Repr

namespace Form

/-- What follows a comma or a colon. -/
def gap : Form → List Char
  | .ascii => [' ']
  | .compact => []

/-- Whether a character beyond the controls is escaped. -/
def escapes : Form → Char → Bool
  | .ascii, character => 0x7f ≤ character.toNat
  | .compact, _ => false

end Form

/-- A character as one escape, or two beyond the basic plane. -/
def pointUnits (point : Nat) : List Char :=
  if point < 0x10000 then unitEscape point
  else
    let offset := point - 0x10000
    unitEscape (0xd800 + offset / 0x400) ++ unitEscape (0xdc00 + offset % 0x400)

/-- One character as it stands in a JSON string. -/
def escapedChar (form : Form) (character : Char) : List Char :=
  if character = '"' then ['\\', '"']
  else if character = '\\' then ['\\', '\\']
  else if character = '\n' then ['\\', 'n']
  else if character = '\r' then ['\\', 'r']
  else if character = '\t' then ['\\', 't']
  else if character = Char.ofNat 0x08 then ['\\', 'b']
  else if character = Char.ofNat 0x0c then ['\\', 'f']
  else if character.toNat < 0x20 || form.escapes character then pointUnits (codePoint character)
  else [character]

/-- A text as a JSON string. -/
def writeString (form : Form) (text : String) : List Char :=
  '"' :: text.toList.flatMap (escapedChar form) ++ ['"']

/-- A number with a fraction, or one of the three names for what is no number. -/
def writeReal (value : Binary64) : List Char :=
  match value with
  | .infinite true => "-Infinity".toList
  | .infinite false => "Infinity".toList
  | .notANumber => "NaN".toList
  | value => value.text.toList

mutual
/-- The characters of a value. -/
def writeChars (form : Form) : Json → List Char
  | .null => "null".toList
  | .bool true => "true".toList
  | .bool false => "false".toList
  | .int value => (toString value).toList
  | .real value => writeReal value
  | .str text => writeString form text
  | .arr elements => '[' :: writeElements form elements ++ [']']
  | .obj members => '{' :: writeMembers form members ++ ['}']

/-- Elements with a comma between them. -/
def writeElements (form : Form) : List Json → List Char
  | [] => []
  | [element] => writeChars form element
  | element :: rest => writeChars form element ++ ',' :: (form.gap ++ writeElements form rest)

/-- Members with a comma between them. -/
def writeMembers (form : Form) : List (String × Json) → List Char
  | [] => []
  | [(name, value)] => writeString form name ++ ':' :: (form.gap ++ writeChars form value)
  | (name, value) :: rest =>
    writeString form name ++ ':' :: (form.gap ++ writeChars form value)
      ++ ',' :: (form.gap ++ writeMembers form rest)
end

/-- The text of a value in ASCII. -/
def write (value : Json) : String :=
  String.ofList (writeChars .ascii value)

end Mailroom.Json
