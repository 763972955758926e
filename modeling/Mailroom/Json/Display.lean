import Mailroom.Json
import Mailroom.Text.Quoted

/-!
# Values in messages

A value inside a message shows as plain text when it is a text, and otherwise
in display form: `None`, `True` and `False`, numbers in their shortest form,
lists in brackets and objects in braces, texts inside them quoted.
-/

namespace Mailroom.Json

mutual
/-- The display form of a value. -/
def displayForm : Json → String
  | .null => "None"
  | .bool true => "True"
  | .bool false => "False"
  | .int value => toString value
  | .real value => value.text
  | .str text => Text.quoted text
  | .arr elements => "[" ++ displayElements elements ++ "]"
  | .obj members => "\x7b" ++ displayMembers members ++ "\x7d"

/-- Elements in display form, separated by a comma and a space. -/
def displayElements : List Json → String
  | [] => ""
  | [element] => displayForm element
  | element :: rest => displayForm element ++ ", " ++ displayElements rest

/-- Members in display form, separated by a comma and a space. -/
def displayMembers : List (String × Json) → String
  | [] => ""
  | [(name, value)] => Text.quoted name ++ ": " ++ displayForm value
  | (name, value) :: rest =>
    Text.quoted name ++ ": " ++ displayForm value ++ ", " ++ displayMembers rest
end

/-- A value inside a message. -/
def display : Json → String
  | .str text => text
  | value => value.displayForm

end Mailroom.Json
