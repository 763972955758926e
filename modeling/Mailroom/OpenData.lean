import Mailroom.CaseField
import Mailroom.Fault
import Mailroom.Json.Display
import Mailroom.Text.Blank
import Mailroom.Text.Letter
import Mailroom.Text.Whole
import Mailroom.Time.IsoText

/-!
# Reading open data

Case data is open: any member may hold any value. The functions here take such
a value for what it is meant to be, a list, a moment, an answer yes, a whole
number or an object, and report a fault when it cannot be that.
-/

namespace Mailroom.OpenData

/-- Walk a value: the elements of a list, the characters of a text, the names
of an object. -/
def walk : Json → Except Fault (List Json)
  | .arr elements => .ok elements
  | .str text => .ok (text.toList.map fun character => .str character.toString)
  | .obj members => .ok (members.map fun member => .str member.1)
  | _ => .error .wrongShape

/-- Walk a value that says something; anything else counts as an empty list. -/
def walkFilled (value : Json) : Except Fault (List Json) :=
  if value.isVacant then .ok [] else walk value

/-- The members of an object. -/
def membersOf : Json → Except Fault Fields
  | .obj members => .ok members
  | _ => .error .noSuchOperation

/-- The members of an object, none for a value that says nothing. -/
def membersIfFilled (value : Json) : Except Fault Fields :=
  if value.isVacant then .ok [] else membersOf value

/-- The moment that a value holds; null and the empty text hold none. -/
def storedMoment : Json → Except Fault (Option Time.Moment)
  | .null => .ok none
  | .str text =>
    if text.isEmpty then .ok none
    else
      match Time.readIsoText text with
      | some moment => .ok (some moment)
      | none => .error .badContent
  | _ => .error .badContent

/-- A stored moment as it is written: on the clock, to the millisecond. -/
def writeMoment : Option Time.Moment → Json
  | some moment => .str moment.localText
  | none => .null

/-- Whether a value is the answer yes, in any case and with blanks around it. -/
def isYes : Json → Bool
  | .str text => Text.lower (Text.trim text) == "yes"
  | _ => false

/-- The whole number that a value holds: a text is read, a real number is cut,
a boolean counts as zero or one. -/
def wholeNumber : Json → Except Fault Int
  | .int value => .ok value
  | .bool value => .ok (if value then 1 else 0)
  | .str text =>
    match Text.readWhole text with
    | some value => .ok value
    | none => .error .badContent
  | .real value =>
    match value.truncate? with
    | some value => .ok value
    | none => .error (if value == .notANumber then .badContent else .tooLarge)
  | _ => .error .wrongShape

/-- A pair of a name and a value in a list that stands for an object: a list of
two elements or a text of two characters. A name is any scalar. -/
def pairOf (element : Json) : Except Fault (Json × Json) := do
  match ← walk element with
  | [.arr _, _] | [.obj _, _] => .error .wrongShape
  | [name, value] => .ok (name, value)
  | _ => .error .badContent

/-- Give a name its value: names that mean the same are one, and it keeps its
first spelling. -/
def setNamed (pairs : List (Json × Json)) (name value : Json) : List (Json × Json) :=
  match pairs with
  | [] => [(name, value)]
  | (known, old) :: rest =>
    if known.same name then (known, value) :: rest else (known, old) :: setNamed rest name value

/-- The object that pairs stand for. -/
def ofPairs (pairs : List (Json × Json)) : Fields :=
  let named := pairs.foldl (fun named pair => setNamed named pair.1 pair.2) []
  Fields.ofPairs (named.map fun pair => (pair.1.display, pair.2))

/-- The object that a value stands for: an object, or a list of pairs. -/
def asObject : Json → Except Fault Fields
  | .obj members => .ok members
  | .arr elements => ofPairs <$> elements.mapM pairOf
  | .str text => if text.isEmpty then .ok [] else .error .badContent
  | _ => .error .wrongShape

/-- The object inside a collection element, empty when there is none. -/
def elementValue : Json → Fields
  | .obj members =>
    match Fields.member members "value" with
    | .obj value => value
    | _ => []
  | _ => []

/-- A collection element that holds an object. -/
def element (value : Fields) : Json :=
  .obj [("value", .obj value)]

/-- What an element holds is what was put into it. -/
@[simp]
theorem elementValue_element (value : Fields) : elementValue (element value) = value := by
  simp [elementValue, element, Fields.member, Fields.get?]

end Mailroom.OpenData
