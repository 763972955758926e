import Mailroom.Fault
import Mailroom.Json.Display
import Mailroom.Number.Places
import Mailroom.Text.Hex

/-!
# Message templates

A message is a template and the values for its places. A place starts with a
percent sign; it may name the value it takes, say how wide it is and how many
digits or characters it shows, and ends in the letter of its conversion. Two
percent signs stand for one.

A template is read by a machine that looks at one character at a time, so
reading it is one pass over its characters. Places are then filled from left to
right, each taking the next value, and no value may be left over. When the
values are the members of one object, a place takes the member that it names.
-/

namespace Mailroom.Log

/-- A count that a place states: none, a number, the next value, or a number
beyond all bounds. -/
inductive Amount where
  | absent
  | fixed (count : Nat)
  | taken
  | excessive
  deriving DecidableEq, Repr

/-- Which value a place takes. -/
inductive Choice where
  | next
  | named (name : String)
  | unfinished
  deriving DecidableEq, Repr

/-- A place of a template. Without a conversion it is unfinished. -/
structure Place where
  choice : Choice := .next
  leftAligned : Bool := false
  signed : Bool := false
  blankSigned : Bool := false
  alternate : Bool := false
  zeroFilled : Bool := false
  width : Amount := .absent
  precision : Amount := .absent
  conversion : Option Char := none
  deriving DecidableEq, Repr

/-- A part of a template. -/
inductive Piece where
  | literal (character : Char)
  | place (place : Place)
  deriving DecidableEq, Repr

/-- The part of a place that comes next. -/
inductive Part where
  | flags
  | width
  | precisionMark
  | precisionStart
  | precision
  | lengthMark
  | conversion
  deriving DecidableEq, Repr

/-- Where the reader of a template stands. -/
inductive Stage where
  | plain
  | opened
  | naming (depth : Nat) (reversed : List Char)
  | inside (part : Part) (place : Place)

/-- The greatest width a place can state. -/
def maxWidth : Nat := 0x7FFFFFFFFFFFFFFF

/-- The greatest precision a place can state. -/
def maxPrecision : Nat := 0x7FFFFFFF

/-- A count with one more digit. -/
def Amount.extend (limit : Nat) (digit : Nat) : Amount → Amount
  | .fixed count =>
    let count := count * 10 + digit
    if limit < count then .excessive else .fixed count
  | .excessive => .excessive
  | _ => .fixed digit

/-- The value of an ASCII digit in a template. -/
def digitOf? (character : Char) : Option Nat :=
  if '0' ≤ character && character ≤ '9' then some (character.toNat - '0'.toNat) else none

/-- The place with a flag set, if the character is one. -/
def Place.withFlag? (place : Place) : Char → Option Place
  | '-' => some { place with leftAligned := true }
  | '+' => some { place with signed := true }
  | ' ' => some { place with blankSigned := true }
  | '#' => some { place with alternate := true }
  | '0' => some { place with zeroFilled := true }
  | _ => none

/-- End a place with its conversion. -/
def Place.finish (place : Place) (character : Char) : Stage × Option Piece :=
  (.plain, some (.place { place with conversion := some character }))

/-- Read a length mark, which says nothing, or the conversion. -/
def Place.readLengthMark (place : Place) (character : Char) : Stage × Option Piece :=
  if character = 'h' || character = 'l' || character = 'L' then (.inside .conversion place, none)
  else place.finish character

/-- Read the point before a precision. -/
def Place.readPrecisionMark (place : Place) (character : Char) : Stage × Option Piece :=
  if character = '.' then (.inside .precisionStart { place with precision := .fixed 0 }, none)
  else place.readLengthMark character

/-- Read the first character of a precision. -/
def Place.readPrecisionStart (place : Place) (character : Char) : Stage × Option Piece :=
  if character = '*' then (.inside .lengthMark { place with precision := .taken }, none)
  else
    match digitOf? character with
    | some digit => (.inside .precision { place with precision := .fixed digit }, none)
    | none => place.readLengthMark character

/-- Read a digit of a precision, or what follows it. -/
def Place.readPrecision (place : Place) (character : Char) : Stage × Option Piece :=
  match digitOf? character with
  | some digit =>
    (.inside .precision { place with precision := place.precision.extend maxPrecision digit }, none)
  | none => place.readLengthMark character

/-- Read a digit of a width, or what follows it. -/
def Place.readWidth (place : Place) (character : Char) : Stage × Option Piece :=
  match digitOf? character with
  | some digit => (.inside .width { place with width := place.width.extend maxWidth digit }, none)
  | none => place.readPrecisionMark character

/-- Read a flag, or what follows the flags. -/
def Place.readFlag (place : Place) (character : Char) : Stage × Option Piece :=
  match place.withFlag? character with
  | some place => (.inside .flags place, none)
  | none =>
    if character = '*' then (.inside .precisionMark { place with width := .taken }, none)
    else place.readWidth character

/-- Read one character. -/
def Stage.read : Stage → Char → Stage × Option Piece
  | .plain, '%' => (.opened, none)
  | .plain, character => (.plain, some (.literal character))
  | .opened, '%' => (.plain, some (.literal '%'))
  | .opened, '(' => (.naming 0 [], none)
  | .opened, character => Place.readFlag {} character
  | .naming 0 reversed, ')' =>
    (.inside .flags { choice := .named (String.ofList reversed.reverse) }, none)
  | .naming (depth + 1) reversed, ')' => (.naming depth (')' :: reversed), none)
  | .naming depth reversed, '(' => (.naming (depth + 1) ('(' :: reversed), none)
  | .naming depth reversed, character => (.naming depth (character :: reversed), none)
  | .inside .flags place, character => place.readFlag character
  | .inside .width place, character => place.readWidth character
  | .inside .precisionMark place, character => place.readPrecisionMark character
  | .inside .precisionStart place, character => place.readPrecisionStart character
  | .inside .precision place, character => place.readPrecision character
  | .inside .lengthMark place, character => place.readLengthMark character
  | .inside .conversion place, character => place.finish character

/-- What is left unfinished at the end of a template. -/
def Stage.leftover : Stage → List Piece
  | .plain => []
  | .opened => [.place {}]
  | .naming .. => [.place { choice := .unfinished }]
  | .inside _ place => [.place place]

/-- The pieces of a template from a stage on. -/
def readPieces : Stage → List Char → List Piece
  | stage, [] => stage.leftover
  | stage, character :: rest =>
    let (stage, piece) := stage.read character
    piece.toList ++ readPieces stage rest

/-- The pieces of a template. -/
def pieces (template : String) : List Piece :=
  readPieces .plain template.toList

/-- The values for the places: a list to be used up, or the members of an
object and the value that was chosen and not yet taken. -/
inductive Supply where
  | listed (values : List Json)
  | members (fields : Fields) (chosen : Option Json)

namespace Supply

/-- A single object with members supplies them by name. -/
def ofValues : List Json → Supply
  | [.obj (member :: rest)] => .members (member :: rest) (some (.obj (member :: rest)))
  | values => .listed values

/-- Take the next value. -/
def take : Supply → Except Fault (Json × Supply)
  | .listed (value :: rest) => .ok (value, .listed rest)
  | .members fields (some value) => .ok (value, .members fields none)
  | _ => .error .wrongShape

/-- Choose the value of a place. -/
def choose : Choice → Supply → Except Fault Supply
  | .next, supply => .ok supply
  | .named name, .members fields _ =>
    match fields.get? name with
    | some value => .ok (.members fields (some value))
    | none => .error (.missingMember name)
  | .unfinished, .members _ _ => .error .badContent
  | _, .listed _ => .error .wrongShape

/-- At the end, no listed value may be left over. -/
def finished : Supply → Except Fault Unit
  | .listed (_ :: _) => .error .wrongShape
  | _ => .ok ()

end Supply

/-- The number that a count stands for; a value may be negative. -/
def Amount.resolve (limit : Nat) : Amount → Supply → Except Fault (Option Int × Supply)
  | .absent, supply => .ok (none, supply)
  | .fixed count, supply => .ok (some count, supply)
  | .excessive, _ => .error .badContent
  | .taken, supply => do
    let (value, supply) ← supply.take
    match value with
    | .bool value => return (some (if value then 1 else 0), supply)
    | .int value => if limit < value.natAbs then throw .tooLarge else return (some value, supply)
    | _ => throw .wrongShape

/-- The text of a value before it is padded: the sign and the mark of the base
come before zeros, the rest after them. Only numbers are filled with zeros. -/
structure Shown where
  lead : List Char := []
  body : List Char
  numeric : Bool := false

/-- A value as a whole number, a fraction being cut off. -/
def wholePart : Json → Except Fault Int
  | .bool value => .ok (if value then 1 else 0)
  | .int value => .ok value
  | .real value =>
    match value with
    | .notANumber => .error .badContent
    | .infinite _ => .error .tooLarge
    | value => .ok (value.truncate?.getD 0)
  | _ => .error .wrongShape

/-- A value as a whole number, which it has to be. -/
def wholeOnly : Json → Except Fault Int
  | .bool value => .ok (if value then 1 else 0)
  | .int value => .ok value
  | _ => .error .wrongShape

/-- A value as a number with a fraction. -/
def realOf : Json → Except Fault Binary64
  | .bool value => .ok (.ofInt (if value then 1 else 0))
  | .int value =>
    match Binary64.ofInt value with
    | .infinite _ => .error .tooLarge
    | value => .ok value
  | .real value => .ok value
  | _ => .error .wrongShape

/-- The sign in front of a number. -/
def Place.sign (place : Place) (negative : Bool) : List Char :=
  if negative then ['-']
  else if place.signed then ['+']
  else if place.blankSigned then [' ']
  else []

/-- The characters of a text in upper case. -/
def upperDigits (characters : List Char) : List Char :=
  characters.map Char.toUpper

/-- A whole number in a base with at least `precision` digits. -/
def Place.showWhole (place : Place) (base : Nat) (mark : List Char) (precision : Option Nat)
    (value : Int) : Shown :=
  let digits := Nat.toDigits base value.natAbs
  { lead := place.sign (value < 0) ++ (if place.alternate then mark else [])
    body := List.replicate (precision.getD 0 - digits.length) '0' ++ digits
    numeric := true }

/-- A number with a fraction. -/
def Place.showReal (place : Place) (layout : Binary64.Layout) (precision : Option Nat)
    (value : Binary64) : Shown :=
  let (negative, body) := value.placed layout place.alternate (precision.getD 6)
  { lead := place.sign negative, body, numeric := true }

/-- A text, cut to the precision. -/
def showText (precision : Option Nat) (text : String) : Shown :=
  { body := match precision with
      | some count => text.toList.take count
      | none => text.toList }

/-- A character outside ASCII as an escape. -/
def asciiChar (character : Char) : List Char :=
  let code := character.toNat
  if code < 0x80 then [character]
  else
    let escape (mark : Char) (width : Nat) : List Char :=
      let digits := Nat.toDigits 16 code
      '\\' :: mark :: (List.replicate (width - digits.length) '0' ++ digits)
    if code < 0x100 then escape 'x' 2
    else if code < 0x10000 then escape 'u' 4
    else escape 'U' 8

/-- A single character, given as itself or by its number. -/
def showCharacter : Json → Except Fault Shown
  | .str text =>
    match text.toList with
    | [character] => .ok { body := [character] }
    | _ => .error .wrongShape
  | value => do
    let code ← wholeOnly value
    if code < 0 || 0x110000 ≤ code then throw .tooLarge
    return { body := [Char.ofNat code.toNat] }

/-- A value by the letter of its conversion. -/
def Place.convert (place : Place) (precision : Option Nat) (conversion : Char) (value : Json) :
    Except Fault Shown :=
  match conversion with
  | 's' => .ok (showText precision value.display)
  | 'r' => .ok (showText precision value.displayForm)
  | 'a' => .ok (showText precision (String.ofList (value.displayForm.toList.flatMap asciiChar)))
  | 'd' | 'i' | 'u' => (wholePart value).map (place.showWhole 10 [] precision)
  | 'o' => (wholeOnly value).map (place.showWhole 8 ['0', 'o'] precision)
  | 'x' => (wholeOnly value).map (place.showWhole 16 ['0', 'x'] precision)
  | 'X' => (wholeOnly value).map fun value =>
    let shown := place.showWhole 16 ['0', 'X'] precision value
    { shown with body := upperDigits shown.body }
  | 'f' => (realOf value).map (place.showReal .fixed precision)
  | 'e' => (realOf value).map (place.showReal .scaled precision)
  | 'g' => (realOf value).map (place.showReal .general precision)
  | 'F' => (realOf value).map fun value => raised (place.showReal .fixed precision value)
  | 'E' => (realOf value).map fun value => raised (place.showReal .scaled precision value)
  | 'G' => (realOf value).map fun value => raised (place.showReal .general precision value)
  | 'c' => showCharacter value
  | _ => .error .badContent
where
  /-- A number with its letters in upper case. -/
  raised (shown : Shown) : Shown := { shown with body := upperDigits shown.body }

/-- Pad a text to a width. -/
def Place.pad (place : Place) (width : Nat) (leftAligned : Bool) (shown : Shown) : List Char :=
  let missing := width - (shown.lead.length + shown.body.length)
  if leftAligned then shown.lead ++ shown.body ++ List.replicate missing ' '
  else if shown.numeric && place.zeroFilled then
    shown.lead ++ List.replicate missing '0' ++ shown.body
  else List.replicate missing ' ' ++ shown.lead ++ shown.body

/-- Fill a place. -/
def Place.fill (place : Place) (supply : Supply) : Except Fault (List Char × Supply) := do
  let supply ← supply.choose place.choice
  let (width, supply) ← place.width.resolve maxWidth supply
  let (precision, supply) ← place.precision.resolve maxPrecision supply
  match place.conversion with
  | none => throw .badContent
  | some conversion =>
    let (value, supply) ← supply.take
    let shown ← place.convert (precision.map Int.toNat) conversion value
    let width := width.getD 0
    return (place.pad width.natAbs (place.leftAligned || width < 0) shown, supply)

/-- Fill the pieces of a template from left to right. -/
def fillPieces : List Piece → Supply → Except Fault (List Char)
  | [], supply => do
    supply.finished
    return []
  | .literal character :: rest, supply => return character :: (← fillPieces rest supply)
  | .place place :: rest, supply => do
    let (text, supply) ← place.fill supply
    return text ++ (← fillPieces rest supply)

/-- The message of a template; without values the template is the message. -/
def fillTemplate (template : String) (values : List Json) : Except Fault String :=
  if values.isEmpty then .ok template
  else (fillPieces (pieces template) (.ofValues values)).map String.ofList

end Mailroom.Log
