import Mailroom.Schema
import Mailroom.Text.Blank
import Mailroom.Text.Letter
import Mailroom.Text.Split
import Mailroom.Text.Whole

/-!
# Scalars in lenient form

Booleans, numbers and moments are also accepted in other spellings: a boolean
as a word or as zero or one, a whole number as a text or as a real number
without fraction, a moment as a text or as a count of seconds.
-/

namespace Mailroom.Schema

open Text

/-- Words for true. -/
def trueWords : List String := ["1", "on", "t", "true", "y", "yes"]

/-- Words for false. -/
def falseWords : List String := ["0", "off", "f", "false", "n", "no"]

/-- ASCII letters in lower case, all else as it is. -/
def lowerAscii (value : String) : String :=
  String.ofList (value.toList.map Char.toLower)

/-- Read a word for a boolean. -/
def booleanOfText (value : String) : Checked Bool :=
  let word := lowerAscii value
  if trueWords.contains word then .accepted true
  else if falseWords.contains word then .accepted false
  else .refuse .notBooleanText

/-- Read zero or one as a boolean. -/
def booleanOfInt (value : Int) : Checked Bool :=
  if value = 0 then .accepted false
  else if value = 1 then .accepted true
  else .refuse .notBooleanText

/-- Whether a number fits 64 bits. -/
def fits64 (value : Int) : Bool :=
  -0x8000000000000000 ≤ value && value < 0x8000000000000000

/-- The whole number that a real number is equal to, if it lies strictly between
the bounds of 64 bits. -/
def wholeOfReal? (value : Binary64) : Option Int :=
  value.whole?.filter fun value => -0x8000000000000000 < value && value < 0x8000000000000000

/-- Check a boolean. -/
def boolean : Json → Checked Bool
  | .bool value => .accepted value
  | .str value => whole booleanOfText value
  | .int value => if fits64 value then booleanOfInt value else .refuse .notBoolean
  | .real value =>
    match wholeOfReal? value with
    | some value => booleanOfInt value
    | none => .refuse .notBoolean
  | _ => .refuse .notBoolean

/-- Whether a character is an ASCII digit other than zero. -/
def isCountingDigit (character : Char) : Bool :=
  character.isDigit && character ≠ '0'

/-- Whether a text starts as a whole number without leading zeros whose sign and
digits are more than can be read. -/
def isOverlong (characters : List Char) : Bool :=
  let unsigned := match characters with
    | '-' :: rest => rest
    | rest => rest
  unsigned.head?.any isCountingDigit &&
    maxDigits < characters.length - (unsigned.dropWhile Char.isDigit).length

/-- Take leading zeros off a number, keeping one digit. An underscore between
zeros goes with them, and a minus sign may follow them. -/
def withoutLeadingZeros : List Char → Option (List Char)
  | '0' :: rest => afterZeros '0' rest
  | first :: rest => if first.isDigit || first = '-' then some (first :: rest) else none
  | [] => none
where
  /-- Skip zeros and underscores; `last` is the character before. -/
  afterZeros (last : Char) : List Char → Option (List Char)
    | [] => some [last]
    | character :: rest =>
      if character = '0' || character = '_' then afterZeros character rest
      else if character.isDigit || character = '-' then some (character :: rest)
      else if character = '.' then some (last :: character :: rest)
      else none

/-- Take a fraction of one or more zeros off a number. -/
def withoutZeroFraction (characters : List Char) : List Char :=
  let whole := characters.takeWhile (· ≠ '.')
  let fraction := (characters.drop whole.length).drop 1
  if !fraction.isEmpty && fraction.all (· = '0') then whole else characters

/-- What a text says as a whole number once its blanks, plus sign, leading zeros,
zero fraction and underscores are taken off. -/
def plainNumber? (characters : List Char) : Option (List Char) := do
  let (isPositive, unsigned) := match trimWhile isSpace characters with
    | '+' :: rest => (true, rest)
    | rest => (false, rest)
  match unsigned with
  | '-' :: rest =>
    if isPositive then none
    else (withoutLeadingZeros rest).map fun rest => '-' :: withoutUnderscores (withoutZeroFraction rest)
  | rest => (withoutLeadingZeros rest).map fun rest => withoutUnderscores (withoutZeroFraction rest)

/-- Read digits after an optional minus sign; a zero stands alone. -/
def readPlainInteger (characters : List Char) : Option Int :=
  let (negative, digits) := match characters with
    | '-' :: rest => (true, rest)
    | rest => (false, rest)
  if digits.isEmpty || !digits.all Char.isDigit || (digits.head? = some '0' && 1 < digits.length) then
    none
  else
    some (signed negative (runValue digits))

/-- Read the text of a whole number. -/
def integerOfText (value : String) : Checked Int :=
  if isOverlong value.toList then .refuse .integerTooLong
  else
    match plainNumber? value.toList with
    | none => .refuse .notIntegerText
    | some plain =>
      if isOverlong plain then .refuse .integerTooLong
      else
        match readPlainInteger plain with
        | some value => .accepted value
        | none => .refuse .notIntegerText

/-- Check a whole number. -/
def integer : Json → Checked Int
  | .bool value => .accepted (if value then 1 else 0)
  | .int value => .accepted value
  | .real value =>
    match value with
    | .finite .. =>
      match value.whole?, wholeOfReal? value with
      | some _, some value => .accepted value
      | some _, none => .refuse .integerTooLong
      | none, _ => .refuse .hasFraction
    | _ => .refuse .notFinite
  | .str value => whole integerOfText value
  | _ => .refuse .notInteger

/-- The outcome of reading a moment. -/
def ofReading : Except Time.WireFault Time.Moment → Checked Time.Moment
  | .ok value => .accepted value
  | .error fault => .refuse (.moment fault)

/-- Check a moment. A count beyond 64 bits is taken as a real number, unless it is
beyond those as well. -/
def moment : Json → Checked Time.Moment
  | .str value => whole (fun value => ofReading (Time.readWireText value)) value
  | .int value =>
    if fits64 value then ofReading (Time.ofTimestamp value)
    else
      match Binary64.ofInt value with
      | .infinite _ => .refuse .notMoment
      | value => ofReading (Time.ofReal value)
  | .real value => ofReading (Time.ofReal value)
  | _ => .refuse .notMoment

/-- The member of a table that a text names. -/
def chosen {α : Type} (choices : List (String × α)) (value : String) : Checked α :=
  match choices.lookup value with
  | some chosen => .accepted chosen
  | none => .refuse (.notChoice (choices.map (·.1)))

/-- Check one of the texts that a table names. -/
def choice {α : Type} (choices : List (String × α)) : Json → Checked α
  | .str value => whole (chosen choices) value
  | _ => .refuse (.notChoice (choices.map (·.1)))

end Mailroom.Schema
