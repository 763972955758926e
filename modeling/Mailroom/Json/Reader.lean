import Mailroom.Json
import Mailroom.Text.Decimal
import Mailroom.Text.Encoding
import Mailroom.Text.Hex
import Mailroom.Text.Whole

/-!
# Reading JSON

The text of one JSON value with white space around it. `NaN`, `Infinity` and
`-Infinity` are numbers, a repeated member replaces the earlier one, and a
whole number may have 4300 digits. Readers differ in how deep values may be
nested and in whether a text may be torn. What cannot be read is reported with
its place in the text: the start of the value or string that is missing or never
ends, the character that does not belong, or the escape that is not one.
-/

namespace Mailroom.Json

open Text

/-- What is wrong with a text. -/
inductive Fault where
  | value
  | memberName
  | colon
  | comma
  | unterminated
  | control
  | escape
  | unicodeEscape
  | extra
  deriving DecidableEq, Repr

/-- Why a text is no JSON value. A malformed text is cut before the offending
place. -/
inductive ReadError where
  | malformed (fault : Fault) (remaining : List Char)
  | tooManyDigits
  | tooDeep (isList : Bool)
  | tornText
  deriving Repr

/-- What a reader puts up with. -/
structure Tolerance where
  /-- How many lists and objects may stand inside each other. -/
  depth : Nat
  /-- Whether an empty list or object counts as a level. -/
  countsEmpty : Bool := true
  /-- Whether a text may hold half of a surrogate pair. -/
  allowsTorn : Bool := true

/-- The tolerance of a reader of messages. -/
def Tolerance.lenient : Tolerance := { depth := 960 }

/-- The tolerance of a reader that takes only whole texts. -/
def Tolerance.strict : Tolerance := { depth := 200, countsEmpty := false, allowsTorn := false }

/-- The tolerance for a text of the given length, in which no depth is too deep. -/
def Tolerance.unlimited (length : Nat) : Tolerance := { depth := length }

/-- One level further down, into a list or an object. -/
def Tolerance.descend (tolerance : Tolerance) (isList : Bool) : Except ReadError Tolerance :=
  match tolerance.depth with
  | 0 => .error (.tooDeep isList)
  | depth + 1 => .ok { tolerance with depth }

/-- An empty list or object counts as a level or does not. -/
def Tolerance.checkEmpty (tolerance : Tolerance) (isList : Bool) : Except ReadError Unit :=
  if tolerance.countsEmpty && tolerance.depth == 0 then .error (.tooDeep isList) else .ok ()

/-- Report a fault in front of the remaining characters. -/
def failAt {α : Type} (fault : Fault) (remaining : List Char) : Except ReadError (α × List Char) :=
  .error (.malformed fault remaining)

/-- White space between the parts of a value. -/
def isLayout (character : Char) : Bool :=
  character = ' ' || character = '\t' || character = '\n' || character = '\r'

/-- Skip white space. -/
def skipLayout (characters : List Char) : List Char :=
  characters.dropWhile isLayout

/-- The character of a one-letter escape. -/
def simpleEscape? : Char → Option Char
  | '"' => some '"'
  | '\\' => some '\\'
  | '/' => some '/'
  | 'b' => some (Char.ofNat 0x08)
  | 'f' => some (Char.ofNat 0x0c)
  | 'n' => some '\n'
  | 'r' => some '\r'
  | 't' => some '\t'
  | _ => none

/-- The number that four hexadecimal digits make. -/
def hexUnit? (first second third fourth : Char) : Option Nat := do
  let a ← hexValue? first
  let b ← hexValue? second
  let c ← hexValue? third
  let d ← hexValue? fourth
  return ((a * 16 + b) * 16 + c) * 16 + d

/-- Read the inside of a string up to its closing quotation mark. `opening` is
the text from the opening mark on, for the report of a string without an end.
The result is in code units, as an escape names one half of a pair at a time. -/
def readUnitsOfString (opening : List Char) : List Char → Except ReadError (List Nat × List Char)
  | [] => failAt .unterminated opening
  | '"' :: rest => .ok ([], rest)
  | ['\\'] => failAt .unterminated opening
  | '\\' :: 'u' :: a :: b :: c :: d :: next :: rest =>
    match hexUnit? a b c d with
    | some unit => do
      let (units, after) ← readUnitsOfString opening (next :: rest)
      return (unit :: units, after)
    | none => failAt .unicodeEscape ('u' :: a :: b :: c :: d :: next :: rest)
  | '\\' :: 'u' :: rest => failAt .unicodeEscape ('u' :: rest)
  | '\\' :: letter :: rest =>
    match simpleEscape? letter with
    | some character => do
      let (units, after) ← readUnitsOfString opening rest
      return (character.toNat :: units, after)
    | none => failAt .escape ('\\' :: letter :: rest)
  | character :: rest =>
    if character.toNat < 0x20 then failAt .control (character :: rest)
    else do
      let (units, after) ← readUnitsOfString opening rest
      return (character.toNat :: units, after)

/-- Read a string whose opening mark has been read. -/
def readString (tolerance : Tolerance) (inside : List Char) :
    Except ReadError (String × List Char) := do
  let (units, after) ← readUnitsOfString ('"' :: inside) inside
  let text := String.ofList (joinSurrogates units)
  if !tolerance.allowsTorn && isTorn text then .error .tornText else return (text, after)

/-- The characters of a number after its sign: integer part, fraction and
exponent. -/
structure NumberParts where
  whole : List Char
  fraction : List Char
  exponent : Option (Bool × List Char)
  rest : List Char

/-- A leading zero stands alone; otherwise all digits belong together. -/
def splitWhole : List Char → Option (List Char × List Char)
  | '0' :: rest => some (['0'], rest)
  | character :: rest =>
    if character.isDigit then
      some (character :: rest.takeWhile Char.isDigit, rest.dropWhile Char.isDigit)
    else none
  | [] => none

/-- A point counts when a digit follows it. -/
def splitFraction : List Char → List Char × List Char
  | '.' :: next :: rest =>
    if next.isDigit then (next :: rest.takeWhile Char.isDigit, rest.dropWhile Char.isDigit)
    else ([], '.' :: next :: rest)
  | rest => ([], rest)

/-- An exponent counts when it has a digit. -/
def splitExponent : List Char → Option (Bool × List Char) × List Char
  | mark :: rest =>
    if mark = 'e' || mark = 'E' then
      let (negative, digits) := splitSign rest
      match digits.takeWhile Char.isDigit with
      | [] => (none, mark :: rest)
      | found => (some (negative, found), digits.dropWhile Char.isDigit)
    else (none, mark :: rest)
  | [] => (none, [])

/-- Split the characters of a number from those after it. -/
def splitNumber (characters : List Char) : Option NumberParts := do
  let (whole, afterWhole) ← splitWhole characters
  let (fraction, afterFraction) := splitFraction afterWhole
  let (exponent, rest) := splitExponent afterFraction
  return ⟨whole, fraction, exponent, rest⟩

/-- The value of a number: whole without fraction and exponent, else real. -/
def NumberParts.value (parts : NumberParts) (negative : Bool) : Except ReadError Json :=
  if parts.fraction.isEmpty && parts.exponent.isNone then
    if maxDigits < parts.whole.length then .error .tooManyDigits
    else
      .ok (.int (signed negative (runValue parts.whole)))
  else
    let exponent : Int := match parts.exponent with
      | some (negative, digits) => signed negative (runValue digits)
      | none => 0
    .ok (.real (.ofDecimal negative (runValue (parts.whole ++ parts.fraction))
      (exponent - parts.fraction.length)))

/-- Read a number whose sign has been read; `start` is the text from its sign on. -/
def readNumber (start : List Char) (negative : Bool) (characters : List Char) : Except ReadError (Json × List Char) :=
  match splitNumber characters with
  | some parts => do
    let value ← parts.value negative
    return (value, parts.rest)
  | none => failAt .value start

/-- Read a scalar that is not a string. -/
def readScalar : List Char → Except ReadError (Json × List Char)
  | 'n' :: 'u' :: 'l' :: 'l' :: rest => .ok (.null, rest)
  | 't' :: 'r' :: 'u' :: 'e' :: rest => .ok (.bool true, rest)
  | 'f' :: 'a' :: 'l' :: 's' :: 'e' :: rest => .ok (.bool false, rest)
  | 'N' :: 'a' :: 'N' :: rest => .ok (.real .notANumber, rest)
  | 'I' :: 'n' :: 'f' :: 'i' :: 'n' :: 'i' :: 't' :: 'y' :: rest =>
    .ok (.real (.infinite false), rest)
  | '-' :: 'I' :: 'n' :: 'f' :: 'i' :: 'n' :: 'i' :: 't' :: 'y' :: rest =>
    .ok (.real (.infinite true), rest)
  | '-' :: rest => readNumber ('-' :: rest) true rest
  | characters => readNumber characters false characters

/-- Read the name of a member and the colon after it. -/
def readName (tolerance : Tolerance) : List Char → Except ReadError (String × List Char)
  | '"' :: inside => do
    let (name, after) ← readString tolerance inside
    match skipLayout after with
    | ':' :: rest => return (name, skipLayout rest)
    | rest => failAt .colon rest
  | characters => failAt .memberName characters

mutual
/-- Read a value. The fuel bounds the steps; each takes at least one character. -/
def readValue (tolerance : Tolerance) : Nat → List Char → Except ReadError (Json × List Char)
  | 0, characters => failAt .value characters
  | fuel + 1, characters =>
    match characters with
    | '"' :: inside => do
      let (text, rest) ← readString tolerance inside
      return (.str text, rest)
    | '[' :: rest =>
      match skipLayout rest with
      | ']' :: after => do
        tolerance.checkEmpty true
        return (.arr [], after)
      | first => do
        let (elements, after) ← readElements (← tolerance.descend true) fuel first
        return (.arr elements, after)
    | '{' :: rest =>
      match skipLayout rest with
      | '}' :: after => do
        tolerance.checkEmpty false
        return (.obj [], after)
      | first => do
        let (members, after) ← readMembers (← tolerance.descend false) fuel first
        return (.obj (Fields.ofPairs members), after)
    | characters => readScalar characters

/-- Read at least one element and the closing bracket. -/
def readElements (tolerance : Tolerance) :
    Nat → List Char → Except ReadError (List Json × List Char)
  | 0, characters => failAt .value characters
  | fuel + 1, characters => do
    let (element, after) ← readValue tolerance fuel characters
    match skipLayout after with
    | ']' :: rest => return ([element], rest)
    | ',' :: rest => do
      let (elements, rest) ← readElements tolerance fuel (skipLayout rest)
      return (element :: elements, rest)
    | rest => failAt .comma rest

/-- Read at least one member and the closing brace. -/
def readMembers (tolerance : Tolerance) :
    Nat → List Char → Except ReadError (List (String × Json) × List Char)
  | 0, characters => failAt .value characters
  | fuel + 1, characters => do
    let (name, start) ← readName tolerance characters
    let (value, after) ← readValue tolerance fuel start
    match skipLayout after with
    | '}' :: rest => return ([(name, value)], rest)
    | ',' :: rest => do
      let (members, rest) ← readMembers tolerance fuel (skipLayout rest)
      return ((name, value) :: members, rest)
    | rest => failAt .comma rest
end

/-- Read the characters of one value and nothing after it. -/
def readChars (tolerance : Tolerance) (characters : List Char) : Except ReadError Json := do
  let (value, after) ←
    readValue tolerance (2 * characters.length + 2) (skipLayout characters)
  match skipLayout after with
  | [] => return value
  | rest => .error (.malformed .extra rest)

/-- Read a text that holds one value. -/
def read (text : String) : Except ReadError Json :=
  readChars .lenient text.toList

/-- Read a text that holds one value, however deep it is. -/
def readDeep (text : String) : Except ReadError Json :=
  readChars (.unlimited text.length) text.toList

/-- The place of a fault, counted in characters from the start of the text. -/
def ReadError.position? (error : ReadError) (text : List Char) : Option Nat :=
  match error with
  | .malformed _ remaining => some (text.length - remaining.length)
  | _ => none

/-- Why octets are no JSON value. -/
inductive OctetsError where
  | encoding
  | text (characters : List Char) (error : ReadError)

/-- Read the octets of one value in the encoding they show. -/
def readOctets (octets : List UInt8) : Except OctetsError Json :=
  match decodeDetected? octets with
  | none => .error .encoding
  | some characters =>
    match readChars .lenient characters with
    | .ok value => .ok value
    | .error error => .error (.text characters error)

end Mailroom.Json
