import Mailroom.Text.Blank
import Mailroom.Text.Digit

/-!
# Whole numbers in text

A whole number is a run of decimal digits of any script in which single
underscores may separate digits, with an optional sign and white space around
it. At most 4300 digits are read.
-/

namespace Mailroom.Text

/-- Longest run of digits that is read as a number. -/
def maxDigits : Nat := 4300

/-- Read digits with single underscores between them, after at least one digit. -/
def readDigitsAfter (digit? : Char → Option Nat) : Nat → Nat → List Char → Option (Nat × Nat)
  | value, count, [] => some (value, count)
  | _, _, ['_'] => none
  | value, count, '_' :: next :: rest => do
    let digit ← digit? next
    readDigitsAfter digit? (value * 10 + digit) (count + 1) rest
  | value, count, character :: rest => do
    let digit ← digit? character
    readDigitsAfter digit? (value * 10 + digit) (count + 1) rest

/-- Read a run of digits that may be separated by single underscores. -/
def readDigits (digit? : Char → Option Nat) : List Char → Option Nat
  | [] => none
  | first :: rest => do
    let digit ← digit? first
    let (value, count) ← readDigitsAfter digit? digit 1 rest
    if count ≤ maxDigits then some value else none

/-- Read a signed run of digits. -/
def readSigned (digit? : Char → Option Nat) : List Char → Option Int
  | '-' :: rest => (readDigits digit? rest).map fun value => -(value : Int)
  | '+' :: rest => (readDigits digit? rest).map fun value => (value : Int)
  | characters => (readDigits digit? characters).map fun value => (value : Int)

/-- Read a whole number with white space around it. -/
def readWhole (text : String) : Option Int :=
  readSigned digitValue? (trimWhile isSpace text.toList)

/-- Whether a text consists of one or more ASCII digits. -/
def isAsciiDigits (text : String) : Bool :=
  !text.isEmpty && text.toList.all Char.isDigit

end Mailroom.Text
