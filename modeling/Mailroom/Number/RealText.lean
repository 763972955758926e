import Mailroom.Number.Binary64
import Mailroom.Text.Blank
import Mailroom.Text.Decimal
import Mailroom.Text.Split

/-!
# Real numbers in text

A real number in a setting: digits with an optional point and exponent, or one
of the names of infinity and of what is no number. Either white space may stand
around it or single underscores in it.
-/

namespace Mailroom.Binary64

open Text

/-- The exponent that ends a number, zero when there is none. -/
def exponentOf : List Char → Option Int
  | [] => some 0
  | mark :: rest =>
    if mark = 'e' || mark = 'E' then
      let (negative, digits) := splitSign rest
      if digits.isEmpty || !digits.all Char.isDigit then none
      else some (signed negative (runValue digits))
    else none

/-- Digits with a point and an exponent. The digits on both sides of the point
must not both be missing. -/
def unsignedOf (negative : Bool) (characters : List Char) : Option Binary64 := do
  let whole := characters.takeWhile Char.isDigit
  let rest := characters.drop whole.length
  let (fraction, rest) := match rest with
    | '.' :: rest => (rest.takeWhile Char.isDigit, rest.dropWhile Char.isDigit)
    | rest => ([], rest)
  if whole.isEmpty && fraction.isEmpty then none
  else
    let exponent ← exponentOf rest
    some (ofDecimal negative (runValue (whole ++ fraction)) (exponent - fraction.length))

/-- A number without blanks and underscores. -/
def ofPlainChars (characters : List Char) : Option Binary64 :=
  let (negative, rest) := splitSign characters
  let word := String.ofList (rest.map Char.toLower)
  if word = "inf" || word = "infinity" then some (.infinite negative)
  else if word = "nan" then some .notANumber
  else unsignedOf negative rest

/-- Read the text of a number: without the white space around it, or else without
the underscores in it. -/
def ofText? (text : String) : Option Binary64 :=
  (ofPlainChars (trimWhile isSpace text.toList)).or
    (ofPlainChars (withoutUnderscores text.toList))

end Mailroom.Binary64
