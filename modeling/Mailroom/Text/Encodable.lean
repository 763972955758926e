import Mailroom.Text.Hex
import Mailroom.Text.Surrogate

/-!
# Characters that an encoding does not have

ASCII has octets for the first 128 characters and UTF-8 for every character, but
not for half of a surrogate pair. A text that cannot be encoded is reported by
the first run of characters that are in the way.
-/

namespace Mailroom.Text

/-- An encoding by the characters it has. -/
inductive Repertoire where
  | ascii
  | unicode
  deriving DecidableEq, Repr

namespace Repertoire

/-- Whether an encoding has a character. -/
def holds : Repertoire → Char → Bool
  | .ascii, character => character.toNat < 0x80
  | .unicode, character => !isHalf character

/-- The name of an encoding. -/
def name : Repertoire → String
  | .ascii => "ascii"
  | .unicode => "utf-8"

/-- Why an encoding does not have a character. -/
def reason : Repertoire → String
  | .ascii => "ordinal not in range(128)"
  | .unicode => "surrogates not allowed"

end Repertoire

/-- A run of characters that an encoding does not have: where it starts, its
first character and how many follow that one. -/
structure Unencodable where
  repertoire : Repertoire
  place : Nat
  first : Char
  more : Nat
  deriving DecidableEq, Repr

namespace Unencodable

/-- The first such run in a list of characters. -/
def find? (repertoire : Repertoire) (characters : List Char) : Option Unencodable :=
  let held := characters.takeWhile repertoire.holds
  match characters.drop held.length with
  | [] => none
  | first :: rest =>
    some ⟨repertoire, held.length, first, (rest.takeWhile (!repertoire.holds ·)).length⟩

/-- The number of a character as an escape. -/
def pointEscape (point : Nat) : List Char :=
  if point < 0x100 then '\\' :: 'x' :: hexDigits 2 point
  else if point < 0x10000 then '\\' :: 'u' :: hexDigits 4 point
  else '\\' :: 'U' :: hexDigits 8 point

/-- The report on a run. -/
def message (found : Unencodable) : String :=
  "'" ++ found.repertoire.name ++ "' codec can't encode "
    ++ (if found.more = 0 then
        "character '" ++ String.ofList (pointEscape (codePoint found.first)) ++ "' in position "
          ++ toString found.place
      else
        "characters in position " ++ toString found.place ++ "-"
          ++ toString (found.place + found.more))
    ++ ": " ++ found.repertoire.reason

end Unencodable

end Mailroom.Text
