/-!
# Blank characters and trimming

Two classes of blank characters are in use. `isSpace` is Unicode's White_Space
property. `isBlank` adds the four separator controls `FS`, `GS`, `RS` and `US`,
which separate records in older character sets. Trimming takes the class as a
parameter and removes it from both ends only.
-/

namespace Mailroom.Text

/-- Unicode's White_Space property. -/
def isSpace (character : Char) : Bool :=
  let point := character.toNat
  (0x09 ≤ point && point ≤ 0x0d) || point == 0x20 || point == 0x85 || point == 0xa0 ||
    point == 0x1680 || (0x2000 ≤ point && point ≤ 0x200a) || point == 0x2028 ||
    point == 0x2029 || point == 0x202f || point == 0x205f || point == 0x3000

/-- White space together with the separator controls. -/
def isBlank (character : Char) : Bool :=
  isSpace character || (0x1c ≤ character.toNat && character.toNat ≤ 0x1f)

/-- Remove the characters of a class from the end of a list. -/
def dropEndWhile (remove : Char → Bool) (characters : List Char) : List Char :=
  (characters.reverse.dropWhile remove).reverse

/-- Remove the characters of a class from both ends of a list. -/
def trimWhile (remove : Char → Bool) (characters : List Char) : List Char :=
  dropEndWhile remove (characters.dropWhile remove)

/-- A text without the blank characters at its ends. -/
def trim (text : String) : String :=
  String.ofList (trimWhile isBlank text.toList)

end Mailroom.Text
