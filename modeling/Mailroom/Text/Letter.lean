import Mailroom.Text.Letter.Table

/-!
# Upper and lower case

Full case mapping of Unicode text: one letter may become several (`ß` becomes
`SS`), and a capital sigma at the end of a word becomes the final form `ς`.
-/

namespace Mailroom.Text

/-- Move a character along the first run that covers it. -/
def applyRuns (runs : List CaseRun) (character : Char) : Char :=
  match runs.find? (·.covers character.toNat) with
  | some run => Char.ofNat (character.toNat + run.offset).toNat
  | none => character

/-- Map one character, taking the table of long forms before the runs. -/
def applyCase (runs : List CaseRun) (expansions : List (Nat × List Nat)) (character : Char) :
    List Char :=
  match expansions.find? (·.1 == character.toNat) with
  | some expansion => expansion.2.map Char.ofNat
  | none => [applyRuns runs character]

/-- The upper-case form of one character. -/
def upperChar (character : Char) : List Char :=
  if character.toNat < 0x80 then [character.toUpper]
  else applyCase upperRuns upperExpansions character

/-- The lower-case form of one character outside any word. -/
def lowerChar (character : Char) : List Char :=
  if character.toNat < 0x80 then [character.toLower]
  else applyCase lowerRuns lowerExpansions character

/-- Whether the nearest character that is not looked through is a cased one. -/
def startsCased (characters : List Char) : Bool :=
  match characters.dropWhile fun character => inRanges caseIgnorableRanges character.toNat with
  | nearest :: _ => inRanges casedRanges nearest.toNat
  | [] => false

/-- Lower-case a text, given the characters before it in reverse order. A sigma
takes its final form after a cased character and before none. -/
def lowerAfter : List Char → List Char → List Char
  | _, [] => []
  | before, character :: rest =>
    (if character = 'Σ' then
      [if startsCased before && !startsCased rest then 'ς' else 'σ']
    else lowerChar character) ++ lowerAfter (character :: before) rest

/-- The text in upper case. -/
def upper (text : String) : String :=
  String.ofList (text.toList.flatMap upperChar)

/-- The text in lower case. -/
def lower (text : String) : String :=
  String.ofList (lowerAfter [] text.toList)

end Mailroom.Text
