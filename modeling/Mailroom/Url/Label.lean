import Mailroom.Text.Composed
import Mailroom.Text.Ranges
import Mailroom.Text.Split
import Mailroom.Url.Label.Table
import Mailroom.Url.Punycode

/-!
# Labels of host names

A host name with characters beyond ASCII is a row of labels, each of which goes
out in ASCII. What a label may hold is bound by rules: it is composed, its
hyphens stand inside, it starts with no mark, some characters need certain
neighbours, and writing from right to left is not mixed with other directions.
-/

namespace Mailroom.Url

open Text

/-- The direction in which a character is written. -/
inductive Direction where
  | leftToRight
  | rightToLeft
  | arabicLetter
  | arabicDigit
  | europeanDigit
  | neutral
  | nonspacing
  deriving DecidableEq, Repr

/-- The direction of a character that a label may hold. -/
def direction (point : Nat) : Direction :=
  if inRanges nonspacingRanges point then .nonspacing
  else if inRanges rightToLeftRanges point then .rightToLeft
  else if inRanges arabicLetterRanges point then .arabicLetter
  else if inRanges arabicDigitRanges point then .arabicDigit
  else if inRanges europeanDigitRanges point then .europeanDigit
  else if inRanges neutralRanges point then .neutral
  else .leftToRight

namespace Direction

/-- Whether a character makes its label one of right to left. -/
def turns : Direction → Bool
  | .rightToLeft | .arabicLetter | .arabicDigit => true
  | _ => false

/-- Whether a label of right to left may hold a character. -/
def fitsRightToLeft (found : Direction) : Bool := found != .leftToRight

/-- Whether a label of left to right may hold a character. -/
def fitsLeftToRight (found : Direction) : Bool := !found.turns

/-- Whether a label of right to left may end in a character. -/
def endsRightToLeft : Direction → Bool
  | .rightToLeft | .arabicLetter | .arabicDigit | .europeanDigit => true
  | _ => false

/-- Whether a label of left to right may end in a character. -/
def endsLeftToRight : Direction → Bool
  | .leftToRight | .europeanDigit => true
  | _ => false

end Direction

/-- The last character of a label, marks aside. -/
def lastSpacing? (directions : List Direction) : Option Direction :=
  directions.reverse.find? (· != .nonspacing)

/-- Whether the characters of a label go together by their directions. -/
def isOneWay (label : List Nat) : Bool :=
  let directions := label.map direction
  if !directions.any Direction.turns then true
  else
    match directions.head? with
    | some .rightToLeft | some .arabicLetter =>
      directions.all Direction.fitsRightToLeft &&
        (lastSpacing? directions).any Direction.endsRightToLeft &&
        !(directions.contains .arabicDigit && directions.contains .europeanDigit)
    | some .leftToRight =>
      directions.all Direction.fitsLeftToRight &&
        (lastSpacing? directions).any Direction.endsLeftToRight
    | _ => false

/-- Whether a mark combines with the character before. -/
def isMark (point : Nat) : Bool :=
  inRanges nonspacingRanges point || inRanges spacingMarkRanges point

/-- Whether joining passes over a character. -/
def isTransparent (point : Nat) : Bool :=
  inRanges transparentSpacingRanges point ||
    (inRanges nonspacingRanges point && !inRanges opaqueNonspacingRanges point)

/-- The class of the marks that silence the vowel of a letter. -/
def silencingClass : Nat := 9

/-- Whether the nearest character in a direction, transparent ones aside, joins. -/
def joins (ranges : List (Nat × Nat)) (points : List Nat) : Bool :=
  (points.find? (!isTransparent ·)).any fun point =>
    inRanges dualJoiningRanges point || inRanges ranges point

/-- Whether a character may stand behind some and before others. Joiners, middle
dots, the marks of Greek and Hebrew numbers and the digits of Arabic kind depend
on their neighbours. -/
def isPlaceable (label before : List Nat) (point : Nat) (after : List Nat) : Bool :=
  if inRanges freeRanges point then true
  else
    let followsSilencer := before.head?.any (markClass · == silencingClass)
    match point with
    | 0x200c => followsSilencer || (joins leftJoiningRanges before && joins rightJoiningRanges after)
    | 0x200d => followsSilencer
    | 0xb7 => before.head? = some 0x6c && after.head? = some 0x6c
    | 0x375 => after.head?.any (inRanges greekRanges)
    | 0x5f3 | 0x5f4 => before.head?.any (inRanges hebrewRanges)
    | 0x30fb => label.any (inRanges middleDotRanges)
    | _ =>
      if 0x660 ≤ point && point ≤ 0x669 then label.all fun other => other < 0x6f0 || 0x6f9 < other
      else if 0x6f0 ≤ point && point ≤ 0x6f9 then
        label.all fun other => other < 0x660 || 0x669 < other
      else false

/-- Whether every character from a place on may stand where it does. -/
def arePlaceable (label : List Nat) : List Nat → List Nat → Bool
  | _, [] => true
  | before, point :: rest =>
    isPlaceable label before point rest && arePlaceable label (point :: before) rest

/-- The hyphen. -/
def hyphen : Nat := 0x2d

/-- Whether no hyphen stands at an end of a label, nor two behind its second character. -/
def areHyphensInside (label : List Nat) : Bool :=
  label.head? != some hyphen && label.getLast? != some hyphen &&
    (label.drop 2).take 2 != [hyphen, hyphen]

/-- Whether a label keeps all rules. -/
def isLabel (label : List Nat) : Bool :=
  !label.isEmpty && isComposed label && areHyphensInside label && !label.head?.any isMark &&
    arePlaceable label [] label && isOneWay label

/-- The mark of a label that stands for another one. -/
def encodedMark : List Char := ['x', 'n', '-', '-']

/-- The longest label. -/
def maxLabelLength : Nat := 63

/-- The longest host name, a point at its end aside. -/
def maxNameLength : Nat := 253

/-- Whether an ASCII label keeps the rules, those for what it stands for if it
is an encoded one. -/
def isAsciiLabel (label : List Char) : Bool :=
  if encodedMark.isPrefixOf label then
    let digits := (label.drop encodedMark.length).map Char.toNat
    digits.getLast?.any (· != hyphen) && (Punycode.decode digits).any isLabel
  else isLabel (label.map Char.toNat)

/-- A label in ASCII, unless it breaks a rule. -/
def asciiLabel? (label : List Char) : Option (List Char) :=
  let points := label.map Char.toNat
  let encoded? :=
    if points.all (· < 0x80) then if isAsciiLabel label then some label else none
    else if isLabel points then some (encodedMark ++ Punycode.encode points)
    else none
  encoded?.filter (·.length ≤ maxLabelLength)

/-- Points of several scripts become the plain one. -/
def plainPoints (name : List Char) : List Char :=
  name.map fun character => if ['。', '．', '｡'].contains character then '.' else character

/-- A host name in ASCII, unless a label of it breaks a rule. A point may end it. -/
def asciiName? (name : List Char) : Option (List Char) := do
  let labels := splitOn '.' (plainPoints name)
  let isEnded := labels.getLast? == some []
  let encoded ← (if isEnded then labels.dropLast else labels).mapM asciiLabel?
  let written := ['.'].intercalate encoded
  if encoded.isEmpty || maxNameLength < written.length then none
  else some (if isEnded then written ++ ['.'] else written)

end Mailroom.Url
