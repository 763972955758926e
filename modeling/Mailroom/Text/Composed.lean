import Mailroom.Text.Composed.Table

/-!
# Composed text

An accented letter can be written as one character or as a letter with marks.
Text is composed when its marks stand in the order of their classes and every
letter has taken up the marks that it can. Composing takes all characters
apart, orders the marks and puts the characters together again.

The tables hold the characters of host names, in which Korean syllables are
written as they are.
-/

namespace Mailroom.Text

/-- The class of a mark, zero for what is none. -/
def markClass (point : Nat) : Nat :=
  match markClasses.find? fun entry => entry.1 ≤ point && point ≤ entry.2.1 with
  | some entry => entry.2.2
  | none => 0

/-- Take a character apart, as often as the count allows, with marks to follow. -/
def takeApart : Nat → Nat → List Nat → List Nat
  | 0, point, marks => point :: marks
  | count + 1, point, marks =>
    match composites.find? (·.1 == point) with
    | some (_, first, second) => takeApart count first (second :: marks)
    | none => point :: marks

/-- A character has at most three parts, so it is taken apart at most twice. -/
def parted (point : Nat) : List Nat := takeApart 3 point []

/-- Put a mark before the first character that is no mark of a lower class. -/
def insertMark (point : Nat) : List Nat → List Nat
  | [] => [point]
  | next :: rest =>
    if markClass next ≠ 0 && markClass next < markClass point then next :: insertMark point rest
    else point :: next :: rest

/-- Put marks in the order of their classes; marks of one class keep theirs. -/
def orderMarks (points : List Nat) : List Nat :=
  points.foldr insertMark []

/-- The character that is made of two. -/
def composite? (first second : Nat) : Option Nat :=
  (composites.find? fun entry => entry.2.1 == first && entry.2.2 == second).map (·.1)

/-- Put characters together after a letter and the marks it has not taken up,
the last of them first. A mark is out of reach behind one of its own class. -/
def putTogether (letter : Nat) (left : List Nat) : List Nat → List Nat
  | [] => letter :: left.reverse
  | point :: rest =>
    let isInReach := left.head?.all fun mark => markClass mark < markClass point
    match if isInReach then composite? letter point else none with
    | some composed => putTogether composed left rest
    | none =>
      if markClass point = 0 then letter :: (left.reverse ++ putTogether point [] rest)
      else putTogether letter (point :: left) rest

/-- The composed form of a text. -/
def composed (points : List Nat) : List Nat :=
  match orderMarks (points.flatMap parted) with
  | [] => []
  | letter :: rest => putTogether letter [] rest

/-- Whether a text is composed. -/
def isComposed (points : List Nat) : Bool :=
  composed points == points

end Mailroom.Text
