/-!
# Splitting lists of characters

Cutting at one character: at its first place, at every place, or behind its
last one. Underscores that separate parts are cut out.
-/

namespace Mailroom.Text

/-- The characters before the first place of a mark, and those after it if there is one. -/
def cutAt (mark : Char) : List Char → List Char × Option (List Char)
  | [] => ([], none)
  | character :: rest =>
    if character = mark then ([], some rest)
    else
      let (before, after) := cutAt mark rest
      (character :: before, after)

/-- The parts between the places of a mark. -/
def splitOn (mark : Char) : List Char → List (List Char)
  | [] => [[]]
  | character :: rest =>
    if character = mark then [] :: splitOn mark rest
    else
      match splitOn mark rest with
      | part :: parts => (character :: part) :: parts
      | [] => [[character]]

/-- The characters after the last place of a mark, all of them when there is none. -/
def afterLast (mark : Char) (characters : List Char) : List Char :=
  (characters.reverse.takeWhile (· ≠ mark)).reverse

/-- The characters up to and including the last place of a mark. -/
def throughLast (mark : Char) (characters : List Char) : List Char :=
  (characters.reverse.dropWhile (· ≠ mark)).reverse

/-- Take single underscores out of a text; one at an end or beside another keeps
the text as it is. -/
def withoutUnderscores (characters : List Char) : List Char :=
  let parts := splitOn '_' characters
  if parts.any List.isEmpty then characters else parts.flatten

/-- A text is what stands through the last mark and what stands after it. -/
theorem throughLast_append_afterLast (mark : Char) (characters : List Char) :
    throughLast mark characters ++ afterLast mark characters = characters := by
  rw [throughLast, afterLast, ← List.reverse_append, List.takeWhile_append_dropWhile,
    List.reverse_reverse]

end Mailroom.Text
