/-!
# Punycode

A label with characters beyond ASCII is written in ASCII: its ASCII characters
first, then one number for each other character, from the lowest character to
the highest. The number says how far the character and its place lie from the
ones before. Its digits are of base 36, each with a threshold that adapts to the
numbers seen so far; the first digit below its threshold is the last one.
-/

namespace Mailroom.Url.Punycode

/-- The character of a digit: letters, then figures. -/
def digitChar (digit : Nat) : Char :=
  if digit < 26 then Char.ofNat (0x61 + digit) else Char.ofNat (0x30 + digit - 26)

/-- The digit of a character. -/
def digit? (point : Nat) : Option Nat :=
  if 0x61 ≤ point && point ≤ 0x7a then some (point - 0x61)
  else if 0x30 ≤ point && point ≤ 0x39 then some (point - 0x30 + 26)
  else none

/-- The threshold of a digit by its place, which counts up from 36 in steps of 36. -/
def threshold (place bias : Nat) : Nat :=
  if place ≤ bias then 1 else if bias + 26 ≤ place then 26 else place - bias

/-- A threshold lies between 1 and 26. -/
theorem threshold_bounds (place bias : Nat) :
    1 ≤ threshold place bias ∧ threshold place bias ≤ 26 := by
  unfold threshold
  split
  · omega
  · split <;> omega

/-- Divide a number by 35 until it is small, counting 36 for each division. -/
def scaleDown (distance count : Nat) : Nat × Nat :=
  if 455 < distance then scaleDown (distance / 35) (count + 36) else (distance, count)
termination_by distance
decreasing_by omega

/-- The bias after a number, when so many characters have been placed. -/
def adapt (distance placed : Nat) (isFirst : Bool) : Nat :=
  let halved := if isFirst then distance / 700 else distance / 2
  let (rest, count) := scaleDown (halved + halved / placed) 0
  count + 36 * rest / (rest + 38)

/-- The digits of a number from a place on. -/
def writeNumber (bias place number : Nat) : List Char :=
  let limit := threshold place bias
  if number < limit then [digitChar number]
  else
    digitChar (limit + (number - limit) % (36 - limit)) ::
      writeNumber bias (place + 36) ((number - limit) / (36 - limit))
termination_by number
decreasing_by
  have bounds := threshold_bounds place bias
  have smaller := Nat.div_le_self (number - threshold place bias) (36 - threshold place bias)
  omega

/-- What has been written, and the state that the next number depends on. -/
structure Progress where
  written : List Char
  distance : Nat
  bias : Nat
  placed : Nat

/-- Pass a character while all characters of one code point are being placed. -/
def pass (basic target : Nat) (progress : Progress) (point : Nat) : Progress :=
  if point < target then { progress with distance := progress.distance + 1 }
  else if point = target then
    { written := progress.written ++ writeNumber progress.bias 36 progress.distance
      distance := 0
      bias := adapt progress.distance (progress.placed + 1) (progress.placed == basic)
      placed := progress.placed + 1 }
  else progress

/-- Place the characters of the given code points, which increase; `next` is the
lowest one that could come. -/
def place (label : List Nat) (basic : Nat) : List Nat → Nat → Progress → Progress
  | [], _, progress => progress
  | target :: rest, next, progress =>
    let distance := progress.distance + (target - next) * (progress.placed + 1)
    let passed := label.foldl (pass basic target) { progress with distance }
    place label basic rest (target + 1) { passed with distance := passed.distance + 1 }

/-- A label in ASCII, without a mark that says so. -/
def encode (label : List Nat) : List Char :=
  let basic := label.filter (· < 0x80)
  let others := ((label.filter (0x80 ≤ ·)).mergeSort).eraseDups
  let progress := place label basic.length others 0x80 ⟨[], 0, 72, basic.length⟩
  basic.map Char.ofNat ++ (if basic.isEmpty then [] else ['-']) ++ progress.written

/-- Read a number from a place on: its value and the rest. -/
def readNumber (bias : Nat) : Nat → Nat → Nat → List Nat → Option (Nat × List Nat)
  | _, _, _, [] => none
  | place, weight, value, point :: rest => do
    let digit ← digit? point
    let limit := threshold place bias
    let value := value + digit * weight
    if digit < limit then some (value, rest)
    else readNumber bias (place + 36) (weight * (36 - limit)) value rest

/-- A number takes up at least one digit. -/
theorem readNumber_length {bias place weight value : Nat} {points : List Nat}
    {read : Nat × List Nat} (found : readNumber bias place weight value points = some read) :
    read.2.length < points.length := by
  induction points generalizing place weight value with
  | nil => simp [readNumber] at found
  | cons point rest inductionHypothesis =>
    simp only [readNumber, Option.bind_eq_bind, Option.bind_eq_some_iff] at found
    obtain ⟨digit, _, found⟩ := found
    split at found
    · cases found
      simp
    · have shorter := inductionHypothesis found
      simp only [List.length_cons]
      omega

/-- Read numbers and place a character for each; `point` is the code point of
the next one and `position` its earliest place. -/
def readPlaces (label : List Nat) (point position bias : Nat) (isFirst : Bool)
    (digits : List Nat) : Option (List Nat) :=
  match digits with
  | [] => some label
  | first :: more =>
    match found : readNumber bias 36 1 0 (first :: more) with
    | none => none
    | some (distance, rest) =>
      let size := label.length + 1
      let reached := position + distance
      let point := point + reached / size
      if 0x10ffff < point then none
      else
        readPlaces (label.insertIdx (reached % size) point) point (reached % size + 1)
          (adapt distance size isFirst) false rest
termination_by digits.length
decreasing_by
  have shorter := readNumber_length found
  simpa using shorter

/-- Read a label that was written in ASCII. -/
def decode (points : List Nat) : Option (List Nat) :=
  let digits := (points.reverse.takeWhile (· ≠ 0x2d)).reverse
  let basic := (points.take (points.length - digits.length)).dropLast
  readPlaces basic 0x80 0 72 true digits

end Mailroom.Url.Punycode
