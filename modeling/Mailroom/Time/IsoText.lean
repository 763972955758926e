import Mailroom.Text.Blank
import Mailroom.Time.Moment

/-!
# Reading moments in ISO 8601 form

The date is a calendar date or a week date, with hyphens or without. Any one
character separates it from the time of day, which may stop after the hour or
the minute, and whose fraction counts to the microsecond. An offset is written
like a time of day after a sign, or is `Z`.

Where the date ends is decided by its first characters: a hyphen in the fifth
place, then a `W`. A week date without hyphens is followed by an even number of
digits when it names the day and by an odd number when it does not, since the
digits of the time of day come in pairs.

The character `NUL` ends the text early wherever it stands for the end.
-/

namespace Mailroom.Time

open Text

/-- The number of characters of the date at the start of a text. -/
def dateLength? (text : List Char) : Option Nat :=
  if text.length = 7 then some 7
  else if text[4]? = some '-' then
    if text[5]? = some 'W' then
      if text.length < 8 then none
      else if text[8]? = some '-' then
        if text.length = 9 then none
        else if (text[10]?.bind decimalValue?).isSome then some 8 else some 10
      else some 8
    else some 10
  else if text[4]? = some 'W' then
    let digits := ((text.drop 7).takeWhile fun character => (decimalValue? character).isSome).length
    if digits < 2 then some (7 + digits) else if digits % 2 = 1 then some 7 else some 8
  else some 8

/-- Take the given character off the front when it is asked for. -/
def dropMark (asked : Bool) (mark : Char) (characters : List Char) : Option (List Char) :=
  if asked then
    match characters with
    | first :: rest => if first = mark then some rest else none
    | [] => none
  else some characters

/-- Read a week and the day in it, Monday when the text ends after the week. -/
def readWeekDate (year : Nat) (hyphens : Bool) (characters : List Char) : Option Date := do
  let (week, rest) ← readDecimal 2 characters
  if rest.isEmpty then Date.ofWeek? year week 1
  else
    let rest ← dropMark hyphens '-' rest
    let (day, _) ← readDecimal 1 rest
    Date.ofWeek? year week day

/-- Read a month and the day in it. -/
def readMonthDate (year : Nat) (hyphens : Bool) (characters : List Char) : Option Date := do
  let (month, rest) ← readDecimal 2 characters
  let rest ← dropMark hyphens '-' rest
  let (day, rest) ← readDecimal 2 rest
  if rest.isEmpty then some ⟨year, month, day⟩ else none

/-- Read a date that fills the text. -/
def readDate (characters : List Char) : Option Date := do
  let (year, rest) ← readDecimal 4 characters
  let (hyphens, rest) := match rest with
    | '-' :: rest => (true, rest)
    | rest => (false, rest)
  match rest with
  | 'W' :: rest => readWeekDate year hyphens rest
  | rest => readMonthDate year hyphens rest

/-- Whether characters are left before the end of the text. -/
def isUnfinished : List Char → Bool
  | [] => false
  | character :: _ => character.toNat != 0

/-- Read the fraction of a second to six digits and skip further ones. -/
def readFraction (clock : Clock) (characters : List Char) : Option (Clock × Bool) := do
  let count := min 6 characters.length
  let (digits, rest) ← readDecimal count characters
  let rest := rest.dropWhile fun character => (decimalValue? character).isSome
  return ({ clock with microsecond := digits * Nat.pow 10 (6 - count) }, isUnfinished rest)

/-- What follows a number of a time of day: the end, a fraction, or a further number. -/
inductive ClockStep where
  | finished (unread : Bool)
  | fraction (rest : List Char)
  | further (rest : List Char)

/-- The step after a number. An ASCII mark in the last place is left unread. -/
def clockStep (colons : Bool) : List Char → Option ClockStep
  | [] => some (.finished false)
  | [mark] => if mark.toNat < 0x80 then some (.finished (isUnfinished [mark])) else none
  | mark :: rest =>
    if colons && mark = ':' then some (.further rest)
    else if mark = '.' || mark = ',' then some (.fraction rest)
    else if !colons then some (.further (mark :: rest))
    else none

/-- Read a time of day that may stop after the hour, the minute or the second.
The flag says whether characters were left unread. -/
def readClock (characters : List Char) : Option (Clock × Bool) := do
  let (hour, rest) ← readDecimal 2 characters
  let colons := rest.head? = some ':'
  let clock : Clock := ⟨hour, 0, 0, 0⟩
  match ← clockStep colons rest with
  | .finished unread => return (clock, unread)
  | .fraction rest => readFraction clock rest
  | .further rest =>
    let (minute, rest) ← readDecimal 2 rest
    let clock := { clock with minute }
    match ← clockStep colons rest with
    | .finished unread => return (clock, unread)
    | .fraction rest => readFraction clock rest
    | .further rest =>
      let (second, rest) ← readDecimal 2 rest
      let clock := { clock with second }
      match ← clockStep colons rest with
      | .finished unread => return (clock, unread)
      | .fraction rest => readFraction clock rest
      | .further rest => readFraction clock rest

/-- Whether a character starts an offset. -/
def isZoneMark (character : Char) : Bool :=
  character = '+' || character = '-' || character = 'Z'

/-- An offset whose whole seconds are zero is universal time. -/
def offsetOf (negative : Bool) (clock : Clock) : Int :=
  let seconds := clock.hour * 3600 + clock.minute * 60 + clock.second
  if seconds = 0 then 0
  else
    let micros : Int := seconds * 1000000 + clock.microsecond
    if negative then -micros else micros

/-- Read an offset, or nothing at the end of the text. -/
def readOffset (unread : Bool) : List Char → Option (Option Int)
  | [] => if unread then none else some none
  | 'Z' :: rest => if isUnfinished rest then none else some (some 0)
  | sign :: rest => do
    let (clock, unread) ← readClock rest
    if unread then none else some (some (offsetOf (sign = '-') clock))

/-- Read a time of day and its offset. -/
def readTime (characters : List Char) : Option (Clock × Option Int) := do
  let (clock, unread) ← readClock (characters.takeWhile (!isZoneMark ·))
  let offset ← readOffset unread (characters.dropWhile (!isZoneMark ·))
  return (clock, offset)

/-- Read what follows the date: nothing, or one character and a time of day. -/
def readAfterDate : List Char → Option (Clock × Option Int)
  | [] => some (.midnight, none)
  | _ :: rest => readTime rest

/-- Read a moment in ISO 8601 form. -/
def readIsoChars (text : List Char) : Option Moment := do
  let length ← dateLength? text
  let date ← readDate (text.take length)
  let (clock, offset) ← readAfterDate (text.drop length)
  let moment : Moment := ⟨date, clock, offset⟩
  if moment.isValid then some moment else none

/-- A final `Z` is written out as an offset. -/
def expandZulu (characters : List Char) : List Char :=
  if characters.getLast? = some 'Z' then characters.dropLast ++ "+00:00".toList else characters

/-- Read a moment with blank characters around it. -/
def readIsoText (text : String) : Option Moment :=
  readIsoChars (expandZulu (trimWhile isBlank text.toList))

end Mailroom.Time
