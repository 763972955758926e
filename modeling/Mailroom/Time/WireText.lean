import Mailroom.Number.RealText
import Mailroom.Time.Moment

/-!
# Moments in messages

A message names a moment by a text in the form of RFC 3339, by a date alone, or
by a number of seconds since 1970. A number beyond twenty thousand million in
size counts milliseconds. The number may also stand in a text, where a decimal
point needs a digit on one side only.

A text that is none of these is reported by what is wrong with it as a date.
-/

namespace Mailroom.Time

open Text

/-- What keeps a text from being a date. -/
inductive DateFault where
  | tooShort
  | yearCharacter
  | monthCharacter
  | dayCharacter
  | separator
  | noSuchMonth
  | noSuchDay
  | extraCharacters
  | tooLate
  | tooEarly
  deriving DecidableEq, Repr

/-- The wording of a fault. -/
def DateFault.message : DateFault → String
  | .tooShort => "input is too short"
  | .yearCharacter => "invalid character in year"
  | .monthCharacter => "invalid character in month"
  | .dayCharacter => "invalid character in day"
  | .separator => "invalid date separator, expected `-`"
  | .noSuchMonth => "month value is outside expected range of 1-12"
  | .noSuchDay => "day value is outside expected range"
  | .extraCharacters => "unexpected extra characters at the end of the input"
  | .tooLate => "dates after 9999 are not supported as unix timestamps"
  | .tooEarly => "dates before 0000 are not supported as unix timestamps"

/-- Why a value names no moment. -/
inductive WireFault where
  | notADate (fault : DateFault)
  | outOfRange (fault : DateFault)
  | yearZero
  | notANumber
  deriving DecidableEq, Repr

/-- Two digits in the given place. -/
def pairAt? (text : List Char) (place : Nat) : Option Nat := do
  let first ← text[place]?.bind decimalValue?
  let second ← text[place + 1]?.bind decimalValue?
  return first * 10 + second

/-- The date in the first ten characters, its year possibly zero. -/
def readLeadingDate (text : List Char) : Except DateFault Date := do
  if (utf8ByteSize text) < 10 then throw .tooShort
  let some century := pairAt? text 0 | throw .yearCharacter
  let some year := pairAt? text 2 | throw .yearCharacter
  unless text[4]? = some '-' do throw .separator
  let some month := pairAt? text 5 | throw .monthCharacter
  unless text[7]? = some '-' do throw .separator
  let some day := pairAt? text 8 | throw .dayCharacter
  let date : Date := ⟨century * 100 + year, month, day⟩
  unless 1 ≤ month && month ≤ 12 do throw .noSuchMonth
  unless 1 ≤ day && day ≤ daysInMonth date.year month do throw .noSuchDay
  return date
where
  /-- The number of octets of a text. -/
  utf8ByteSize (text : List Char) : Nat := (text.map Char.utf8Size).foldl (· + ·) 0

/-- The fraction of a second in microseconds, further digits being dropped. -/
def readWireFraction : List Char → Option (Nat × List Char)
  | mark :: rest =>
    if mark = '.' || mark = ',' then
      let digits := rest.takeWhile fun character => (decimalValue? character).isSome
      if digits.isEmpty then none
      else
        let kept := digits.take 6
        (readDecimal kept.length kept).map fun (value, _) =>
          (value * Nat.pow 10 (6 - kept.length), rest.drop digits.length)
    else some (0, mark :: rest)
  | [] => some (0, [])

/-- Seconds and their fraction, both of which may be missing. -/
def readWireSeconds : List Char → Option (Nat × Nat × List Char)
  | ':' :: rest => do
    let (second, rest) ← readDecimal 2 rest
    let (microsecond, rest) ← readWireFraction rest
    return (second, microsecond, rest)
  | rest => some (0, 0, rest)

/-- The time of day at the start of a text. -/
def readWireClock (text : List Char) : Option (Clock × List Char) := do
  let (hour, rest) ← readDecimal 2 text
  let rest ← match rest with
    | ':' :: rest => some rest
    | _ => none
  let (minute, rest) ← readDecimal 2 rest
  let (second, microsecond, rest) ← readWireSeconds rest
  let clock : Clock := ⟨hour, minute, second, microsecond⟩
  if clock.isValid then some (clock, rest) else none

/-- Hours and minutes of an offset, in microseconds. -/
def readOffsetSize (text : List Char) : Option Nat := do
  let (hour, rest) ← readDecimal 2 text
  let rest := match rest with
    | ':' :: rest => rest
    | rest => rest
  let (minute, rest) ← readDecimal 2 rest
  if rest.isEmpty && minute < 60 && hour < 24 then some ((hour * 60 + minute) * 60000000) else none

/-- The offset that ends a text, or none at its end. -/
def readWireOffset : List Char → Option (Option Int)
  | [] => some none
  | ['Z'] | ['z'] => some (some 0)
  | '+' :: rest => (readOffsetSize rest).map fun size => some size
  | '-' :: rest | '−' :: rest => (readOffsetSize rest).map fun size => some (-(size : Int))
  | _ => none

/-- A moment in the form of RFC 3339. -/
def readRfcMoment (text : List Char) : Option Moment := do
  let date ← (readLeadingDate text).toOption
  let separator ← text[10]?
  if separator = 'T' || separator = 't' || separator = ' ' || separator = '_' then
    let (clock, rest) ← readWireClock (text.drop 11)
    let offset ← readWireOffset rest
    return ⟨date, clock, offset⟩
  else none

/-- Numbers beyond this size count milliseconds. -/
def millisecondWatershed : Nat := 20000000000

/-- The moment in universal time that lies some seconds and microseconds after
the start of 1970. -/
def ofSeconds (seconds : Int) (micros : Nat) : Except WireFault Moment :=
  let seconds := seconds + (micros / 1000000 : Nat)
  if seconds < -62167219200 then .error (.outOfRange .tooEarly)
  else if seconds > 253402300799 then .error (.outOfRange .tooLate)
  else if seconds < -62135596800 then .error .yearZero
  else
    let day := seconds.fdiv 86400
    let time := (seconds.fmod 86400).toNat
    .ok ⟨Date.ofNumber (719163 + day).toNat,
      ⟨time / 3600, time / 60 % 60, time % 60, micros % 1000000⟩, some 0⟩

/-- The moment of a whole number of seconds or milliseconds. -/
def ofTimestamp (count : Int) : Except WireFault Moment :=
  if count.natAbs ≤ millisecondWatershed then ofSeconds count 0
  else ofSeconds (count.fdiv 1000) ((count.fmod 1000).toNat * 1000)

/-- A fraction, itself a number of the binary format, times a unit; rounded to
that format and then to a whole number, a half going up. -/
def fractionIn (unit : Nat) (numerator denominator : Nat) : Nat :=
  let (top, bottom) := (Binary64.ofQuotient false numerator denominator).quotient?.getD (0, 1)
  let (top, bottom) :=
    (Binary64.ofQuotient false (top.toNat * unit) bottom).quotient?.getD (0, 1)
  (2 * top.toNat + bottom) / (2 * bottom)

/-- The moment of a real number. Its fraction counts from the integer below, and
a number in milliseconds is cut into seconds only after that. -/
def ofReal (value : Binary64) : Except WireFault Moment :=
  match value with
  | .notANumber => .error .notANumber
  | .infinite negative => .error (.outOfRange (if negative then .tooEarly else .tooLate))
  | value =>
    let (numerator, denominator) := value.quotient?.getD (0, 1)
    let whole := numerator.fdiv denominator
    let rest := (numerator - whole * denominator).toNat
    if numerator.natAbs ≤ millisecondWatershed * denominator then
      ofSeconds whole (fractionIn 1000000 rest denominator)
    else
      ofSeconds (whole.fdiv 1000)
        ((whole.fmod 1000).toNat * 1000 + fractionIn 1000 rest denominator)

/-- A number in a text: whole, or with a point and an optional exponent. -/
inductive NumberText where
  | whole (value : Int)
  | decimal (value : Binary64)

/-- Read a number that fills a text. What stands before its point must fit 63 bits. -/
def readNumberText (text : List Char) : Option NumberText :=
  let (negative, unsigned) := splitSign text
  let whole := unsigned.takeWhile Char.isDigit
  if runValue whole < 0x8000000000000000 then
    match unsigned.drop whole.length with
    | [] => if whole.isEmpty then none else some (.whole (signed negative (runValue whole)))
    | '.' :: _ => (Binary64.unsignedOf negative unsigned).map .decimal
    | _ => none
  else none

/-- A moment needs a year of its own. -/
def withYear (moment : Moment) : Except WireFault Moment :=
  if moment.date.year = 0 then .error .yearZero else .ok moment

/-- The moment of a text that is no RFC 3339 moment: its number, or the start of
its date. -/
def readOtherMoment (text : List Char) : Except WireFault Moment :=
  let asDate : Except WireFault Moment :=
    match readLeadingDate text with
    | .error fault => .error (.notADate fault)
    | .ok date =>
      if text.length = 10 then withYear ⟨date, .midnight, none⟩
      else .error (.notADate .extraCharacters)
  match readNumberText text with
  | some (.whole value) =>
    match ofTimestamp value with
    | .error (.outOfRange fault) => .error (.notADate fault)
    | result => result
  | some (.decimal value) =>
    match ofReal value with
    | .error (.outOfRange _) => asDate
    | result => result
  | none => asDate

/-- Read the text of a moment. -/
def readWireText (text : String) : Except WireFault Moment :=
  match readRfcMoment text.toList with
  | some moment => withYear moment
  | none => readOtherMoment text.toList

end Mailroom.Time
