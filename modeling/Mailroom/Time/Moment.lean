import Mailroom.Text.Decimal
import Mailroom.Time.Calendar

/-!
# Moments

A moment is a date, a time of day to the microsecond and, if it is known, the
distance of its clock from universal time. `isoText` writes all of it,
`localText` the time on the clock to the millisecond, and `wireText` the form
used in requests, where universal time is marked by `Z`.
-/

namespace Mailroom.Time

open Text

/-- A time of day. -/
structure Clock where
  hour : Nat
  minute : Nat
  second : Nat
  microsecond : Nat
  deriving DecidableEq, Repr, Inhabited

/-- A time of day that exists. -/
def Clock.isValid (clock : Clock) : Bool :=
  clock.hour < 24 && clock.minute < 60 && clock.second < 60 && clock.microsecond < 1000000

/-- The start of a day. -/
def Clock.midnight : Clock := ⟨0, 0, 0, 0⟩

/-- A date, a time of day and the microseconds by which the clock is ahead of
universal time. -/
structure Moment where
  date : Date
  clock : Clock
  offset : Option Int
  deriving DecidableEq, Repr, Inhabited

/-- Microseconds of a second. -/
def microsPerSecond : Int := 1000000

/-- Microseconds of a day, which every offset stays below. -/
def microsPerDay : Int := 86400 * microsPerSecond

namespace Moment

/-- A moment that exists: a date of the years 1 to 9999, a time of day, and an
offset of less than a day. -/
def isValid (moment : Moment) : Bool :=
  moment.date.isValid && moment.clock.isValid &&
    match moment.offset with
    | none => true
    | some offset => -microsPerDay < offset && offset < microsPerDay

/-- The moment on its clock alone. -/
def withoutOffset (moment : Moment) : Moment :=
  { moment with offset := none }

/-- Cut a time of day to the millisecond. -/
def cutToMillisecond (moment : Moment) : Moment :=
  { moment with clock.microsecond := moment.clock.microsecond / 1000 * 1000 }

end Moment

/-- A date with hyphens. -/
def dateChars (date : Date) : List Char :=
  decimalDigits 4 date.year ++ '-' :: decimalDigits 2 date.month ++ '-' :: decimalDigits 2 date.day

/-- Hours, minutes and seconds with colons. -/
def secondChars (clock : Clock) : List Char :=
  decimalDigits 2 clock.hour ++ ':' :: decimalDigits 2 clock.minute ++
    ':' :: decimalDigits 2 clock.second

/-- A fraction of a second, left out when it is zero. -/
def fractionChars (microsecond : Nat) : List Char :=
  if microsecond = 0 then [] else '.' :: decimalDigits 6 microsecond

/-- The sign of an offset. -/
def signChar (offset : Int) : Char :=
  if offset < 0 then '-' else '+'

/-- The size of an offset as hours and minutes, with seconds and a fraction
when it has them. -/
def offsetChars (offset : Int) : List Char :=
  let micros := offset.natAbs
  let seconds := micros / 1000000
  let fraction := micros % 1000000
  signChar offset :: (decimalDigits 2 (seconds / 3600) ++
    ':' :: decimalDigits 2 (seconds / 60 % 60)) ++
    (if seconds % 60 = 0 && fraction = 0 then []
      else ':' :: decimalDigits 2 (seconds % 60) ++ fractionChars fraction)

namespace Moment

/-- Date and time of day with a `T` between them. -/
def clockChars (moment : Moment) : List Char :=
  dateChars moment.date ++ 'T' :: secondChars moment.clock

/-- All of a moment. -/
def isoChars (moment : Moment) : List Char :=
  moment.clockChars ++ fractionChars moment.clock.microsecond ++
    match moment.offset with
    | none => []
    | some offset => offsetChars offset

/-- The text of all of a moment. -/
def isoText (moment : Moment) : String :=
  String.ofList moment.isoChars

/-- The time on the clock, cut to the millisecond. -/
def localChars (moment : Moment) : List Char :=
  moment.clockChars ++ '.' :: decimalDigits 3 (moment.clock.microsecond / 1000)

/-- The form in which case data holds a moment: without offset, three digits of
the second's fraction. -/
def localText (moment : Moment) : String :=
  String.ofList moment.localChars

/-- An offset in whole seconds, half a second going up in size. -/
def offsetSeconds (offset : Int) : Int :=
  let seconds := (2 * offset.natAbs + 1000000) / 2000000
  if offset < 0 then -(seconds : Int) else seconds

/-- An offset in whole minutes, the seconds cut off, and `Z` for universal time. -/
def wireOffsetChars (offset : Int) : List Char :=
  let seconds := offsetSeconds offset
  if seconds = 0 then ['Z']
  else
    signChar seconds :: (decimalDigits 2 (seconds.natAbs / 3600) ++
      ':' :: decimalDigits 2 (seconds.natAbs / 60 % 60))

/-- The form in which a request holds a moment. -/
def wireText (moment : Moment) : String :=
  String.ofList (moment.clockChars ++ fractionChars moment.clock.microsecond ++
    match moment.offset with
    | none => []
    | some offset => wireOffsetChars offset)

end Moment
end Mailroom.Time
