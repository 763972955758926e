/-!
# The Gregorian calendar

Dates of the years 1 to 9999, the number of a day counted from the first of
January of year 1, and the weeks of a year, which begin on Monday. The first
week of a year is the one that holds its first Thursday.
-/

namespace Mailroom.Time

/-- A day of the calendar. -/
structure Date where
  year : Nat
  month : Nat
  day : Nat
  deriving DecidableEq, Repr, Inhabited

/-- Whether a year has a 29th of February. -/
def isLeapYear (year : Nat) : Bool :=
  year % 4 == 0 && (year % 100 != 0 || year % 400 == 0)

/-- The number of days of a month. -/
def daysInMonth (year month : Nat) : Nat :=
  if month = 2 then (if isLeapYear year then 29 else 28)
  else if month = 4 || month = 6 || month = 9 || month = 11 then 30 else 31

namespace Date

/-- A date with a month and a day that exist, whatever its year. -/
def hasMonthAndDay (date : Date) : Bool :=
  1 ≤ date.month && date.month ≤ 12 && 1 ≤ date.day && date.day ≤ daysInMonth date.year date.month

/-- A date of the years 1 to 9999 that exists. -/
def isValid (date : Date) : Bool :=
  1 ≤ date.year && date.year ≤ 9999 && date.hasMonthAndDay

end Date

/-- Days of a year before one of its months. -/
def daysBeforeMonth (year : Nat) : Nat → Nat
  | 0 => 0
  | 1 => 0
  | month + 1 => daysBeforeMonth year month + daysInMonth year month

/-- Days before a year, counted from the start of year 1. -/
def daysBeforeYear (year : Nat) : Nat :=
  let complete := year - 1
  complete * 365 + complete / 4 - complete / 100 + complete / 400

/-- The number of a day, the first of January of year 1 being day 1. -/
def Date.number (date : Date) : Nat :=
  daysBeforeYear date.year + daysBeforeMonth date.year date.month + date.day

/-- The month and day that lie `days` days after the first of a month; the fuel
is the number of months still to be tried. -/
def monthAfter (year : Nat) : Nat → Nat → Nat → Nat × Nat
  | 0, month, days => (month, days + 1)
  | fuel + 1, month, days =>
    if days < daysInMonth year month then (month, days + 1)
    else monthAfter year fuel (month + 1) (days - daysInMonth year month)

/-- The day with a number. The years are found by whole cycles of 400, 100, 4
and 1 years; the last day of a cycle belongs to its last year. -/
def Date.ofNumber (number : Nat) : Date :=
  let days := number - 1
  let cycles400 := days / 146097
  let days := days % 146097
  let cycles100 := min (days / 36524) 3
  let days := days - cycles100 * 36524
  let cycles4 := days / 1461
  let days := days % 1461
  let years := min (days / 365) 3
  let days := days - years * 365
  let year := cycles400 * 400 + cycles100 * 100 + cycles4 * 4 + years + 1
  let (month, day) := monthAfter year 11 1 days
  ⟨year, month, day⟩

/-- The day of the week of a numbered day, Monday being zero. -/
def weekday (number : Nat) : Nat :=
  (number + 6) % 7

/-- The number of the Monday of the first week of a year. It may lie in the
year before, hence the integer. -/
def firstMonday (year : Nat) : Int :=
  let first := (Date.mk year 1 1).number
  let day := weekday first
  let monday : Int := (first : Int) - day
  if 3 < day then monday + 7 else monday

/-- Whether a year has a 53rd week. -/
def hasLongYear (year : Nat) : Bool :=
  let day := weekday (Date.mk year 1 1).number
  day == 3 || (day == 2 && isLeapYear year)

/-- The date of a day of a week; weeks and days count from one. -/
def Date.ofWeek? (year week day : Nat) : Option Date :=
  if 1 ≤ year && year ≤ 9999 && 1 ≤ week && (week ≤ 52 || (week = 53 && hasLongYear year)) &&
      1 ≤ day && day ≤ 7 then
    some (Date.ofNumber (firstMonday year + ((week - 1) * 7 + (day - 1) : Nat)).toNat)
  else none

end Mailroom.Time
