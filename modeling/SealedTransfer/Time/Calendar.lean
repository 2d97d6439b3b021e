/-
# SealedTransfer.Time.Calendar — days and dates

The proleptic Gregorian calendar, counted in days from 1 January 1970. A date goes to its day number
by adding up whole years and whole months. A day number goes back by taking out the longest periods
first: four hundred years, then centuries, four years, single years and months.
-/

namespace SealedTransfer.Time

/-- A date; months and days of the month count from one. -/
structure Date where
  year : Int
  month : Nat
  day : Nat
deriving DecidableEq, Repr

/-- Whether the year has a twenty-ninth of February. -/
def isLeapYear (year : Int) : Bool :=
  year % 4 == 0 && (year % 100 != 0 || year % 400 == 0)

/-- The lengths of the months of a year, January first. -/
def monthLengths (leap : Bool) : List Nat :=
  [31, if leap then 29 else 28, 31, 30, 31, 30, 31, 31, 30, 31, 30, 31]

/-- How many days a month of the year has; none if there is no such month. -/
def daysInMonth (year : Int) (month : Nat) : Nat :=
  if month = 0 then 0 else ((monthLengths (isLeapYear year))[month - 1]?).getD 0

/-- Whether the date stands in the calendar. -/
def Date.isValid (date : Date) : Bool :=
  1 ≤ date.day && date.day ≤ daysInMonth date.year date.month

/-- Days from 1 January of year 1 to 1 January of the given year. -/
def daysBeforeYear (year : Int) : Int :=
  let past := year - 1
  365 * past + past / 4 - past / 100 + past / 400

/-- The day number of 1 January 1970, counted from 1 January of year 1. -/
def epochDay : Int := 719162

/-- The day number of a date, counted from 1 January 1970. -/
def Date.dayNumber (date : Date) : Int :=
  daysBeforeYear date.year
    + (((monthLengths (isLeapYear date.year)).take (date.month - 1)).foldl (· + ·) 0 : Nat)
    + date.day - 1 - epochDay

/-- The year that a day falls in and the day's place in that year, both counted from 1 January of
year 1; the place counts from zero. -/
def yearOfDay (day : Int) : Int × Nat :=
  let era := day / 146097
  let inEra := (day % 146097).toNat
  let century := min 3 (inEra / 36524)
  let inCentury := inEra - 36524 * century
  let cycle := inCentury / 1461
  let inCycle := inCentury - 1461 * cycle
  let single := min 3 (inCycle / 365)
  (400 * era + (100 * century + 4 * cycle + single : Nat) + 1, inCycle - 365 * single)

/-- The month, counted from `month`, and the day in it, counted from one, of a place in the
remaining months. -/
def monthOfDay (month : Nat) : List Nat → Nat → Nat × Nat
  | [], place => (month, place + 1)
  | length :: lengths, place =>
    if place < length then (month, place + 1)
    else monthOfDay (month + 1) lengths (place - length)

/-- The date of a day number, counted from 1 January 1970. -/
def Date.ofDayNumber (day : Int) : Date :=
  let (year, place) := yearOfDay (day + epochDay)
  let (month, dayOfMonth) := monthOfDay 1 (monthLengths (isLeapYear year)) place
  ⟨year, month, dayOfMonth⟩

end SealedTransfer.Time
