/-
Dates of the Gregorian calendar, carried on into the past before its introduction and with a
year zero. A date is also the number of days since 1970-01-01. The year of a day number is
found by an estimate from the mean length of a year, which is off by one year at most, and a
correction; the month by going through the lengths of the months.
-/

namespace Metasearch.Calendar

/-- A year with a day more than usual, by the rules of the Gregorian calendar. -/
def isLeapYear (year : Int) : Bool :=
  year % 4 == 0 && (year % 100 != 0 || year % 400 == 0)

/-- The lengths of the months of a year. -/
def monthLengths (year : Int) : List Nat :=
  [31, if isLeapYear year then 29 else 28, 31, 30, 31, 30, 31, 31, 30, 31, 30, 31]

/-- The days of some months together. -/
def daysOf (lengths : List Nat) : Nat :=
  lengths.foldl (· + ·) 0

/-- The length of a month, counted from one. -/
def daysInMonth (year : Int) (month : Nat) : Nat :=
  (monthLengths year).getD (month - 1) 0

/-- A day of a month of a year; months and days are counted from one. -/
structure Date where
  year : Int
  month : Nat
  day : Nat
  deriving DecidableEq, Repr

/-- The first and the last year that dates are kept in. -/
def firstYear : Int := -262143

/-- The last year of the calendar. -/
def lastYear : Int := 262142

/-- The days from the first day of year zero to the first day of a year. -/
def daysBeforeYear (year : Int) : Int :=
  365 * year + (year + 3) / 4 - (year + 99) / 100 + (year + 399) / 400

/-- The days from the first day of year zero to 1970-01-01. -/
def epochDay : Int := 719528

namespace Date

/-- The date exists and its year is in range. -/
def isValid (date : Date) : Bool :=
  firstYear ≤ date.year && date.year ≤ lastYear && 1 ≤ date.month && date.month ≤ 12 &&
    1 ≤ date.day && date.day ≤ daysInMonth date.year date.month

/-- The date of a year, month and day, if it exists. -/
def of? (year : Int) (month day : Nat) : Option Date :=
  if isValid ⟨year, month, day⟩ then some ⟨year, month, day⟩ else none

/-- The number of the day within its year, from one. -/
def ordinal (date : Date) : Nat :=
  daysOf ((monthLengths date.year).take (date.month - 1)) + date.day

/-- The days since 1970-01-01. -/
def dayNumber (date : Date) : Int :=
  daysBeforeYear date.year + (date.ordinal : Int) - 1 - epochDay

/-- The month and day of a place within a year, counted from zero, given the lengths of the
months from the one with number `month` on. -/
def monthAndDay (month : Nat) (place : Nat) : List Nat → Nat × Nat
  | [] => (month, place + 1)
  | length :: rest =>
    if place < length then (month, place + 1) else monthAndDay (month + 1) (place - length) rest

/-- The date of a place within a year, counted from zero. -/
def ofPlace (year : Int) (place : Nat) : Date :=
  let (month, day) := monthAndDay 1 place (monthLengths year)
  ⟨year, month, day⟩

/-- The year of a day counted from the first day of year zero. -/
def yearOfDay (day : Int) : Int :=
  let estimate := day * 400 / 146097
  if day < daysBeforeYear estimate then estimate - 1
  else if daysBeforeYear (estimate + 1) ≤ day then estimate + 1
  else estimate

/-- The date of a number of days since 1970-01-01. -/
def ofDayNumber (number : Int) : Date :=
  let day := number + epochDay
  let year := yearOfDay day
  ofPlace year (day - daysBeforeYear year).toNat

/-- The date of a day of a year, if the year has it. -/
def ofOrdinal? (year : Int) (ordinal : Nat) : Option Date :=
  let isInYear := 1 ≤ ordinal && ordinal ≤ daysOf (monthLengths year)
  if firstYear ≤ year && year ≤ lastYear && isInYear then
    some (ofPlace year (ordinal - 1))
  else none

/-- The day of the week, from zero for Monday. -/
def weekday (date : Date) : Nat :=
  ((date.dayNumber + 3) % 7).toNat

/-- The date some months earlier; a day that the month does not have becomes its last. -/
def minusMonths? (date : Date) (months : Nat) : Option Date :=
  let index := date.year * 12 + (date.month - 1 : Nat) - months
  let year := index / 12
  let month := (index % 12).toNat + 1
  of? year month (min date.day (daysInMonth year month))

end Date

/-- The number of the first and of the last day in range. -/
def firstDay : Int := Date.dayNumber ⟨firstYear, 1, 1⟩

/-- The number of the last day of the calendar. -/
def lastDay : Int := Date.dayNumber ⟨lastYear, 12, 31⟩

/-- The full English names of the months. -/
def monthNames : List String :=
  ["January", "February", "March", "April", "May", "June", "July", "August", "September",
   "October", "November", "December"]

/-- The full English names of the days of the week. -/
def weekdayNames : List String :=
  ["Monday", "Tuesday", "Wednesday", "Thursday", "Friday", "Saturday", "Sunday"]

/-- The first three letters, which are the short form of every name. -/
def shortName (name : String) : String :=
  String.ofList (name.toList.take 3)

end Metasearch.Calendar
