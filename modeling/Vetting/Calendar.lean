/-!
# The calendar

Days are counted from 1970-01-01 in the Gregorian calendar, extended to all years.  A year is taken to
begin in March, so that the leap day is its last day; a cycle of four hundred years has `146097` days.
-/

namespace Vetting

/-- A day in the Gregorian calendar. -/
structure CalendarDate where
  year : Int
  month : Nat
  day : Nat
deriving DecidableEq

namespace CalendarDate

/-- February has a twenty-ninth day. -/
def isLeapYear (year : Int) : Bool :=
  year % 4 == 0 && (year % 100 != 0 || year % 400 == 0)

/-- The number of days in a month; no days for a month that does not exist. -/
def daysInMonth (year : Int) (month : Nat) : Nat :=
  match month with
  | 2 => if isLeapYear year then 29 else 28
  | 4 | 6 | 9 | 11 => 30
  | 1 | 3 | 5 | 7 | 8 | 10 | 12 => 31
  | _ => 0

/-- The day exists in the calendar. -/
def isValid (date : CalendarDate) : Bool :=
  1 ≤ date.day && date.day ≤ daysInMonth date.year date.month

/-- The days of a cycle before the given year of it. -/
def daysBeforeYear (yearOfCycle : Nat) : Nat :=
  365 * yearOfCycle + yearOfCycle / 4 - yearOfCycle / 100

/-- The year of a cycle that the given day of it lies in. -/
def yearOfCycle (dayOfCycle : Nat) : Nat :=
  (dayOfCycle - dayOfCycle / 1460 + dayOfCycle / 36524 - dayOfCycle / 146096) / 365

/-- The days of a year before the given month, counted from March. -/
def daysBeforeMonth (monthFromMarch : Nat) : Nat :=
  (153 * monthFromMarch + 2) / 5

/-- The days between 1970-01-01 and the date. -/
def toDays (date : CalendarDate) : Int :=
  let year := if date.month ≤ 2 then date.year - 1 else date.year
  let dayOfYear := daysBeforeMonth ((date.month + 9) % 12) + date.day - 1
  let dayOfCycle := daysBeforeYear (year % 400).toNat + dayOfYear
  year / 400 * 146097 + dayOfCycle - 719468

/-- The number of a month that is counted from March. -/
def monthOf (monthFromMarch : Nat) : Nat :=
  if monthFromMarch < 10 then monthFromMarch + 3 else monthFromMarch - 9

/-- The date on the given day of a year that begins in March. -/
def ofDayOfYear (year : Int) (dayOfYear : Nat) : CalendarDate :=
  let monthFromMarch := (5 * dayOfYear + 2) / 153
  let month := monthOf monthFromMarch
  { year := if month ≤ 2 then year + 1 else year
    month
    day := dayOfYear - daysBeforeMonth monthFromMarch + 1 }

/-- The date that many days after 1970-01-01. -/
def ofDays (days : Int) : CalendarDate :=
  let shifted := days + 719468
  let cycle := shifted / 146097
  let dayOfCycle := (shifted % 146097).toNat
  let year := yearOfCycle dayOfCycle
  ofDayOfYear (year + cycle * 400) (dayOfCycle - daysBeforeYear year)

end CalendarDate

end Vetting
