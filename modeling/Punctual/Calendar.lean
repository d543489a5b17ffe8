/-!
Dates of the proleptic Gregorian calendar, numbered by the days since 1970-01-01. A year has a
sign and a year zero; the pattern of leap years repeats every 400 years, which is 146097 days.
-/
namespace Punctual

/-- A day of the calendar. -/
structure Date where
  year : Int
  /-- 1 to 12 -/
  month : Nat
  /-- 1 to 31 -/
  day : Nat
deriving DecidableEq, Repr

/-- The days of the week. -/
inductive Weekday
  | mon | tue | wed | thu | fri | sat | sun
deriving DecidableEq, Repr

namespace Weekday

/-- Days after Monday. -/
def index : Weekday → Int
  | mon => 0 | tue => 1 | wed => 2 | thu => 3 | fri => 4 | sat => 5 | sun => 6

end Weekday

namespace Date

/-- The year has a 29th of February. -/
def isLeapYear (year : Int) : Bool :=
  year % 4 == 0 && (year % 100 != 0 || year % 400 == 0)

/-- The number of days in a month; a month outside 1 to 12 has none. -/
def daysInMonth (year : Int) (month : Nat) : Nat :=
  match month with
  | 1 | 3 | 5 | 7 | 8 | 10 | 12 => 31
  | 4 | 6 | 9 | 11 => 30
  | 2 => if isLeapYear year then 29 else 28
  | _ => 0

/-- The date names a day that exists. -/
def isValid (d : Date) : Bool :=
  1 ≤ d.day && d.day ≤ daysInMonth d.year d.month

/-- The days from 1970-01-01 to the date. Years are counted from March here, so that the leap day
is the last day of its year. -/
def toDays (d : Date) : Int :=
  let year : Int := if d.month ≤ 2 then d.year - 1 else d.year
  let monthFromMarch : Int := ((d.month : Int) + 9) % 12
  let yearOfEra := year % 400
  let dayOfYear := (153 * monthFromMarch + 2) / 5 + d.day - 1
  year / 400 * 146097 + (yearOfEra * 365 + yearOfEra / 4 - yearOfEra / 100 + dayOfYear) - 719468

/-- The date so many days after 1970-01-01. -/
def ofDays (days : Int) : Date :=
  let shifted := days + 719468
  let dayOfEra := shifted % 146097
  let yearOfEra := (dayOfEra - dayOfEra / 1460 + dayOfEra / 36524 - dayOfEra / 146096) / 365
  let dayOfYear := dayOfEra - (365 * yearOfEra + yearOfEra / 4 - yearOfEra / 100)
  let monthFromMarch := (5 * dayOfYear + 2) / 153
  let day := dayOfYear - (153 * monthFromMarch + 2) / 5 + 1
  let month := if monthFromMarch < 10 then monthFromMarch + 3 else monthFromMarch - 9
  let year := shifted / 146097 * 400 + yearOfEra + (if month ≤ 2 then 1 else 0)
  ⟨year, month.toNat, day.toNat⟩

/-- Days after the Monday on or before the day with this number; 1970-01-01 was a Thursday. -/
def weekdayIndex (days : Int) : Int := (days + 3) % 7

end Date

end Punctual
