/-!
# Dates and moments

Dates of the proleptic Gregorian calendar, and moments, which are dates with a time of day.
Days are counted from 1 January 1970; years have a fixed supported range.

## Main definitions

* `Date`: a year, a month and a day
* `Date.dayNumber`, `Date.ofDayNumber`: dates as counted days
* `Date.isValid`: whether the day exists in the supported range
* `Date.weekday`, `Date.ordinal`, `Date.isoWeek`: places in the week and in the year
* `Moment`: a date with a time of day
* `Moment.ofTimestamp?`: the moment of a count of seconds
-/

namespace Stencil

/-- A date of the Gregorian calendar. -/
structure Date where
  /-- The year; year zero is the one before year one. -/
  year : Int
  /-- The month, from one. -/
  month : Nat
  /-- The day of the month, from one. -/
  day : Nat
  deriving DecidableEq, Repr

namespace Date

/-- The first supported year. -/
def minYear : Int := -262143

/-- The last supported year. -/
def maxYear : Int := 262142

/-- Whether a year has a 29 February. -/
def isLeapYear (year : Int) : Bool :=
  year % 4 == 0 && (year % 100 != 0 || year % 400 == 0)

/-- The number of days of a month. -/
def daysInMonth (year : Int) (month : Nat) : Nat :=
  if month = 2 then if isLeapYear year then 29 else 28
  else if month = 4 ∨ month = 6 ∨ month = 9 ∨ month = 11 then 30
  else 31

/-- Whether the date exists and its year is supported. -/
def isValid (date : Date) : Bool :=
  minYear ≤ date.year && date.year ≤ maxYear && 1 ≤ date.month && date.month ≤ 12 &&
    1 ≤ date.day && date.day ≤ daysInMonth date.year date.month

/-- The number of days from 1 January 1970. The count runs over years that start in March,
so that leap days come last, and over periods of 400 years with 146097 days. -/
def dayNumber (date : Date) : Int :=
  let year := if date.month ≤ 2 then date.year - 1 else date.year
  let era := year / 400
  let yearOfEra := year % 400
  let monthFromMarch : Int := (date.month + 9) % 12
  let dayOfYear := (153 * monthFromMarch + 2) / 5 + date.day - 1
  let dayOfEra := yearOfEra * 365 + yearOfEra / 4 - yearOfEra / 100 + dayOfYear
  era * 146097 + dayOfEra - 719468

/-- The date some days from 1 January 1970. -/
def ofDayNumber (number : Int) : Date :=
  let shifted := number + 719468
  let era := shifted / 146097
  let dayOfEra := shifted % 146097
  let yearOfEra := (dayOfEra - dayOfEra / 1460 + dayOfEra / 36524 - dayOfEra / 146096) / 365
  let dayOfYear := dayOfEra - (365 * yearOfEra + yearOfEra / 4 - yearOfEra / 100)
  let monthFromMarch := (5 * dayOfYear + 2) / 153
  let day := dayOfYear - (153 * monthFromMarch + 2) / 5 + 1
  let month := if monthFromMarch < 10 then monthFromMarch + 3 else monthFromMarch - 9
  ⟨yearOfEra + era * 400 + (if month ≤ 2 then 1 else 0), month.toNat, day.toNat⟩

/-- The date a number of days from 1 January 1970, if its year is supported. -/
def ofDayNumber? (number : Int) : Option Date :=
  let date := ofDayNumber number
  if minYear ≤ date.year ∧ date.year ≤ maxYear then some date else none

/-- The day of the week, counted from Monday as zero. -/
def weekday (date : Date) : Nat :=
  ((date.dayNumber + 3) % 7).toNat

/-- The day of the year, from one. -/
def ordinal (date : Date) : Nat :=
  (date.dayNumber - Date.dayNumber ⟨date.year, 1, 1⟩ + 1).toNat

/-- The week of the year, where weeks start on a given day and the days before the first of
these belong to week zero. -/
def weekFrom (firstDay : Nat) (date : Date) : Nat :=
  (date.ordinal + 6 - (date.weekday + 7 - firstDay) % 7) / 7

/-- The year and the number of the week that holds the Thursday nearest to the date. -/
def isoWeek (date : Date) : Int × Nat :=
  let thursday := ofDayNumber (date.dayNumber - date.weekday + 3)
  (thursday.year, (thursday.ordinal - 1) / 7 + 1)

end Date

/-- A date with a time of day. In a leap second the fraction exceeds a second. -/
structure Moment where
  /-- The date. -/
  date : Date
  /-- The seconds of the day, without a leap second. -/
  second : Nat
  /-- The fraction of the second, in billionths. -/
  nano : Nat
  deriving DecidableEq, Repr

namespace Moment

/-- The hour of the day. -/
def hour (moment : Moment) : Nat := moment.second / 3600

/-- The minute of the hour. -/
def minute (moment : Moment) : Nat := moment.second / 60 % 60

/-- The second of the minute, 60 in a leap second. -/
def secondOfMinute (moment : Moment) : Nat := moment.second % 60 + moment.nano / Nat.pow 10 9

/-- The start of a day. -/
def ofDate (date : Date) : Moment := ⟨date, 0, 0⟩

/-- The moment some seconds after the start of 1970, if its year is supported. -/
def ofTimestamp? (seconds : Int) : Option Moment :=
  (Date.ofDayNumber? (seconds / 86400)).map fun date => ⟨date, (seconds % 86400).toNat, 0⟩

/-- The number of seconds from the start of 1970. -/
def timestamp (moment : Moment) : Int :=
  moment.date.dayNumber * 86400 + moment.second

end Moment

end Stencil
