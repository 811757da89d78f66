/-
The Gregorian calendar, extended to all years.

A day is counted from 1970-01-01.  Years begin in March for the count, so that the leap day ends a
year: `dayNumber` and `Date.ofDayNumber` cut a day count into spans of 400, 100, 4 and 1 years.
-/

namespace StaticSite.Time

/-- A day of the calendar. -/
structure Date where
  year : Int
  month : Nat
  day : Nat
  deriving Repr, DecidableEq

/-- Does the year have a leap day? -/
def isLeapYear (year : Int) : Bool := year % 4 == 0 && (year % 100 != 0 || year % 400 == 0)

/-- The number of days of a month. -/
def daysInMonth (year : Int) (month : Nat) : Nat :=
  if month = 2 then if isLeapYear year then 29 else 28
  else if month = 4 ∨ month = 6 ∨ month = 9 ∨ month = 11 then 30
  else 31

/-- The first year that can be written. -/
def firstYear : Int := -262143

/-- The last year that can be written. -/
def lastYear : Int := 262142

/-- Does the calendar have this day, in the years that can be written? -/
def Date.isValid (d : Date) : Bool :=
  firstYear ≤ d.year && d.year ≤ lastYear && 1 ≤ d.month && d.month ≤ 12 &&
    1 ≤ d.day && d.day ≤ daysInMonth d.year d.month

/-- The days of a year before a month, both counted from March as zero. -/
def daysBeforeMonth (month : Nat) : Nat := (153 * month + 2) / 5

/-- The number of days from 1970-01-01. -/
def Date.dayNumber (d : Date) : Int :=
  let year := if d.month ≤ 2 then d.year - 1 else d.year
  let month := if d.month ≤ 2 then d.month + 9 else d.month - 3
  let era := year / 400
  let yearOfEra := year % 400
  let dayOfYear := (daysBeforeMonth month + d.day : Int) - 1
  era * 146097 + (yearOfEra * 365 + yearOfEra / 4 - yearOfEra / 100 + dayOfYear) - 719468

/-- The date of a number of days from 1970-01-01. -/
def Date.ofDayNumber (n : Int) : Date :=
  let shifted := n + 719468
  let era := shifted / 146097
  let dayOfEra := (shifted % 146097).toNat
  let century := min 3 (dayOfEra / 36524)
  let dayOfCentury := dayOfEra - century * 36524
  let quad := dayOfCentury / 1461
  let dayOfQuad := dayOfCentury - quad * 1461
  let yearOfQuad := min 3 (dayOfQuad / 365)
  let dayOfYear := dayOfQuad - yearOfQuad * 365
  let month := (5 * dayOfYear + 2) / 153
  let year : Int := era * 400 + (century * 100 + quad * 4 + yearOfQuad : Nat)
  { year := if month < 10 then year else year + 1
    month := if month < 10 then month + 3 else month - 9
    day := dayOfYear - daysBeforeMonth month + 1 }

/-- Milliseconds of a day. -/
def millisPerDay : Int := 86400000

/-- A point in time of the calendar, to the second. -/
structure Moment where
  date : Date
  hour : Nat
  minute : Nat
  second : Nat
  deriving Repr, DecidableEq

/-- Milliseconds since 1970-01-01T00:00:00Z. -/
def Moment.millis (m : Moment) : Int :=
  m.date.dayNumber * millisPerDay + (((m.hour * 60 + m.minute) * 60 + m.second) * 1000 : Nat)

/-- The moment of a number of milliseconds since 1970-01-01T00:00:00Z, rounded down to the second;
there is none when its year cannot be written. -/
def Moment.ofMillis? (millis : Int) : Option Moment :=
  let date := Date.ofDayNumber (millis / millisPerDay)
  let second := (millis % millisPerDay / 1000).toNat
  if firstYear ≤ date.year ∧ date.year ≤ lastYear then
    some ⟨date, second / 3600, second / 60 % 60, second % 60⟩
  else none

end StaticSite.Time
