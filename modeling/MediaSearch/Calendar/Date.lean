/-
Dates of the Gregorian calendar, years 1 to 9999.

A `Date` carries the proof that it exists, so a date that cannot be is never built:
`Date.of?` is the only way in.  Days are numbered from 1, the first of January of
year 1; `dayNumber` and `ofDayNumber?` go back and forth, in closed form, and every
step over a number of days goes through them.
-/

namespace MediaSearch.Calendar

/-- Whether a year has a 29th of February. -/
def isLeap (year : Int) : Bool :=
  year % 4 == 0 && (year % 100 != 0 || year % 400 == 0)

/-- How many days a month has. -/
def daysInMonth (year month : Int) : Int :=
  if month == 2 then (if isLeap year then 29 else 28)
  else if month == 4 || month == 6 || month == 9 || month == 11 then 30
  else 31

/-- Whether the three fields name a day of the years 1 to 9999. -/
def IsDate (year month day : Int) : Prop :=
  1 ≤ year ∧ year ≤ 9999 ∧ 1 ≤ month ∧ month ≤ 12 ∧ 1 ≤ day ∧ day ≤ daysInMonth year month

instance (year month day : Int) : Decidable (IsDate year month day) := by
  unfold IsDate; infer_instance

/-- A day of the calendar. -/
structure Date where
  /-- The year, 1 to 9999. -/
  year : Int
  /-- The month, 1 to 12. -/
  month : Int
  /-- The day of the month. -/
  day : Int
  /-- The day exists. -/
  isDate : IsDate year month day
  deriving DecidableEq

namespace Date

/-- The date with these fields, when there is one. -/
def of? (year month day : Int) : Option Date :=
  if h : IsDate year month day then some ⟨year, month, day, h⟩ else none

/-! ### Days in a row -/

/-- How many days come before the first of January of a year. -/
def daysBeforeYear (year : Int) : Int :=
  let past := year - 1
  365 * past + past / 4 - past / 100 + past / 400

/-- How many days of a year come before the first of a month. -/
def daysBeforeMonth (year month : Int) : Int :=
  (367 * month - 362) / 12 - (if month ≤ 2 then 0 else if isLeap year then 1 else 2)

/-- The number of a date, counting the first of January of year 1 as day 1. -/
def dayNumber (d : Date) : Int :=
  daysBeforeYear d.year + daysBeforeMonth d.year d.month + d.day

/-- The year that a day number falls in: the mean length of a year gives it up to one. -/
def yearOfDay (number : Int) : Int :=
  let guess := 400 * (number - 1) / 146097 + 1
  if daysBeforeYear (guess + 1) < number then guess + 1
  else if daysBeforeYear guess < number then guess
  else guess - 1

/-- The month of a year that its `passed`-th day falls in, counting from 0. -/
def monthOfDay (year passed : Int) : Int :=
  let shift := if passed < daysBeforeMonth year 3 then 0 else if isLeap year then 1 else 2
  (12 * (passed + shift) + 373) / 367

/-- The date with this number, when it is in the years 1 to 9999. -/
def ofDayNumber? (number : Int) : Option Date :=
  let year := yearOfDay number
  let passed := number - daysBeforeYear year - 1
  let month := monthOfDay year passed
  of? year month (passed - daysBeforeMonth year month + 1)

/-- The date so many days later, or earlier when `days` is negative. -/
def addDays? (d : Date) (days : Int) : Option Date :=
  ofDayNumber? (d.dayNumber + days)

/-- How many days have passed since the last Sunday; 0 on a Sunday. -/
def daysSinceSunday (d : Date) : Int :=
  d.dayNumber % 7

/-! ### Months in a row -/

/-- The number of the date's month, counting every month since year 0. -/
def monthNumber (d : Date) : Int :=
  d.year * 12 + (d.month - 1)

/-- The same day in the month with this number, when that month has such a day. -/
def inMonth? (d : Date) (number : Int) : Option Date :=
  of? (number / 12) (number % 12 + 1) d.day

end Date

end MediaSearch.Calendar
