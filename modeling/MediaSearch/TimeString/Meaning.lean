/-
What a time string says, before any clock is looked at.

The same meaning can be spelled in several ways: the three single-day formats all
say `Meaning.day`, and `3 weeks ago` says the same as `21 days ago`.  Only
`Meaning.resolve` (in `TimeString/Resolve.lean`) turns a meaning into a moment or a
span, and it sees the meaning alone, never the spelling.
-/

namespace MediaSearch.TimeString

/-- How far back a relative time goes. -/
inductive Duration
  /-- Seconds of absolute time. -/
  | seconds (count : Nat)
  /-- Months of the calendar. -/
  | months (count : Nat)
  deriving DecidableEq

/-- A duration so many times over. -/
def Duration.times (n : Nat) : Duration → Duration
  | seconds count => seconds (n * count)
  | months count => months (n * count)

/-- The units of relative times: up to the week they have a fixed length, a month and a year walk
the calendar. -/
def units : List (String × Duration) :=
  [("second", .seconds 1), ("minute", .seconds 60), ("hour", .seconds 3600),
   ("day", .seconds 86400), ("week", .seconds 604800), ("month", .months 1), ("year", .months 12)]

/-- The periods named by their place around now. -/
inductive Period
  | today
  | yesterday
  | thisWeek
  | lastWeek
  | thisMonth
  | lastMonth
  | thisYear
  | lastYear
  deriving DecidableEq

/-- The periods by their names. -/
def periods : List (String × Period) :=
  [("today", .today), ("yesterday", .yesterday), ("this week", .thisWeek),
   ("last week", .lastWeek), ("this month", .thisMonth), ("last month", .lastMonth),
   ("this year", .thisYear), ("last year", .lastYear)]

/-- The months by their names and abbreviations. -/
def months : List (String × Int) :=
  [("january", 1), ("jan", 1), ("february", 2), ("feb", 2), ("march", 3), ("mar", 3),
   ("april", 4), ("apr", 4), ("may", 5), ("june", 6), ("jun", 6), ("july", 7), ("jul", 7),
   ("august", 8), ("aug", 8), ("september", 9), ("sep", 9), ("sept", 9), ("october", 10),
   ("oct", 10), ("november", 11), ("nov", 11), ("december", 12), ("dec", 12)]

/-- The fields of a full timestamp as they are written; they need not name a time that exists. -/
structure Stamp where
  /-- The year. -/
  year : Nat
  /-- The month. -/
  month : Nat
  /-- The day of the month. -/
  day : Nat
  /-- The hour; 24 is allowed for midnight at the end of the day. -/
  hour : Nat
  /-- The minute. -/
  minute : Nat
  /-- The second. -/
  second : Nat
  /-- The microsecond; finer digits are dropped. -/
  micro : Nat
  /-- Whether the offset is west of universal time. -/
  west : Bool
  /-- The hours of the offset. -/
  offsetHour : Nat
  /-- The minutes of the offset. -/
  offsetMinute : Nat
  deriving DecidableEq

/-- What a time string says. -/
inductive Meaning
  /-- A time of day on a date, with its offset from universal time. -/
  | stamp (fields : Stamp)
  /-- So long before now. -/
  | ago (duration : Duration)
  /-- Before now by a number with more digits than are read. -/
  | longAgo (digits : Nat)
  /-- A period around now. -/
  | period (name : Period)
  /-- The last month of this name that has started. -/
  | month (number : Int)
  /-- A year of the calendar. -/
  | year (number : Int)
  /-- A moment in milliseconds since the start of 1970. -/
  | millis (value : Int)
  /-- The same with more digits than are read. -/
  | longMillis (digits : Nat)
  /-- A day of the calendar, if it exists. -/
  | day (year month day : Int)
  deriving DecidableEq

end MediaSearch.TimeString
