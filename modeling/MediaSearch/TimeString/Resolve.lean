/-
From a time string to a moment or a span.

A relative time is counted from a reference time as the query's zone shows it; what is
left of the reference time by then is this local time alone.
Every span of the calendar is one midnight to the next: it has no value when one of
the two midnights is skipped, comes twice or lies outside the years 1 to 9999.
`resolve` tries the formats in order; the first one that has a value answers.
-/
import MediaSearch.Calendar.Zone
import MediaSearch.TimeSpec
import MediaSearch.TimeString.Format

namespace MediaSearch.TimeString

open Calendar

/-- Why a time string has no value. -/
inductive Failure
  /-- No format makes sense of the text. -/
  | unreadable (text : String)
  /-- The reference time has no offset from universal time. -/
  | floatingReference
  /-- A date leaves the years 1 to 9999 on the way. -/
  | outOfRange
  /-- A number has more digits than are read. -/
  | tooManyDigits (digits : Nat)
  /-- A span would end before it begins. -/
  | inverted (first last : Int)
  deriving DecidableEq

/-- A reference time. -/
inductive Reference
  /-- A wall time that belongs to no zone. -/
  | floating
  /-- An instant. -/
  | instant (t : Instant)
  /-- A local time of the zone that the query is read in. -/
  | wall (l : LocalTime)
  deriving DecidableEq

/-- A reference time as a zone shows it; a local time of that zone stays as it is, even when the
zone's clock skips it. -/
def Reference.inZone (reference : Reference) (z : Zone) : Except Failure LocalTime :=
  match reference with
  | floating => .error .floatingReference
  | instant t =>
    match z.shown? t with
    | some l => .ok l
    | none => .error .outOfRange
  | wall l => .ok l

/-- The instant of a reference time. -/
def Reference.instant? (reference : Reference) (z : Zone) : Option Instant :=
  match reference with
  | floating => none
  | instant t => some t
  | wall l => some (z.instantOf l)

/-! ### Spans of the calendar -/

/-- From the start of one date to the last millisecond before another. -/
def spanUntil (z : Zone) (first next : Date) : Except Failure (Option TimeSpec) :=
  match z.localize? (.midnight first), z.localize? (.midnight next) with
  | some start, some stop =>
    match TimeSpec.span? start.toMillis (stop.toMillis - 1) with
    | some spec => .ok (some spec)
    | none => .error (.inverted start.toMillis (stop.toMillis - 1))
  | _, _ => .ok none

/-- So many days from a date on. -/
def spanOfDays (z : Zone) (first : Date) (days : Int) : Except Failure (Option TimeSpec) :=
  match first.addDays? days with
  | some next => spanUntil z first next
  | none => .ok none

/-- The whole day with these fields. -/
def dayRange (z : Zone) (year month day : Int) : Except Failure (Option TimeSpec) :=
  match Date.of? year month day with
  | some date => spanOfDays z date 1
  | none => .ok none

/-- The week that begins on a date. -/
def weekRange (z : Zone) (sunday : Date) : Except Failure (Option TimeSpec) :=
  spanOfDays z sunday 7

/-- A month of a year. -/
def monthRange (z : Zone) (year month : Int) : Except Failure (Option TimeSpec) :=
  let next := if month == 12 then Date.of? (year + 1) 1 1 else Date.of? year (month + 1) 1
  match Date.of? year month 1, next with
  | some first, some next => spanUntil z first next
  | _, _ => .ok none

/-- A year. -/
def yearRange (z : Zone) (year : Int) : Except Failure (Option TimeSpec) :=
  match Date.of? year 1 1, Date.of? (year + 1) 1 1 with
  | some first, some next => spanUntil z first next
  | _, _ => .ok none

/-! ### The meanings -/

/-- The instant of a timestamp: nothing when its fields name none, and out of range when midnight
at the end of the last day is meant. -/
def Stamp.instant (s : Stamp) : Except Failure (Option Instant) :=
  match Date.of? s.year s.month s.day with
  | none => .ok none
  | some date =>
    if 23 < s.offsetHour || 59 < s.offsetMinute then .ok none
    else
      let east : Int := if s.west then -1 else 1
      let offset := east * (s.offsetHour * 60 + s.offsetMinute) * 60 * microsPerSecond
      if s.hour == 24 then
        if s.minute == 0 && s.second == 0 && s.micro == 0 then
          match date.addDays? 1 with
          | some next => .ok (some ((WallTime.midnight next).micros - offset))
          | none => .error .outOfRange
        else .ok none
      else
        .ok ((WallTime.at? date s.hour s.minute s.second s.micro).map fun w => w.micros - offset)

/-- A moment, given by its instant. -/
def momentAt (t : Instant) : TimeSpec :=
  .moment t.toMillis

/-- The local time so many months back, when that month has the day; a year is counted in 32
bits. -/
def shiftMonths (l : LocalTime) (months : Int) : Except Failure (Option LocalTime) :=
  let number := l.wall.date.monthNumber - months
  let year := number / 12
  if year < -2147483648 || 2147483647 < year then .error .outOfRange
  else .ok ((l.wall.date.inMonth? number).map l.onDate)

/-- The moment a duration before now.  Seconds are taken off universal time, and so now is taken
back to it from the local time. -/
def before (now : LocalTime) (z : Zone) : Duration → Except Failure (Option TimeSpec)
  | .seconds count =>
    let t := z.instantOf now
    let earlier : Instant := t - count * microsPerSecond
    .ok (if t.representable && earlier.representable then some (momentAt earlier) else none)
  | .months count => do
    let shifted ← shiftMonths now count
    pure ((shifted.bind z.localize?).map momentAt)

/-- The Sunday that the week of now began on. -/
def sundayOf (now : LocalTime) : Except Failure Date :=
  let today := now.wall.date
  match today.addDays? (-today.daysSinceSunday) with
  | some sunday => .ok sunday
  | none => .error .outOfRange

/-- A date so many days back, which has to be in range. -/
def daysBack (d : Date) (days : Int) : Except Failure Date :=
  match d.addDays? (-days) with
  | some earlier => .ok earlier
  | none => .error .outOfRange

/-- The span of a named period. -/
def Period.resolve (now : LocalTime) (z : Zone) (period : Period) :
    Except Failure (Option TimeSpec) := do
  let date := now.wall.date
  match period with
  | .today => spanOfDays z date 1
  | .yesterday => spanOfDays z (← daysBack date 1) 1
  | .thisWeek => weekRange z (← sundayOf now)
  | .lastWeek => weekRange z (← daysBack (← sundayOf now) 7)
  | .thisMonth => monthRange z date.year date.month
  | .lastMonth =>
    if date.month == 1 then monthRange z (date.year - 1) 12
    else monthRange z date.year (date.month - 1)
  | .thisYear => yearRange z date.year
  | .lastYear => yearRange z (date.year - 1)

/-- The moment or span that is meant, when there is one. -/
def Meaning.resolve (meaning : Meaning) (now : LocalTime) (z : Zone) :
    Except Failure (Option TimeSpec) :=
  match meaning with
  | .stamp fields => do pure ((← fields.instant).map momentAt)
  | .ago duration => before now z duration
  | .longAgo digits => .error (.tooManyDigits digits)
  | .period name => name.resolve now z
  | .month number =>
    let today := now.wall.date
    monthRange z (if number ≤ today.month then today.year else today.year - 1) number
  | .year number => yearRange z number
  | .millis value => .ok (some (.moment value))
  | .longMillis digits => .error (.tooManyDigits digits)
  | .day y m d => dayRange z y m d

/-! ### The formats -/

/-- The value of a text in one format.  The week of now is looked up before a period's name is,
so that a reference time without a whole week before it is refused there. -/
def Format.value (format : Format) (text : List Char) (now : LocalTime) (z : Zone) :
    Except Failure (Option TimeSpec) := do
  if format = .period then
    let _ ← sundayOf now
  match format.read text with
  | some meaning => meaning.resolve now z
  | none => pure none

/-- The value of a text in the first of the formats that has one. -/
def firstValue (text : List Char) (now : LocalTime) (z : Zone) :
    List Format → Except Failure TimeSpec
  | [] => .error (.unreadable (String.ofList text))
  | format :: formats => do
    match ← format.value text now z with
    | some spec => pure spec
    | none => firstValue text now z formats

/-- The moment or span that a time string stands for. -/
def resolve (text : String) (reference : Reference) (z : Zone) : Except Failure TimeSpec := do
  firstValue (Text.strip text.toList) (← reference.inZone z) z Format.all

/-! ### What is reported -/

/-- The text of a failure, where it has one. -/
def Failure.message? : Failure → Option String
  | unreadable text => some ("Could not parse time string: " ++ text)
  | floatingReference => some "now must be timezone-aware"
  | outOfRange => none
  | tooManyDigits _ => none
  | inverted first last => some (TimeSpec.disorderMessage first last)

end MediaSearch.TimeString
