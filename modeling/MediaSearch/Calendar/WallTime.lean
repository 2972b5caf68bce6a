/-
Instants and wall times.

An instant is a number of microseconds since the start of 1970 in universal time;
it is `representable` when its date in universal time is in the years 1 to 9999.
A wall time is what a clock and a calendar on a wall show: a date and a time of
day, with no zone attached.  A wall time is measured on the same scale as an
instant (`WallTime.micros`), so that a zone's offset is their difference.
-/
import MediaSearch.Calendar.Date

namespace MediaSearch.Calendar

/-- Microseconds since the start of 1970 in universal time. -/
abbrev Instant := Int

/-- The microseconds of a second. -/
def microsPerSecond : Int := 1000000

/-- The microseconds of a day. -/
def microsPerDay : Int := 86400 * microsPerSecond

/-- The number of the first of January 1970. -/
def epochDay : Int := 719163

/-- A date and a time of day. -/
structure WallTime where
  /-- The date. -/
  date : Date
  /-- The microseconds of the day that have passed. -/
  micro : Int
  /-- The time of day is before midnight. -/
  inDay : 0 ≤ micro ∧ micro < microsPerDay
  deriving DecidableEq

namespace WallTime

/-- The wall time's place on the scale of instants. -/
def micros (w : WallTime) : Int :=
  (w.date.dayNumber - epochDay) * microsPerDay + w.micro

/-- The wall time at a place on the scale, when its date is in range. -/
def ofMicros? (micros : Int) : Option WallTime :=
  (Date.ofDayNumber? (micros / microsPerDay + epochDay)).map fun date =>
    ⟨date, micros % microsPerDay, by unfold microsPerDay microsPerSecond; omega⟩

/-- The start of a date. -/
def midnight (date : Date) : WallTime :=
  ⟨date, 0, by decide⟩

/-- The wall time at so many hours, minutes, seconds and microseconds into a date. -/
def at? (date : Date) (hour minute second micro : Int) : Option WallTime :=
  if h : (0 ≤ hour ∧ hour ≤ 23) ∧ (0 ≤ minute ∧ minute ≤ 59) ∧ (0 ≤ second ∧ second ≤ 59)
      ∧ 0 ≤ micro ∧ micro < microsPerSecond then
    some ⟨date, ((hour * 60 + minute) * 60 + second) * microsPerSecond + micro, by
      unfold microsPerDay; unfold microsPerSecond at h ⊢; omega⟩
  else none

/-- The hour of the day. -/
def hour (w : WallTime) : Int := w.micro / (3600 * microsPerSecond)

/-- The minute of the hour. -/
def minute (w : WallTime) : Int := w.micro / (60 * microsPerSecond) % 60

/-- The second of the minute. -/
def second (w : WallTime) : Int := w.micro / microsPerSecond % 60

end WallTime

namespace Instant

/-- Whether the instant's date in universal time is in range. -/
def representable (t : Instant) : Bool :=
  (1 - epochDay) * microsPerDay ≤ t && t < (3652060 - epochDay) * microsPerDay

/-- The whole milliseconds since the start of 1970, rounded down. -/
def toMillis (t : Instant) : Int := t / 1000

/-- The instant so many milliseconds after the start of 1970. -/
def ofMillis (millis : Int) : Instant := millis * 1000

end Instant

end MediaSearch.Calendar
