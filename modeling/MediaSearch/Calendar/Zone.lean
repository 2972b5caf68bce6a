/-
Time zones.

A zone is what its clock shows at each instant, and what it makes of a time on that clock.
The clock is put forward and back, so a time can be skipped or come twice: which of the two
it is, is told by a local time, and whether it comes twice, by the zone.  From universal
time to local time (`shown?`) and back (`instantOf`) are two conversions, and nothing ties
the one to the other: where something rests on their undoing each other, it says so.

A local time stands for an instant (`localize?`) only if it comes once: the zone's clock
shows it at that instant, and the zone does not call it ambiguous.
-/
import MediaSearch.Calendar.WallTime

namespace MediaSearch.Calendar

/-- A time on a zone's clock. -/
structure LocalTime where
  /-- What the clock shows. -/
  wall : WallTime
  /-- Whether it is the second time that the clock shows it. -/
  fold : Bool
  deriving DecidableEq

/-- The start of a date. -/
def LocalTime.midnight (date : Date) : LocalTime :=
  ⟨.midnight date, false⟩

/-- The same time of day on another date. -/
def LocalTime.onDate (l : LocalTime) (date : Date) : LocalTime :=
  ⟨⟨date, l.wall.micro, l.wall.inDay⟩, l.fold⟩

/-- A time zone; its offsets are in seconds east of universal time. -/
structure Zone where
  /-- How far its clock is ahead of universal time at an instant. -/
  offsetAt : Instant → Int
  /-- Whether its clock shows something for the second time at an instant. -/
  fold : Instant → Bool
  /-- The offset of a local time, also of one that its clock skips. -/
  offsetOf : LocalTime → Int
  /-- Whether its clock shows a wall time twice. -/
  ambiguous : WallTime → Bool
  /-- The offset of a local time is less than a day. -/
  offsetOf_lt : ∀ l, (offsetOf l).natAbs < 86400

namespace Zone

/-- What the zone's clock shows at an instant, on the scale of instants. -/
def clock (z : Zone) (t : Instant) : Int :=
  t + z.offsetAt t * microsPerSecond

/-- The local time at an instant, when the instant and the local time are both in range. -/
def shown? (z : Zone) (t : Instant) : Option LocalTime :=
  if t.representable then (WallTime.ofMicros? (z.clock t)).map fun wall => ⟨wall, z.fold t⟩
  else none

/-- The instant of a local time, by its offset. -/
def instantOf (z : Zone) (l : LocalTime) : Instant :=
  l.wall.micros - z.offsetOf l * microsPerSecond

/-- The instant that a local time stands for: it is in range, the zone's clock shows the local time
then, and does not show it twice. -/
def localize? (z : Zone) (l : LocalTime) : Option Instant :=
  let t := z.instantOf l
  if t.representable && z.clock t == l.wall.micros && !z.ambiguous l.wall then some t else none

end Zone

end MediaSearch.Calendar
