/-
Time zones by table.

A table has the instants at which a zone's offset from universal time changed, and a rule
for the time after it ends.  The instants at which the clock shows a reading are then found
by trying every offset (`instantsShowing`), and from these follows all that a zone tells
about a local time (`zone`).
-/
import MediaSearch.Calendar.Zone

namespace MediaSearch.Calendar

/-- A day of the year given by its weekday, and a moment of it. -/
structure YearDay where
  /-- The month, 1 to 12. -/
  month : Int
  /-- The week of the month, 1 to 4, or 5 for the last one. -/
  week : Int
  /-- The weekday, 0 for Sunday. -/
  weekday : Int
  /-- The seconds from that day's midnight; they may leave the day. -/
  second : Int
  deriving Repr

/-- The seconds from the start of 1970 to a year day of a year, both by the wall clock. -/
def YearDay.seconds (d : YearDay) (year : Int) : Int :=
  let first := Date.daysBeforeYear year + Date.daysBeforeMonth year d.month + 1
  let day := (d.weekday - first) % 7 + 7 * (d.week - 1)
  let day := if daysInMonth year d.month ≤ day then day - 7 else day
  (first + day - epochDay) * 86400 + d.second

/-- The offset after a zone's table ends. -/
inductive ZoneTail
  /-- One offset for good. -/
  | fixed (offset : Int)
  /-- A winter offset, a summer offset, and the days between which summer time is in force; each
  is read on the clock that it ends. -/
  | yearly (standard summer : Int) (start stop : YearDay)
  deriving Repr

namespace ZoneTail

/-- The offset at a time in seconds since the start of 1970. -/
def offsetAt : ZoneTail → Int → Int
  | fixed offset, _ => offset
  | yearly standard summer start stop, second =>
    let year := Date.yearOfDay (second / 86400 + epochDay)
    let begins := start.seconds year - standard
    let ends := stop.seconds year - summer
    let inSummer :=
      if begins < ends then begins ≤ second && second < ends
      else !(ends ≤ second && second < begins)
    if inSummer then summer else standard

/-- The offsets that the rule can answer. -/
def offsets : ZoneTail → List Int
  | fixed offset => [offset]
  | yearly standard summer _ _ => [standard, summer]

theorem offsetAt_mem_offsets (tail : ZoneTail) (second : Int) :
    tail.offsetAt second ∈ tail.offsets := by
  cases tail with
  | fixed offset => exact List.mem_singleton.mpr rfl
  | yearly standard summer start stop =>
      unfold offsetAt offsets
      dsimp only
      split <;> split <;> simp

end ZoneTail

/-- A change of a zone's offset. -/
structure OffsetChange where
  /-- When, in seconds since the start of 1970. -/
  second : Int
  /-- The offset from then on. -/
  offset : Int
  deriving Repr

/-- The table of a time zone; every offset is in seconds east of universal time. -/
structure ZoneTable where
  /-- The offset before the first change. -/
  initial : Int
  /-- The changes in order. -/
  changes : List OffsetChange
  /-- The rule after the last change. -/
  tail : ZoneTail
  /-- Every offset is less than a day. -/
  bounded : ∀ offset ∈ initial :: changes.map OffsetChange.offset ++ tail.offsets,
    offset.natAbs < 86400 := by decide +kernel

namespace ZoneTable

/-- The offset in force at a time, by a table that is entered with a given offset. -/
def offsetIn (tail : ZoneTail) (second : Int) : Int → List OffsetChange → Int
  | _, [] => tail.offsetAt second
  | current, change :: later =>
    if second < change.second then current else offsetIn tail second change.offset later

/-- The offset in force at an instant, in seconds. -/
def offsetAt (z : ZoneTable) (t : Instant) : Int :=
  offsetIn z.tail (t / microsPerSecond) z.initial z.changes

/-- Every offset that the zone ever has, each once. -/
def offsets (z : ZoneTable) : List Int :=
  (z.initial :: z.changes.map OffsetChange.offset ++ z.tail.offsets).eraseDups

/-- What the zone's clock shows at an instant, on the scale of instants. -/
def clock (z : ZoneTable) (t : Instant) : Int :=
  t + z.offsetAt t * microsPerSecond

/-- The instants at which the zone's clock shows a reading. -/
def instantsShowing (z : ZoneTable) (reading : Int) : List Instant :=
  (z.offsets.map fun offset => reading - offset * microsPerSecond).filter
    fun t => z.clock t == reading

/-- An instant at which the offset of a local time is in force: the first or the second at which
the clock shows it.  For one that is skipped it is an instant before the clock was put forward over
it.  Libraries differ here, and what is shown of a zone never rests on it. -/
def entered (z : ZoneTable) (l : LocalTime) : Instant :=
  let reading := l.wall.micros
  let showing := z.instantsShowing reading
  (if l.fold then showing.max? else showing.min?).getD
    (reading - z.offsets.foldl max z.initial * microsPerSecond)

theorem offsetIn_mem {tail : ZoneTail} {second : Int} :
    ∀ (changes : List OffsetChange) (current : Int),
      offsetIn tail second current changes
        ∈ current :: changes.map OffsetChange.offset ++ tail.offsets := by
  intro changes
  induction changes with
  | nil =>
      intro current
      exact List.mem_append_right _ (tail.offsetAt_mem_offsets second)
  | cons change later ih =>
      intro current
      unfold offsetIn
      split
      · exact List.mem_cons_self
      · exact List.mem_cons_of_mem _ (ih change.offset)

/-- The zone that a table is of. -/
def zone (z : ZoneTable) : Zone where
  offsetAt := z.offsetAt
  fold t := (z.instantsShowing (z.clock t)).any (· < t)
  offsetOf l := z.offsetAt (z.entered l)
  ambiguous w := 1 < (z.instantsShowing w.micros).length
  offsetOf_lt _ := z.bounded _ (offsetIn_mem z.changes z.initial)

end ZoneTable

end MediaSearch.Calendar
