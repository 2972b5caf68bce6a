/-
The time that relative times are counted from, as it is given on a command line.
-/
import MediaSearch.Calendar.IsoReader
import MediaSearch.Query.Parser

namespace MediaSearch.Cli

open Calendar

/-- The reference time that a text gives; without an offset it is a time of the zone. -/
def reference? (text : String) : Option TimeString.Reference :=
  (IsoTime.read? text).map fun time =>
    match time.instant? with
    | some t => .instant t
    | none => .wall ⟨time.wall, false⟩

end MediaSearch.Cli
