/-
Looking time zones up by name.

Where zones come from is left open: a source answers a name with a zone, does not know it,
or fails, as when the name leads to a file that holds no zone.
-/
import MediaSearch.Calendar.Zone
import MediaSearch.Text.Blank

namespace MediaSearch.Calendar

/-- What looking a zone up comes to. -/
inductive ZoneAnswer
  /-- The zone of that name. -/
  | found (zone : Zone)
  /-- There is none. -/
  | unknown
  /-- Looking for it has failed. -/
  | fails

/-- Where time zones are looked up. -/
structure ZoneSource where
  /-- The answer for a name that is not blank and has no blanks at its ends. -/
  find : String → ZoneAnswer

/-- The answer for a name as it is written; there is no zone without a name. -/
def ZoneSource.named (zones : ZoneSource) (name : String) : ZoneAnswer :=
  let stripped := Text.strip name.toList
  if stripped.isEmpty then .unknown else zones.find (String.ofList stripped)

/-- The name of the zone that is used when none is asked for. -/
def Zone.defaultName : String := "America/New_York"

end MediaSearch.Calendar
