/-
The zones that there is a table for.

A space inside a name stands for the underscore that the name is spelled with.
-/
import MediaSearch.Calendar.ZoneSource
import MediaSearch.Calendar.Zones.America
import MediaSearch.Calendar.Zones.Asia
import MediaSearch.Calendar.Zones.Elsewhere
import MediaSearch.Calendar.Zones.Europe

namespace MediaSearch.Calendar

/-- Every table by the name of its zone. -/
def ZoneTable.named : List (String × ZoneTable) :=
  [("Africa/Casablanca", casablanca), ("America/Havana", havana), ("America/New_York", newYork),
   ("America/Santiago", santiago), ("America/Sao_Paulo", saoPaulo),
   ("America/St_Johns", stJohns), ("Antarctica/Troll", troll), ("Asia/Beirut", beirut),
   ("Asia/Kathmandu", kathmandu), ("Asia/Kolkata", kolkata), ("Asia/Tehran", tehran),
   ("Asia/Tokyo", tokyo), ("Australia/Lord_Howe", lordHowe), ("Etc/GMT+12", gmtPlus12),
   ("Europe/Berlin", berlin), ("Europe/Dublin", dublin), ("Europe/London", london),
   ("GMT", utc), ("Pacific/Apia", apia), ("Pacific/Kiritimati", kiritimati),
   ("US/Eastern", newYork), ("UTC", utc)]

/-- The zones of the tables. -/
def ZoneSource.tables : ZoneSource where
  find name :=
    let spelled := String.ofList (name.toList.map fun c => if c == ' ' then '_' else c)
    match ZoneTable.named.lookup spelled with
    | some table => .found table.zone
    | none => .unknown

namespace Zone

/-- Universal time. -/
def utc : Zone := ZoneTable.utc.zone

/-- The zone America/New_York. -/
def newYork : Zone := ZoneTable.newYork.zone

/-- The zone Pacific/Kiritimati. -/
def kiritimati : Zone := ZoneTable.kiritimati.zone

end Zone

end MediaSearch.Calendar
