/-
How times and tags are shown to a reader.
-/
import MediaSearch.Calendar.Iso
import MediaSearch.Item.Basic

namespace MediaSearch.Cli

open Calendar

/-- A time of publication in a table: to the minute, or as its milliseconds when it is out of
range. -/
def publishedCell (z : Zone) (millis : Int) : String :=
  (z.minuteText? (Instant.ofMillis millis)).getD (toString millis)

/-- A moment in full: its time, where it is in range, and its milliseconds. -/
def momentText (z : Zone) (millis : Int) : String :=
  match z.isoText? (Instant.ofMillis millis) with
  | some iso => iso ++ " (" ++ toString millis ++ " ms)"
  | none => toString millis ++ " ms"

/-- How many tags a table shows of an item. -/
def shownTags : Nat := 5

/-- The tags of an item in a table: the first ones, and how many more there are. -/
def tagsCell (tags : List Tag) : String :=
  ", ".intercalate ((tags.take shownTags).map Tag.value)
    ++ (if shownTags < tags.length then
          " (+" ++ toString (tags.length - shownTags) ++ ")"
        else "")

end MediaSearch.Cli
