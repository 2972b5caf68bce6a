/-
How instants are written.

The exact form is `YYYY-MM-DDTHH:MM:SS.mmm` with the offset behind it, whose
seconds are written only when there are any.  The short form, for tables, stops at
the minute and does not fill the year up with zeros.
-/
import MediaSearch.Text.Digits
import MediaSearch.Calendar.Zone

namespace MediaSearch.Calendar

open Text (padded)

/-- A date as `YYYY-MM-DD`. -/
def Date.text (d : Date) : String :=
  padded 4 d.year.toNat ++ "-" ++ padded 2 d.month.toNat ++ "-" ++ padded 2 d.day.toNat

/-- An offset as `+HH:MM`, or `+HH:MM:SS` when it has seconds. -/
def offsetText (offset : Int) : String :=
  let size := offset.natAbs
  (if offset < 0 then "-" else "+") ++ padded 2 (size / 3600) ++ ":" ++ padded 2 (size / 60 % 60)
    ++ (if size % 60 == 0 then "" else ":" ++ padded 2 (size % 60))

/-- A wall time with an offset, to the millisecond. -/
def WallTime.text (w : WallTime) (offset : Int) : String :=
  w.date.text ++ "T" ++ padded 2 w.hour.toNat ++ ":" ++ padded 2 w.minute.toNat ++ ":"
    ++ padded 2 w.second.toNat ++ "." ++ padded 3 (w.micro / 1000 % 1000).toNat
    ++ offsetText offset

/-- An instant as a zone shows it, to the millisecond. -/
def Zone.isoText? (z : Zone) (t : Instant) : Option String :=
  (z.shown? t).map fun l => l.wall.text (z.offsetOf l)

/-- An instant as a zone shows it, to the minute. -/
def Zone.minuteText? (z : Zone) (t : Instant) : Option String :=
  (z.shown? t).map fun ⟨w, _⟩ =>
    toString w.date.year ++ "-" ++ padded 2 w.date.month.toNat ++ "-"
      ++ padded 2 w.date.day.toNat ++ " " ++ padded 2 w.hour.toNat ++ ":"
      ++ padded 2 w.minute.toNat

end MediaSearch.Calendar
