/-
Time strings keep their format and their kind.

A time string is resolved once when a query is read and again whenever an item is tested,
each time against another clock, and `during` needs a span every time.  It gets one: which
format a text is of does not depend on the clock, and neither does whether it stands for a
span or for a moment.
-/
import MediaSearch.Calendar.ZoneNames
import MediaSearch.Proofs.Query.Part
import MediaSearch.Proofs.TimeString.Exclusive

namespace MediaSearch.Query

open Calendar
open TimeString (Concludes Format Reference)

/--
**The formats of time strings exclude each other, whatever the context is.**  If one format has a
value for a text at one time in one zone and another has one at another time in another zone, they
are the same.  So the order in which the formats are tried never chooses between values, and what
the text stands for is always a span or always a moment.  A time string that was read as the argument
of `during` is a span whenever it is resolved again.
-/
theorem formats_exclude_each_other :
    (∀ (time : String) (format format' : Format) (now now' : LocalTime) (z z' : Zone)
      (spec spec' : TimeSpec),
      format.value (Text.strip time.toList) now z = .ok (some spec) →
      format'.value (Text.strip time.toList) now' z' = .ok (some spec') →
      format = format') ∧
    (∀ (time : String) (now : LocalTime) (z : Zone) (order order' : List Format),
      order.Perm Format.all → order'.Perm Format.all →
      Concludes (Text.strip time.toList) now z order →
      Concludes (Text.strip time.toList) now z order' →
      TimeString.firstValue (Text.strip time.toList) now z order
        = TimeString.firstValue (Text.strip time.toList) now z order') ∧
    (∀ (time : String) (reference reference' : Reference) (z z' : Zone) (spec spec' : TimeSpec),
      TimeString.resolve time reference z = .ok spec →
      TimeString.resolve time reference' z' = .ok spec' →
      spec.isSpan = spec'.isSpan) ∧
    (∀ (clock later : Clock) (query time : String) (e : Expr) (spec : TimeSpec),
      parse clock query = .ok e → Part (.published .during time) e →
      resolved later time = .ok spec → spec.isSpan = true) := by
  refine ⟨?_, ?_, ?_, ?_⟩
  · intro time format format' now now' z z' spec spec' h h'
    exact TimeString.format_unique_of_value h h'
  · intro time now z order order' hperm hperm' hends hends'
    exact TimeString.firstValue_eq_of_perm (hperm.trans hperm'.symm) hends hends'
  · intro time reference reference' z z' spec spec' h h'
    exact TimeString.isSpan_eq_of_resolve h h'
  · intro clock later query time e spec hread hpart hlater
    obtain ⟨first, hfirst, hspan⟩ := resolves_of_part hread hpart
    rw [TimeString.isSpan_eq_of_resolve (resolved_eq_ok_iff.mp hlater) hfirst]
    exact hspan rfl

/-- The year 2024 is of the format of years, and of no other at any time in any zone. -/
theorem formats_exclude_each_other_for_year :
    (∃ spec, Format.yearNumber.value (Text.strip "2024".toList)
        ⟨⟨⟨2024, 2, 15, by decide⟩, 43200000000, by decide⟩, false⟩ .utc
          = .ok (some spec)) ∧
      ∀ (format : Format) (now : LocalTime) (z : Zone) (spec : TimeSpec),
        format.value (Text.strip "2024".toList) now z = .ok (some spec) → format = .yearNumber := by
  have hyear : Format.yearNumber.value (Text.strip "2024".toList)
      ⟨⟨⟨2024, 2, 15, by decide⟩, 43200000000, by decide⟩, false⟩ .utc
        = .ok (some (.span 1704067200000 1735689599999 (by decide))) := by
    decide +kernel
  refine ⟨⟨_, hyear⟩, ?_⟩
  intro format now z spec h
  exact formats_exclude_each_other.1 _ _ _ _ _ _ _ _ _ h hyear

end MediaSearch.Query
