/-
The time strings that fail for another reason than their form.

A time string that nothing makes sense of is unreadable.  The others stand for
something, lead nowhere, or fail: `Escapes` lists the ways in which they fail, one by
one, and there are no more (`resolve_fails_iff`).
-/
import MediaSearch.Proofs.TimeString.Outcome

namespace MediaSearch.TimeString

open Calendar

/-- The text fails at this time in this zone, and not because it is unreadable. -/
inductive Escapes (now : LocalTime) (z : Zone) (text : List Char) : Prop
  /-- It names midnight at the end of the last day of the calendar. -/
  | endOfTime {s : Stamp} (reads : Reads text (.stamp s)) (ends : s.EndsTime)
  /-- It goes back further than years can be counted. -/
  | farMonth {count : Nat} (reads : Reads text (.ago (.months count)))
      (far : (now.wall.date.monthNumber - count) / 12 < -2147483648)
  /-- It goes back by a number with more digits than are read. -/
  | longAgo {digits : Nat} (reads : Reads text (.longAgo digits))
  /-- It is a number of milliseconds with more digits than are read. -/
  | longMillis {digits : Nat} (reads : Reads text (.longMillis digits))
  /-- The week of now did not begin in year 1 or later, and nothing answers before it is looked
  up. -/
  | noWeek (first : now.wall.date.dayNumber < 7)
      (unanswered : ∀ m spec, Reads text m → m.early = true → m.resolve now z ≠ .ok (some spec))
  /-- The week before the week of now did not. -/
  | noLastWeek (reads : Reads text (.period .lastWeek)) (first : now.wall.date.dayNumber < 14)
  /-- It is a span of the calendar, and its second midnight is not after the first. -/
  | inverted {m : Meaning} {start stop : Instant} (reads : Reads text m)
      (midnights : Midnights z (m.bounds? now.wall.date) start stop)
      (disorder : stop.toMillis ≤ start.toMillis)

variable {now : LocalTime} {z : Zone} {text : List Char}

/-- In the first week everything that is not early fails. -/
theorem escapes_of_late {m : Meaning} (h : Reads text m) (hlate : m.early = false)
    (hfirst : now.wall.date.dayNumber < 7) : Escapes now z text := by
  refine .noWeek hfirst ?_
  intro m' spec hm' hearly
  obtain rfl := h.unique hm'
  rw [hlate] at hearly
  simp at hearly

/-- **These are the ways to fail, and there are no more.** -/
theorem firstValue_fails_iff_escapes :
    (∃ f, firstValue text now z Format.all = .error f ∧ f.isUnreadable = false) ↔
      Escapes now z text := by
  rw [firstValue_fails_iff]
  constructor
  · rintro (⟨hfirst, hnone⟩ | ⟨m, f, hm, hf⟩)
    · exact .noWeek hfirst hnone
    · by_cases hweek : m.early = true ∨ 7 ≤ now.wall.date.dayNumber
      · rcases (resolve_eq_error_iff hweek).mp hf with hfails | ⟨start, stop, hmid, hle, _⟩
        · cases hfails with
          | endOfTime ends => exact .endOfTime hm ends
          | farMonth far => exact .farMonth hm far
          | longAgo => exact .longAgo hm
          | longMillis => exact .longMillis hm
          | noLastWeek first => exact .noLastWeek hm first
        · exact .inverted hm hmid hle
      · rw [not_or, Bool.not_eq_true] at hweek
        exact escapes_of_late hm hweek.1 (by omega)
  · intro h
    by_cases hfirst : now.wall.date.dayNumber < 7 ∧
        ∀ m spec, Reads text m → m.early = true → m.resolve now z ≠ .ok (some spec)
    · exact Or.inl hfirst
    · -- Apart from that, a late meaning is only looked at when there is a week of now.
      have hweek : ∀ m, Reads text m → m.early = true ∨ 7 ≤ now.wall.date.dayNumber := by
        intro m hm
        cases hearly : m.early with
        | true => exact Or.inl rfl
        | false =>
            refine Or.inr ?_
            by_contra hlt
            refine hfirst ⟨by omega, ?_⟩
            intro m' spec hm' hearly'
            obtain rfl := hm.unique hm'
            rw [hearly] at hearly'
            simp at hearly'
      have hfails : ∀ {m f}, Reads text m → m.Fails now.wall.date f →
          ∃ m f, Reads text m ∧ m.resolve now z = .error f :=
        fun reads h => ⟨_, _, reads, (resolve_eq_error_iff (hweek _ reads)).mpr (Or.inl h)⟩
      refine Or.inr ?_
      cases h with
      | endOfTime reads ends => exact hfails reads (.endOfTime ends)
      | farMonth reads far => exact hfails reads (.farMonth far)
      | longAgo reads => exact hfails reads .longAgo
      | longMillis reads => exact hfails reads .longMillis
      | noWeek first unanswered => exact absurd ⟨first, unanswered⟩ hfirst
      | noLastWeek reads first => exact hfails reads (.noLastWeek first)
      | inverted reads midnights disorder =>
          exact ⟨_, _, reads, (resolve_eq_error_iff (hweek _ reads)).mpr
            (Or.inr ⟨_, _, midnights, disorder, rfl⟩)⟩

/-- The same for a time string at a reference time that the zone's clock can show. -/
theorem resolve_fails_iff {time : String} {reference : Reference}
    (hnow : reference.inZone z = .ok now) :
    (∃ f, resolve time reference z = .error f ∧ f.isUnreadable = false) ↔
      Escapes now z (Text.strip time.toList) := by
  rw [resolve_of_inZone hnow]
  exact firstValue_fails_iff_escapes

end MediaSearch.TimeString
