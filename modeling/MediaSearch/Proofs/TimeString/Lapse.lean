/-
Time strings that no longer stand for anything.

What a time string stands for is worked out again whenever it is needed, and it can be
different each time.  For most meanings nothing can go wrong when it went well once: a
timestamp, a year or a day is what it is.  The others move with now, and on the way they
can come to a place where they stand for nothing.  `Lapsed` lists those places, and there
are no more (`firstValue_again_iff`).
-/
import MediaSearch.Proofs.TimeString.Outcome

namespace MediaSearch.TimeString

open Calendar

/-- Whether a meaning is a span that moves with today. -/
def Meaning.moves : Meaning → Bool
  | .period _ | .month _ => true
  | _ => false

/-- The text has a meaning, but at this time in this zone it stands for nothing. -/
inductive Lapsed (now : LocalTime) (z : Zone) (text : List Char) : Prop
  /-- It needs the week of now, and that did not begin in year 1 or later. -/
  | noWeek {m : Meaning} (reads : Reads text m) (late : m.early = false)
      (first : now.wall.date.dayNumber < 7)
  /-- So many seconds back, or already now, it is not in the years 1 to 9999. -/
  | seconds {count : Nat} (reads : Reads text (.ago (.seconds count)))
      (out : ¬ (Instant.representable (z.instantOf now) = true ∧
        Instant.representable (z.instantOf now - count * microsPerSecond) = true))
  /-- So many months back there is no such day, or the time of day is skipped on it or comes
  twice. -/
  | months {count : Nat} (reads : Reads text (.ago (.months count)))
      (gone : ∀ t, ¬ MonthsBack now z count t)
  /-- It is a span that moves with today, and one of its midnights is skipped, comes twice or is
  not in the years 1 to 9999, or the second is not after the first. -/
  | span {m : Meaning} (reads : Reads text m) (moves : m.moves = true)
      (gone : ∀ start stop, Midnights z (m.bounds? now.wall.date) start stop →
        stop.toMillis ≤ start.toMillis)

variable {now later : LocalTime} {z : Zone} {text : List Char} {m : Meaning}

theorem isSpan_of_moves (h : m.moves = true) : m.isSpan = true := by
  cases m <;> simp_all [Meaning.isSpan, Meaning.moves]

/-- A span of the calendar has a value when its midnights are there, in order. -/
theorem exists_resolve_span_iff (hspan : m.isSpan = true) (hweek : 7 ≤ now.wall.date.dayNumber) :
    (∃ spec, m.resolve now z = .ok (some spec)) ↔
      ∃ start stop, Midnights z (m.bounds? now.wall.date) start stop ∧
        start.toMillis < stop.toMillis := by
  rw [resolve_span hspan hweek]
  by_cases hlast : m = .period .lastWeek ∧ now.wall.date.dayNumber < 14
  · rw [if_pos hlast]
    obtain ⟨rfl, hfirst⟩ := hlast
    constructor
    · rintro ⟨spec, hspec⟩
      exact nomatch hspec
    · rintro ⟨start, stop, hmid, _⟩
      exact absurd hmid (not_midnights_of_none (bounds?_lastWeek_eq_none hfirst))
  · rw [if_neg hlast]
    exact exists_spanBetween_iff

/-- What does not move has a value at any time when it has one at some. -/
theorem resolve_again_of_still (hstill : m.moves = false) (hago : ∀ duration, m ≠ .ago duration)
    {spec : TimeSpec} (h : m.resolve now z = .ok (some spec)) :
    m.resolve later z = .ok (some spec) := by
  cases m with
  | stamp s => exact h
  | ago duration => exact absurd rfl (hago duration)
  | longAgo digits => exact h
  | period _ | month _ => simp [Meaning.moves] at hstill
  | year number => exact h
  | millis value => exact h
  | longMillis digits => exact h
  | day y m d => exact h

/-- **A time string that stood for something once still does, unless it has lapsed.** -/
theorem firstValue_again_iff (h : ∃ spec, firstValue text now z Format.all = .ok spec) :
    (∃ spec, firstValue text later z Format.all = .ok spec) ↔ ¬ Lapsed later z text := by
  obtain ⟨m, spec, hm, hvalue, -⟩ := exists_firstValue_iff.mp h
  rw [exists_firstValue_iff]
  constructor
  · rintro ⟨m', spec', hm', hvalue', hweek⟩ hlapsed
    obtain rfl := hm.unique hm'
    cases hlapsed with
    | noWeek reads late first =>
        obtain rfl := hm.unique reads
        rw [late] at hweek
        have := hweek.resolve_left (by simp)
        omega
    | seconds reads out =>
        obtain rfl := hm.unique reads
        exact out ((exists_before_seconds_iff (z := z)).mp ⟨spec', hvalue'⟩)
    | months reads gone =>
        obtain rfl := hm.unique reads
        obtain ⟨t, ht⟩ := exists_before_months_iff.mp ⟨spec', hvalue'⟩
        exact gone t ht
    | span reads moves gone =>
        obtain rfl := hm.unique reads
        rw [early_of_isSpan (isSpan_of_moves moves)] at hweek
        obtain ⟨start, stop, hmid, hlt⟩ := (exists_resolve_span_iff (isSpan_of_moves moves)
          (hweek.resolve_left (by simp))).mp ⟨spec', hvalue'⟩
        have := gone start stop hmid
        omega
  · intro hlapsed
    have hweek : m.early = true ∨ 7 ≤ later.wall.date.dayNumber := by
      cases hearly : m.early with
      | true => exact Or.inl rfl
      | false =>
          refine Or.inr ?_
          by_contra hfirst
          exact hlapsed (.noWeek hm hearly (by omega))
    have hsome : ∃ spec, m.resolve later z = .ok (some spec) := by
      by_cases hago : ∃ duration, m = .ago duration
      · obtain ⟨duration, rfl⟩ := hago
        cases duration with
        | seconds count =>
            refine (exists_before_seconds_iff (z := z)).mpr ?_
            by_contra hout
            exact hlapsed (.seconds hm hout)
        | months count =>
            refine exists_before_months_iff.mpr ?_
            by_contra hgone
            exact hlapsed (.months hm fun t ht => hgone ⟨t, ht⟩)
      · cases hmoves : m.moves with
        | false =>
            exact ⟨spec, resolve_again_of_still hmoves (fun d hd => hago ⟨d, hd⟩) hvalue⟩
        | true =>
            rw [early_of_isSpan (isSpan_of_moves hmoves)] at hweek
            refine (exists_resolve_span_iff (isSpan_of_moves hmoves)
              (hweek.resolve_left (by simp))).mpr ?_
            by_contra hgone
            refine hlapsed (.span hm hmoves ?_)
            intro start stop hmid
            by_contra hlt
            exact hgone ⟨start, stop, hmid, by omega⟩
    obtain ⟨spec', hvalue'⟩ := hsome
    exact ⟨m, spec', hm, hvalue', hweek⟩

/-- The same for a time string at two reference times in one zone. -/
theorem resolve_again_iff {time : String} {reference other : Reference}
    (h : ∃ spec, resolve time reference z = .ok spec) :
    (∃ spec, resolve time other z = .ok spec) ↔
      ∃ now, other.inZone z = .ok now ∧ ¬ Lapsed now z (Text.strip time.toList) := by
  obtain ⟨spec, hspec⟩ := h
  obtain ⟨first, _, hfirst⟩ := bind_eq_ok_iff.mp hspec
  constructor
  · rintro ⟨spec', hspec'⟩
    obtain ⟨now, hnow, hvalue⟩ := bind_eq_ok_iff.mp hspec'
    exact ⟨now, hnow, (firstValue_again_iff ⟨spec, hfirst⟩).mp ⟨spec', hvalue⟩⟩
  · rintro ⟨now, hnow, hlapsed⟩
    obtain ⟨spec', hvalue⟩ := (firstValue_again_iff ⟨spec, hfirst⟩).mpr hlapsed
    exact ⟨spec', bind_eq_ok_iff.mpr ⟨now, hnow, hvalue⟩⟩

end MediaSearch.TimeString
