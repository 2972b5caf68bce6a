/-
The moments that time strings mean.

A timestamp and a duration mean one moment.  A timestamp fails in one way only: it names
midnight at the end of the last day of the calendar (`Stamp.EndsTime`).  A duration in
seconds never fails, and one in months fails when it goes back further than years can be
counted; short of failing, either can lead nowhere.
-/
import MediaSearch.Proofs.Calendar.DayNumber
import MediaSearch.Proofs.Except
import MediaSearch.TimeString.Resolve

namespace MediaSearch.TimeString

open Calendar

/-! ### Timestamps -/

/-- The fields name midnight at the end of the last day of the calendar. -/
structure Stamp.EndsTime (s : Stamp) : Prop where
  /-- The last day. -/
  day : s.year = 9999 ∧ s.month = 12 ∧ s.day = 31
  /-- Midnight at its end. -/
  midnight : s.hour = 24 ∧ s.minute = 0 ∧ s.second = 0 ∧ s.micro = 0
  /-- The offset is one that a timestamp can have. -/
  offset : s.offsetHour ≤ 23 ∧ s.offsetMinute ≤ 59

/-- The day with the last number is the last day of the year 9999. -/
theorem lastDay_fields {d : Date} (h : d.dayNumber = 3652059) :
    d.year = 9999 ∧ d.month = 12 ∧ d.day = 31 := by
  have hlast : (Date.ofDayNumber? 3652059).map (fun d => (d.year, d.month, d.day))
      = some (9999, 12, 31) := by decide
  rw [Date.ofDayNumber?_eq_some_iff.mpr h, Option.map_some, Option.some.injEq, Prod.mk.injEq,
    Prod.mk.injEq] at hlast
  exact hlast

theorem addDays?_one_eq_none_iff {d : Date} :
    d.addDays? 1 = none ↔ d.year = 9999 ∧ d.month = 12 ∧ d.day = 31 := by
  rw [Date.addDays?_eq_none_iff]
  constructor
  · intro h
    have := d.dayNumber_pos
    have := d.dayNumber_le
    exact lastDay_fields (by omega)
  · rintro ⟨hyear, hmonth, hday⟩
    have hnumber : d.dayNumber = 3652059 := by
      rw [Date.dayNumber, hyear, hmonth, hday]
      decide
    omega

theorem Stamp.instant_eq_error_iff {s : Stamp} {f : Failure} :
    s.instant = .error f ↔ s.EndsTime ∧ f = .outOfRange := by
  constructor
  · intro h
    unfold Stamp.instant at h
    split at h
    · simp at h
    · rename_i date hdate
      obtain ⟨hy, hm, hd⟩ := Date.of?_eq_some_iff.mp hdate
      split at h
      · simp at h
      · rename_i hoffset
        simp only [Bool.or_eq_true, decide_eq_true_eq, not_or, Nat.not_lt] at hoffset
        dsimp only at h
        split at h
        · rename_i hhour
          split at h
          · rename_i hmidnight
            split at h
            · simp at h
            · rename_i hnone
              obtain ⟨hyear, hmonth, hday⟩ := addDays?_one_eq_none_iff.mp hnone
              simp only [Bool.and_eq_true, beq_iff_eq] at hhour hmidnight
              refine ⟨⟨by omega, ?_, hoffset⟩, (Except.error.inj h).symm⟩
              exact ⟨hhour, hmidnight.1.1, hmidnight.1.2, hmidnight.2⟩
          · simp at h
        · simp at h
  · rintro ⟨⟨⟨hyear, hmonth, hday⟩, ⟨hhour, hminute, hsecond, hmicro⟩, hoffset⟩, rfl⟩
    have hlast : ∃ d, Date.of? 9999 12 31 = some d := ⟨⟨9999, 12, 31, by decide⟩, by decide⟩
    obtain ⟨d, hd⟩ := hlast
    have hnone : d.addDays? 1 = none := addDays?_one_eq_none_iff.mpr (Date.of?_eq_some_iff.mp hd)
    have hin : (decide (23 < s.offsetHour) || decide (59 < s.offsetMinute)) = false := by
      simp only [Bool.or_eq_false_iff, decide_eq_false_iff_not]
      omega
    unfold Stamp.instant
    rw [hyear, hmonth, hday]
    simp only [Int.cast_ofNat_Int, hd, hin, hhour, hminute, hsecond, hmicro, hnone]
    rfl

/-! ### Durations -/

theorem shiftMonths_eq_error_iff {l : LocalTime} {months : Nat} {f : Failure} :
    shiftMonths l months = .error f ↔
      (l.wall.date.monthNumber - months) / 12 < -2147483648 ∧ f = .outOfRange := by
  obtain ⟨_, hyear, _, hmonth, _⟩ := l.wall.date.isDate
  have hnumber : l.wall.date.monthNumber ≤ 120000 := by
    unfold Date.monthNumber
    omega
  unfold shiftMonths
  dsimp only
  split
  · rename_i hfar
    simp only [Bool.or_eq_true, decide_eq_true_eq] at hfar
    rw [Except.error.injEq]
    constructor
    · rintro rfl
      exact ⟨by omega, rfl⟩
    · rintro ⟨_, rfl⟩
      rfl
  · rename_i hnear
    simp only [Bool.or_eq_true, decide_eq_true_eq, not_or] at hnear
    exact ⟨fun h => by simp at h, fun h => absurd h.1 hnear.1⟩

theorem before_seconds_ne_error {now : LocalTime} {z : Zone} {count : Nat} {f : Failure} :
    before now z (.seconds count) ≠ .error f := by
  unfold before
  simp

theorem before_months_eq_error_iff {now : LocalTime} {z : Zone} {count : Nat} {f : Failure} :
    before now z (.months count) = .error f ↔
      (now.wall.date.monthNumber - count) / 12 < -2147483648 ∧ f = .outOfRange := by
  rw [before, bind_pure_eq_error_iff]
  exact shiftMonths_eq_error_iff

/-- A number of seconds back there is a moment when both ends are in the years 1 to 9999. -/
theorem exists_before_seconds_iff {now : LocalTime} {z : Zone} {count : Nat} :
    (∃ spec, before now z (.seconds count) = .ok (some spec)) ↔
      Instant.representable (z.instantOf now) = true ∧
        Instant.representable (z.instantOf now - count * microsPerSecond) = true := by
  unfold before
  dsimp only
  rw [← Bool.and_eq_true]
  split
  · rename_i h
    exact ⟨fun _ => h, fun _ => ⟨_, rfl⟩⟩
  · rename_i h
    exact ⟨by simp, fun h' => absurd h' h⟩

/-- The instant that the zone's clock shows the same time of day at, so many months back. -/
def MonthsBack (now : LocalTime) (z : Zone) (count : Nat) (t : Instant) : Prop :=
  ∃ date, now.wall.date.inMonth? (now.wall.date.monthNumber - count) = some date ∧
    z.localize? (now.onDate date) = some t

/-- A local time is shifted to the same time of day in the other month, when that has the day; a
month with the day is a month of the years 1 to 9999, and so not too far away. -/
theorem shiftMonths_eq_some_iff {l x : LocalTime} {months : Int} :
    shiftMonths l months = .ok (some x) ↔
      ∃ date, l.wall.date.inMonth? (l.wall.date.monthNumber - months) = some date ∧
        x = l.onDate date := by
  unfold shiftMonths
  dsimp only
  constructor
  · intro h
    split at h
    · exact nomatch h
    · obtain ⟨date, hdate, rfl⟩ := Option.map_eq_some_iff.mp (Except.ok.inj h)
      exact ⟨date, hdate, rfl⟩
  · rintro ⟨date, hdate, rfl⟩
    obtain ⟨hyear, -⟩ := Date.of?_eq_some_iff.mp hdate
    obtain ⟨hfirst, hlast, -⟩ := date.isDate
    rw [if_neg, hdate]
    · rfl
    · simp only [Bool.or_eq_true, decide_eq_true_eq]
      omega

/-- A number of months back there is a moment when that month has the day, and the day has the time
of day once. -/
theorem before_months_eq_some_iff {now : LocalTime} {z : Zone} {count : Nat} {spec : TimeSpec} :
    before now z (.months count) = .ok (some spec) ↔
      ∃ t, MonthsBack now z count t ∧ spec = momentAt t := by
  rw [before, bind_eq_ok_iff]
  constructor
  · rintro ⟨shifted, hshift, hvalue⟩
    obtain ⟨t, ht, rfl⟩ := Option.map_eq_some_iff.mp (Except.ok.inj hvalue)
    obtain ⟨x, rfl, hx⟩ := Option.bind_eq_some_iff.mp ht
    obtain ⟨date, hdate, rfl⟩ := shiftMonths_eq_some_iff.mp hshift
    exact ⟨t, ⟨date, hdate, hx⟩, rfl⟩
  · rintro ⟨t, ⟨date, hdate, ht⟩, rfl⟩
    refine ⟨_, shiftMonths_eq_some_iff.mpr ⟨date, hdate, rfl⟩, ?_⟩
    rw [Option.bind_some, ht]
    rfl

theorem exists_before_months_iff {now : LocalTime} {z : Zone} {count : Nat} :
    (∃ spec, before now z (.months count) = .ok (some spec)) ↔ ∃ t, MonthsBack now z count t := by
  simp only [before_months_eq_some_iff]
  constructor
  · rintro ⟨spec, t, ht, -⟩
    exact ⟨t, ht⟩
  · rintro ⟨t, ht⟩
    exact ⟨_, t, ht, rfl⟩

end MediaSearch.TimeString
