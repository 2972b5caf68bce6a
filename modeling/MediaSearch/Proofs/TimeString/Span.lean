/-
The spans of the calendar that time strings mean.

A period, a month, a year and a day all mean the time from one midnight to another.
`Meaning.bounds?` says which two dates those are, by counting days and months from today;
it is checked against the ways in which each of them is computed (`resolve_span`).  What
can go wrong is then the same for all of them: there is no such date, its midnight is
skipped or comes twice, or the second midnight is not after the first.

One thing is left over.  Looking back over a week needs dates before today, and in the
first days of year 1 there are none (`sundayOf_eq_error_iff`).
-/
import MediaSearch.Proofs.Calendar.DayNumber
import MediaSearch.Proofs.Except
import MediaSearch.TimeString.Resolve

namespace MediaSearch.TimeString

open Calendar

/-! ### The two dates of a span -/

/-- The day with a number and the one so many days later. -/
def daysFrom? (number days : Int) : Option (Date × Date) :=
  (Date.ofDayNumber? number).bind fun first =>
    (Date.ofDayNumber? (number + days)).map fun next => (first, next)

/-- The first day of the month with a number. -/
def firstOfMonth? (number : Int) : Option Date :=
  Date.of? (number / 12) (number % 12 + 1) 1

/-- The first day of the month with a number and that of the one so many months later. -/
def monthsFrom? (number months : Int) : Option (Date × Date) :=
  (firstOfMonth? number).bind fun first =>
    (firstOfMonth? (number + months)).map fun next => (first, next)

/-- The first date of a period around today, and the first date after it. -/
def Period.bounds? (today : Date) : Period → Option (Date × Date)
  | .today => daysFrom? today.dayNumber 1
  | .yesterday => daysFrom? (today.dayNumber - 1) 1
  | .thisWeek => daysFrom? (today.dayNumber - today.daysSinceSunday) 7
  | .lastWeek => daysFrom? (today.dayNumber - today.daysSinceSunday - 7) 7
  | .thisMonth => monthsFrom? today.monthNumber 1
  | .lastMonth => monthsFrom? (today.monthNumber - 1) 1
  | .thisYear => monthsFrom? (12 * today.year) 12
  | .lastYear => monthsFrom? (12 * (today.year - 1)) 12

/-- The first date of a span, and the first date after it. -/
def Meaning.bounds? (today : Date) : Meaning → Option (Date × Date)
  | .period name => name.bounds? today
  | .month number =>
    (Date.of? (if number ≤ today.month then today.year else today.year - 1) number 1).bind
      fun first => monthsFrom? first.monthNumber 1
  | .year number => monthsFrom? (12 * number) 12
  | .day y m d => (Date.of? y m d).bind fun first => daysFrom? first.dayNumber 1
  | _ => none

/-- Whether a meaning is a span of the calendar. -/
def Meaning.isSpan : Meaning → Bool
  | .period _ | .month _ | .year _ | .day _ _ _ => true
  | _ => false

theorem bounds?_eq_none_of_moment {today : Date} {m : Meaning} (h : m.isSpan = false) :
    m.bounds? today = none := by
  cases m <;> simp_all [Meaning.isSpan, Meaning.bounds?]

/-- The span between two dates, if there are two. -/
def spanBetween (z : Zone) : Option (Date × Date) → Except Failure (Option TimeSpec)
  | some (first, next) => spanUntil z first next
  | none => .ok none

/-! ### Days -/

theorem daysFrom?_dayNumber (d : Date) (days : Int) :
    daysFrom? d.dayNumber days = (d.addDays? days).map fun next => (d, next) := by
  unfold daysFrom? Date.addDays?
  rw [Date.ofDayNumber?_eq_some_iff.mpr rfl, Option.bind_some]

theorem spanOfDays_eq (z : Zone) (d : Date) (days : Int) :
    spanOfDays z d days = spanBetween z (daysFrom? d.dayNumber days) := by
  rw [daysFrom?_dayNumber]
  delta spanOfDays
  cases d.addDays? days <;> rfl

/-- The range of a date is that of the day that begins with it. -/
theorem dayRange_of_date {z : Zone} {year month day : Int} {d : Date}
    (h : Date.of? year month day = some d) : dayRange z year month day = spanOfDays z d 1 := by
  rw [dayRange, h]

theorem dayRange_eq (z : Zone) (year month day : Int) :
    dayRange z year month day = spanBetween z
      ((Date.of? year month day).bind fun first => daysFrom? first.dayNumber 1) := by
  cases hdate : Date.of? year month day with
  | none => rw [dayRange, hdate]; rfl
  | some date => exact (dayRange_of_date hdate).trans (spanOfDays_eq z date 1)

theorem daysBack_eq_ok_iff {d d' : Date} {days : Int} :
    daysBack d days = .ok d' ↔ d'.dayNumber = d.dayNumber - days := by
  have hback : d.addDays? (-days) = some d' ↔ d'.dayNumber = d.dayNumber + -days :=
    Date.addDays?_eq_some_iff
  rw [← Int.sub_eq_add_neg] at hback
  rw [← hback]
  delta daysBack
  cases d.addDays? (-days) <;> simp

/-- There is a day so many days back when its number is not below 1. -/
theorem exists_daysBack (d : Date) {days : Int} (hdays : 0 ≤ days) (h : days < d.dayNumber) :
    ∃ d', daysBack d days = .ok d' := by
  cases hback : Date.ofDayNumber? (d.dayNumber - days) with
  | none =>
      have := d.dayNumber_le
      have := Date.ofDayNumber?_eq_none_iff.mp hback
      omega
  | some d' => exact ⟨d', daysBack_eq_ok_iff.mpr (Date.ofDayNumber?_eq_some_iff.mp hback)⟩

theorem daysBack_eq_error {d : Date} {days : Int} (h : d.dayNumber ≤ days) :
    daysBack d days = .error .outOfRange := by
  have hnone : d.addDays? (-days) = none := Date.addDays?_eq_none_iff.mpr (Or.inl (by omega))
  delta daysBack
  rw [hnone]

/-- The Sunday of a week is the day with the last multiple of 7. -/
theorem sundayOf_eq (now : LocalTime) :
    sundayOf now = daysBack now.wall.date now.wall.date.daysSinceSunday :=
  rfl

theorem sundayOf_eq_error_iff {now : LocalTime} {f : Failure} :
    sundayOf now = .error f ↔ now.wall.date.dayNumber < 7 ∧ f = .outOfRange := by
  have hpos := now.wall.date.dayNumber_pos
  rw [sundayOf_eq, Date.daysSinceSunday]
  by_cases h : now.wall.date.dayNumber < 7
  · rw [daysBack_eq_error (by omega)]
    simp [h, eq_comm]
  · obtain ⟨sunday, hsunday⟩ := exists_daysBack now.wall.date
      (show 0 ≤ now.wall.date.dayNumber % 7 by omega) (by omega)
    simp [hsunday, h]

/-- From the seventh day of year 1 on there is a Sunday to begin the week. -/
theorem exists_sundayOf {now : LocalTime} (h : 7 ≤ now.wall.date.dayNumber) :
    ∃ sunday, sundayOf now = .ok sunday ∧
      sunday.dayNumber = now.wall.date.dayNumber - now.wall.date.daysSinceSunday := by
  cases hsunday : sundayOf now with
  | error f => exact absurd (sundayOf_eq_error_iff.mp hsunday).1 (by omega)
  | ok sunday => exact ⟨sunday, rfl, daysBack_eq_ok_iff.mp hsunday⟩

/-! ### Months and years -/

theorem firstOfMonth?_eq {year month : Int} (h : 1 ≤ month ∧ month ≤ 12) :
    firstOfMonth? (12 * year + (month - 1)) = Date.of? year month 1 := by
  have hyear : (12 * year + (month - 1)) / 12 = year := by omega
  have hmonth : (12 * year + (month - 1)) % 12 + 1 = month := by omega
  rw [firstOfMonth?, hyear, hmonth]

theorem monthRange_eq (z : Zone) {year month : Int} (h : 1 ≤ month ∧ month ≤ 12) :
    monthRange z year month = spanBetween z (monthsFrom? (12 * year + (month - 1)) 1) := by
  have hnext : (if month == 12 then Date.of? (year + 1) 1 1 else Date.of? year (month + 1) 1)
      = firstOfMonth? (12 * year + (month - 1) + 1) := by
    by_cases hdec : month = 12
    · subst hdec
      rw [if_pos (by simp), ← firstOfMonth?_eq (by omega)]
      congr 1
      omega
    · rw [if_neg (by simp [hdec]), ← firstOfMonth?_eq (by omega)]
      congr 1
      omega
  unfold monthRange monthsFrom?
  rw [hnext, ← firstOfMonth?_eq h]
  cases firstOfMonth? (12 * year + (month - 1)) with
  | none => rfl
  | some first => cases firstOfMonth? (12 * year + (month - 1) + 1) <;> rfl

theorem yearRange_eq (z : Zone) (year : Int) :
    yearRange z year = spanBetween z (monthsFrom? (12 * year) 12) := by
  have hfirst : firstOfMonth? (12 * year) = Date.of? year 1 1 := by
    rw [← firstOfMonth?_eq (by omega)]
    congr 1
    omega
  have hnext : firstOfMonth? (12 * year + 12) = Date.of? (year + 1) 1 1 := by
    rw [← firstOfMonth?_eq (by omega)]
    congr 1
    omega
  unfold yearRange monthsFrom?
  rw [hfirst, hnext]
  cases Date.of? year 1 1 with
  | none => rfl
  | some first => cases Date.of? (year + 1) 1 1 <;> rfl

/-! ### What a span resolves to -/

theorem Period.resolve_eq {now : LocalTime} {z : Zone} {period : Period}
    (hweek : 7 ≤ now.wall.date.dayNumber) :
    period.resolve now z =
      if period = .lastWeek ∧ now.wall.date.dayNumber < 14 then .error .outOfRange
      else spanBetween z (period.bounds? now.wall.date) := by
  obtain ⟨_, _, hmonth, hmonth', _⟩ := now.wall.date.isDate
  cases period with
  | today => exact spanOfDays_eq z _ 1
  | yesterday =>
      obtain ⟨d, hd⟩ := exists_daysBack now.wall.date (show (0 : Int) ≤ 1 by omega) (by omega)
      have hnumber := daysBack_eq_ok_iff.mp hd
      show (daysBack now.wall.date 1 >>= fun d => spanOfDays z d 1) = _
      rw [hd, if_neg (by simp), Period.bounds?, ← hnumber]
      exact spanOfDays_eq z d 1
  | thisWeek =>
      obtain ⟨sunday, hsunday, hnumber⟩ := exists_sundayOf hweek
      show (sundayOf now >>= fun d => weekRange z d) = _
      rw [hsunday, if_neg (by simp), Period.bounds?, ← hnumber]
      exact spanOfDays_eq z sunday 7
  | lastWeek =>
      obtain ⟨sunday, hsunday, hnumber⟩ := exists_sundayOf hweek
      show (sundayOf now >>= fun d => daysBack d 7 >>= fun d => weekRange z d) = _
      rw [hsunday]
      show (daysBack sunday 7 >>= fun d => weekRange z d) = _
      rw [Date.daysSinceSunday] at hnumber
      by_cases hfirst : now.wall.date.dayNumber < 14
      · rw [if_pos ⟨rfl, hfirst⟩, daysBack_eq_error (by omega)]
        rfl
      · obtain ⟨d, hd⟩ := exists_daysBack sunday (show (0 : Int) ≤ 7 by omega) (by omega)
        have hback := daysBack_eq_ok_iff.mp hd
        rw [hd, if_neg (by simp [hfirst]), Period.bounds?, Date.daysSinceSunday, ← hnumber, ← hback]
        exact spanOfDays_eq z d 7
  | thisMonth =>
      have hnumber : now.wall.date.monthNumber
          = 12 * now.wall.date.year + (now.wall.date.month - 1) := by
        unfold Date.monthNumber
        omega
      rw [if_neg (by simp), Period.bounds?, hnumber]
      exact monthRange_eq z ⟨hmonth, hmonth'⟩
  | lastMonth =>
      rw [if_neg (by simp), Period.bounds?, Date.monthNumber]
      show (if now.wall.date.month == 1 then monthRange z (now.wall.date.year - 1) 12
        else monthRange z now.wall.date.year (now.wall.date.month - 1)) = _
      by_cases hjan : now.wall.date.month = 1
      · rw [if_pos (by simp [hjan]), monthRange_eq z (by omega)]
        congr 2
        omega
      · rw [if_neg (by simp [hjan]), monthRange_eq z (by omega)]
        congr 2
        omega
  | thisYear => exact yearRange_eq z _
  | lastYear => exact yearRange_eq z _

/-- **A span of the calendar is the time from its first midnight to the next**, except that last
week cannot be looked back to from the first two weeks of year 1. -/
theorem resolve_span {now : LocalTime} {z : Zone} {m : Meaning} (hspan : m.isSpan = true)
    (hweek : 7 ≤ now.wall.date.dayNumber) :
    m.resolve now z =
      if m = .period .lastWeek ∧ now.wall.date.dayNumber < 14 then .error .outOfRange
      else spanBetween z (m.bounds? now.wall.date) := by
  cases m with
  | stamp _ | ago _ | longAgo _ | millis _ | longMillis _ => simp [Meaning.isSpan] at hspan
  | period name =>
      rw [Meaning.resolve, Period.resolve_eq hweek]
      simp only [Meaning.period.injEq]
      rfl
  | month number =>
      rw [if_neg (by simp), Meaning.resolve, Meaning.bounds?]
      cases hfirst : Date.of? (if number ≤ now.wall.date.month then now.wall.date.year
          else now.wall.date.year - 1) number 1 with
      | none =>
          simp only [monthRange, hfirst]
          rfl
      | some first =>
          obtain ⟨hy, hm, _⟩ := Date.of?_eq_some_iff.mp hfirst
          obtain ⟨_, _, hlow, hhigh, _⟩ := first.isDate
          simp only [Option.bind_some]
          rw [monthRange_eq z (by omega), ← hy, ← hm, Date.monthNumber, Int.mul_comm]
  | year number =>
      rw [if_neg (by simp)]
      exact yearRange_eq z number
  | day year month day =>
      rw [if_neg (by simp)]
      exact dayRange_eq z year month day

/-- In the first two weeks of year 1 there is no last week. -/
theorem bounds?_lastWeek_eq_none {today : Date} (h : today.dayNumber < 14) :
    Meaning.bounds? today (.period .lastWeek) = none := by
  have hnone : Date.ofDayNumber? (today.dayNumber - today.daysSinceSunday - 7) = none := by
    refine Date.ofDayNumber?_eq_none_iff.mpr (Or.inl ?_)
    rw [Date.daysSinceSunday]
    omega
  rw [Meaning.bounds?, Period.bounds?, daysFrom?, hnone]
  rfl

/-! ### When it does -/

/-- The instants of two midnights, each shown once by the zone's clock. -/
def Midnights (z : Zone) (bounds : Option (Date × Date)) (start stop : Instant) : Prop :=
  ∃ first next, bounds = some (first, next) ∧ z.localize? (.midnight first) = some start ∧
    z.localize? (.midnight next) = some stop

theorem not_midnights_of_none {z : Zone} {bounds : Option (Date × Date)} {start stop : Instant}
    (h : bounds = none) : ¬ Midnights z bounds start stop := by
  rintro ⟨first, next, hsome, _⟩
  rw [h] at hsome
  simp at hsome

theorem spanUntil_eq {z : Zone} {first next : Date} {start stop : Instant}
    (hstart : z.localize? (.midnight first) = some start)
    (hstop : z.localize? (.midnight next) = some stop) :
    spanUntil z first next =
      if h : start.toMillis ≤ stop.toMillis - 1 then
        .ok (some (.span start.toMillis (stop.toMillis - 1) h))
      else .error (.inverted start.toMillis (stop.toMillis - 1)) := by
  unfold spanUntil
  rw [hstart, hstop]
  by_cases h : start.toMillis ≤ stop.toMillis - 1
  · simp only [TimeSpec.span?, dif_pos h]
  · simp only [TimeSpec.span?, dif_neg h]

/-- Without one of its midnights a span has no value. -/
theorem spanUntil_eq_none {z : Zone} {first next : Date}
    (h : z.localize? (.midnight first) = none ∨ z.localize? (.midnight next) = none) :
    spanUntil z first next = .ok none := by
  unfold spanUntil
  rcases h with hstart | hstop
  · rw [hstart]
  · rw [hstop]
    cases z.localize? (.midnight first) <;> rfl

/-- There is no span between two dates one of which has no midnight. -/
theorem spanBetween_eq_none {z : Zone} {bounds : Option (Date × Date)}
    (h : ∀ start stop, ¬ Midnights z bounds start stop) : spanBetween z bounds = .ok none := by
  cases bounds with
  | none => rfl
  | some pair =>
      obtain ⟨first, next⟩ := pair
      cases hstart : z.localize? (.midnight first) with
      | none => exact spanUntil_eq_none (Or.inl hstart)
      | some start =>
          cases hstop : z.localize? (.midnight next) with
          | none => exact spanUntil_eq_none (Or.inr hstop)
          | some stop => exact absurd ⟨first, next, rfl, hstart, hstop⟩ (h start stop)

theorem Midnights.unique {z : Zone} {bounds : Option (Date × Date)}
    {start stop start' stop' : Instant}
    (h : Midnights z bounds start stop) (h' : Midnights z bounds start' stop') :
    start = start' ∧ stop = stop' := by
  obtain ⟨first, next, rfl, hstart, hstop⟩ := h
  obtain ⟨first', next', heq, hstart', hstop'⟩ := h'
  obtain ⟨rfl, rfl⟩ := Prod.mk.inj (Option.some.inj heq)
  exact ⟨Option.some.inj (hstart.symm.trans hstart'), Option.some.inj (hstop.symm.trans hstop')⟩

/-- There is a span when the second midnight is after the first. -/
theorem exists_spanBetween_iff {z : Zone} {bounds : Option (Date × Date)} :
    (∃ spec, spanBetween z bounds = .ok (some spec)) ↔
      ∃ start stop, Midnights z bounds start stop ∧ start.toMillis < stop.toMillis := by
  by_cases hmid : ∃ start stop, Midnights z bounds start stop
  · obtain ⟨start, stop, hmid⟩ := hmid
    obtain ⟨first, next, rfl, hstart, hstop⟩ := hmid
    rw [spanBetween, spanUntil_eq hstart hstop]
    constructor
    · rintro ⟨spec, hspec⟩
      refine ⟨start, stop, ⟨first, next, rfl, hstart, hstop⟩, ?_⟩
      split at hspec
      · omega
      · simp at hspec
    · rintro ⟨start', stop', hmid', hlt⟩
      obtain ⟨rfl, rfl⟩ := Midnights.unique ⟨first, next, rfl, hstart, hstop⟩ hmid'
      rw [dif_pos (by omega)]
      exact ⟨_, rfl⟩
  · rw [spanBetween_eq_none fun start stop h => hmid ⟨start, stop, h⟩]
    refine ⟨by simp, ?_⟩
    rintro ⟨start, stop, h, _⟩
    exact absurd ⟨start, stop, h⟩ hmid

/-- Two midnights the wrong way round are a failure. -/
theorem spanBetween_eq_error_iff {z : Zone} {bounds : Option (Date × Date)} {f : Failure} :
    spanBetween z bounds = .error f ↔
      ∃ start stop, Midnights z bounds start stop ∧ stop.toMillis ≤ start.toMillis ∧
        f = .inverted start.toMillis (stop.toMillis - 1) := by
  by_cases hmid : ∃ start stop, Midnights z bounds start stop
  · obtain ⟨start, stop, hmid⟩ := hmid
    obtain ⟨first, next, rfl, hstart, hstop⟩ := hmid
    rw [spanBetween, spanUntil_eq hstart hstop]
    constructor
    · intro hf
      refine ⟨start, stop, ⟨first, next, rfl, hstart, hstop⟩, ?_⟩
      split at hf
      · simp at hf
      · exact ⟨by omega, (Except.error.inj hf).symm⟩
    · rintro ⟨start', stop', hmid', hle, rfl⟩
      obtain ⟨rfl, rfl⟩ := Midnights.unique ⟨first, next, rfl, hstart, hstop⟩ hmid'
      rw [dif_neg (by omega)]
  · rw [spanBetween_eq_none fun start stop h => hmid ⟨start, stop, h⟩]
    refine ⟨by simp, ?_⟩
    rintro ⟨start, stop, h, _⟩
    exact absurd ⟨start, stop, h⟩ hmid

end MediaSearch.TimeString
