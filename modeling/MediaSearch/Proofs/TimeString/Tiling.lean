/-
How the spans of the calendar fit together.

A week, a month and a year are each made up of their days, and a year of its twelve months
too: if all the parts have a range then so has the whole, from the start of the first part
to the end of the last, and what is in it is in exactly one of them (`Tiles`).  All of it is
read off rows of dates (`Proofs/TimeString/Row.lean`); what is left to say is which numbers
the days of a month and of a year have.
-/
import MediaSearch.Calendar.ZoneNames
import MediaSearch.Proofs.Calendar.Settled
import MediaSearch.Proofs.TimeString.Row

namespace MediaSearch.TimeString

open Calendar

/-- A period is made up of parts, each with a place in their order. -/
structure Tiles {ι : Type} (place : ι → Int) (part : ι → Except Failure (Option TimeSpec))
    (isPart : ι → Prop) (period : TimeSpec) : Prop where
  /-- It starts where its first part does. -/
  starts : ∃ i spec, isPart i ∧ (∀ j, isPart j → place i ≤ place j) ∧
    part i = .ok (some spec) ∧ period.forBefore = spec.forBefore
  /-- It ends where its last part does. -/
  ends : ∃ i spec, isPart i ∧ (∀ j, isPart j → place j ≤ place i) ∧
    part i = .ok (some spec) ∧ period.forAfter = spec.forAfter
  /-- It has what is in exactly one of its parts. -/
  contains_iff : ∀ t, period.contains t = true ↔
    ∃! i, isPart i ∧ ∃ spec, part i = .ok (some spec) ∧ spec.contains t = true

variable {z : Zone}

/-- A period is made up of the spans of a row of dates, whatever these are known as. -/
theorem tiles_of_filled (row : Row) {first : Int} {k : Nat} (hk : 0 < k)
    (h : row.Filled z first (first + k)) {ι : Type} {place : ι → Int} (shift : Int)
    {part : ι → Except Failure (Option TimeSpec)} {isPart : ι → Prop}
    (hpart : ∀ i, isPart i → part i = row.span z (place i + shift) 1)
    (hplace : ∀ i, isPart i → first ≤ place i + shift ∧ place i + shift < first + k)
    (hexists : ∀ n, first ≤ n → n < first + k → ∃ i, isPart i ∧ place i + shift = n)
    (hunique : ∀ i j, place i = place j → i = j) :
    ∃ period, row.span z first k = .ok (some period) ∧ Tiles place part isPart period := by
  obtain ⟨period, firstSpec, lastSpec, hperiod, hfirst, hstart, hlast, hend, hcontains⟩ :=
    Row.span_of_filled hk h
  refine ⟨period, hperiod, ?_, ?_, ?_⟩
  · obtain ⟨i, hi, hplaced⟩ := hexists first (by omega) (by omega)
    refine ⟨i, firstSpec, hi, ?_, ?_, hstart⟩
    · intro j hj
      have := hplace j hj
      omega
    · rw [hpart i hi, hplaced]
      exact hfirst
  · obtain ⟨i, hi, hplaced⟩ := hexists (first + k - 1) (by omega) (by omega)
    refine ⟨i, lastSpec, hi, ?_, ?_, hend⟩
    · intro j hj
      have := hplace j hj
      omega
    · rw [hpart i hi, hplaced]
      exact hlast
  · intro t
    rw [hcontains]
    constructor
    · rintro ⟨n, ⟨⟨hn, hn'⟩, hcovers⟩, honly⟩
      obtain ⟨i, hi, rfl⟩ := hexists n hn hn'
      refine ⟨i, ⟨hi, by rw [hpart i hi]; exact hcovers⟩, ?_⟩
      rintro j ⟨hj, hcovers'⟩
      rw [hpart j hj] at hcovers'
      have := honly _ ⟨hplace j hj, hcovers'⟩
      exact hunique j i (by omega)
    · rintro ⟨i, ⟨hi, hcovers⟩, honly⟩
      rw [hpart i hi] at hcovers
      refine ⟨place i + shift, ⟨hplace i hi, hcovers⟩, ?_⟩
      rintro n ⟨⟨hn, hn'⟩, hcovers'⟩
      obtain ⟨j, hj, rfl⟩ := hexists n hn hn'
      rw [honly j ⟨hj, by rw [hpart j hj]; exact hcovers'⟩]

/-! ### Days -/

/-- The range of a date. -/
def dayOf (z : Zone) (d : Date) : Except Failure (Option TimeSpec) :=
  dayRange z d.year d.month d.day

theorem dayOf_eq (d : Date) : dayOf z d = Row.days.span z d.dayNumber 1 := by
  have hdate : Date.of? d.year d.month d.day = some d := Date.of?_eq_some_iff.mpr ⟨rfl, rfl, rfl⟩
  exact (dayRange_of_date hdate).trans (spanOfDays_eq z d 1)

/-- A date that has a range is followed by a date. -/
theorem dayNumber_lt_of_hasRange {d : Date} (h : HasRange (dayOf z d)) : d.dayNumber < 3652059 := by
  obtain ⟨spec, hspec⟩ := h
  rw [dayOf_eq] at hspec
  obtain ⟨s, e, -, he, -⟩ := Row.span_eq_some_iff.mp hspec
  obtain ⟨next, -, hnext, -⟩ := Row.start?_eq_some_iff.mp he
  have := Date.ofDayNumber?_eq_some_iff.mp hnext
  have := next.dayNumber_le
  omega

/-- Days in a row that all have a range make up a period. -/
theorem tiles_days (first : Date) {length : Int} (hlength : 0 < length) {isDay : Date → Prop}
    (hdays : ∀ d, isDay d ↔ first.dayNumber ≤ d.dayNumber ∧ d.dayNumber < first.dayNumber + length)
    (h : ∀ d, isDay d → HasRange (dayOf z d)) :
    ∃ period, Row.days.span z first.dayNumber length = .ok (some period) ∧
      Tiles Date.dayNumber (dayOf z) isDay period := by
  obtain ⟨k, rfl⟩ := Int.eq_ofNat_of_zero_le (Int.le_of_lt hlength)
  have hexists : ∀ n, first.dayNumber ≤ n → n < first.dayNumber + k →
      ∃ d, isDay d ∧ d.dayNumber + 0 = n := by
    intro n hn hn'
    have hpos := first.dayNumber_pos
    -- The last date of the calendar has no range, so the days end before it.
    have hle : n ≤ 3652059 := by
      by_contra hgt
      obtain ⟨d, hd⟩ : ∃ d, Date.ofDayNumber? 3652059 = some d := by
        cases hlast : Date.ofDayNumber? 3652059 with
        | some d => exact ⟨d, rfl⟩
        | none =>
            have := Date.ofDayNumber?_eq_none_iff.mp hlast
            omega
      have hnumber := Date.ofDayNumber?_eq_some_iff.mp hd
      have hle := first.dayNumber_le
      have := dayNumber_lt_of_hasRange (h d ((hdays d).mpr ⟨by omega, by omega⟩))
      omega
    cases hd : Date.ofDayNumber? n with
    | none =>
        have := Date.ofDayNumber?_eq_none_iff.mp hd
        omega
    | some d =>
        have hnumber := Date.ofDayNumber?_eq_some_iff.mp hd
        exact ⟨d, (hdays d).mpr ⟨by omega, by omega⟩, by omega⟩
  refine tiles_of_filled Row.days (by omega) ?_ 0 ?_ ?_ hexists ?_
  · intro n hn hn'
    obtain ⟨d, hd, hnumber⟩ := hexists n hn hn'
    obtain ⟨spec, hspec⟩ := h d hd
    rw [dayOf_eq] at hspec
    rw [Int.add_zero] at hnumber
    exact ⟨spec, hnumber ▸ hspec⟩
  · intro d _
    rw [Int.add_zero]
    exact dayOf_eq d
  · intro d hd
    rw [Int.add_zero]
    exact (hdays d).mp hd
  · intro d d' heq
    have hd := Date.ofDayNumber?_eq_some_iff.mpr heq
    rw [Date.ofDayNumber?_eq_some_iff.mpr rfl] at hd
    exact (Option.some.inj hd).symm

/-! ### Weeks, months and years -/

/-- A date is in the week that begins on a date. -/
def InWeek (sunday d : Date) : Prop :=
  sunday.dayNumber ≤ d.dayNumber ∧ d.dayNumber < sunday.dayNumber + 7

theorem tiles_week {sunday : Date} (h : ∀ d, InWeek sunday d → HasRange (dayOf z d)) :
    ∃ week, weekRange z sunday = .ok (some week) ∧
      Tiles Date.dayNumber (dayOf z) (InWeek sunday) week := by
  obtain ⟨week, hweek, htiles⟩ := tiles_days sunday (show (0 : Int) < 7 by omega)
    (fun d => Iff.rfl) h
  exact ⟨week, (spanOfDays_eq z sunday 7).trans hweek, htiles⟩

/-- A span of months is a span of days. -/
theorem months_span_eq (number count : Int) :
    Row.months.span z number count
      = Row.days.span z (monthStart number) (monthStart (number + count) - monthStart number) := by
  have hnext : monthStart number + (monthStart (number + count) - monthStart number)
      = monthStart (number + count) := by omega
  unfold Row.span Row.from?
  rw [hnext]
  show spanBetween z ((firstOfMonth? number).bind fun first =>
    (firstOfMonth? (number + count)).map fun next => (first, next)) = _
  rw [firstOfMonth?_eq_ofDayNumber?, firstOfMonth?_eq_ofDayNumber?]
  rfl

theorem monthStart_eq (year : Int) {month : Int} (h : 1 ≤ month ∧ month ≤ 12) :
    monthStart (12 * year + (month - 1))
      = Date.daysBeforeYear year + Date.daysBeforeMonth year month + 1 := by
  have hyear : (12 * year + (month - 1)) / 12 = year := by omega
  have hmonth : (12 * year + (month - 1)) % 12 + 1 = month := by omega
  rw [monthStart, hyear, hmonth]

theorem monthStart_year (year : Int) : monthStart (12 * year) = Date.daysBeforeYear year + 1 := by
  have hjan := monthStart_eq year (show (1 : Int) ≤ 1 ∧ (1 : Int) ≤ 12 by omega)
  rw [Date.daysBeforeMonth_first, Int.sub_self, Int.add_zero, Int.add_zero] at hjan
  exact hjan

theorem monthRange_eq_days_span (year : Int) {month : Int} (h : 1 ≤ month ∧ month ≤ 12) :
    monthRange z year month = Row.days.span z
      (Date.daysBeforeYear year + Date.daysBeforeMonth year month + 1) (daysInMonth year month) := by
  have hyear : (12 * year + (month - 1)) / 12 = year := by omega
  have hmonth : (12 * year + (month - 1)) % 12 + 1 = month := by omega
  have hmonths : monthRange z year month = Row.months.span z (12 * year + (month - 1)) 1 :=
    monthRange_eq z h
  rw [hmonths, months_span_eq, monthStart_succ, monthStart_eq year h, hyear, hmonth]
  congr 1
  omega

theorem yearRange_eq_days_span (year : Int) :
    yearRange z year
      = Row.days.span z (Date.daysBeforeYear year + 1) (Date.daysInYear year) := by
  have hmonths : yearRange z year = Row.months.span z (12 * year) 12 := yearRange_eq z year
  have hnext : 12 * year + 12 = 12 * (year + 1) := by omega
  rw [hmonths, months_span_eq, hnext, monthStart_year, monthStart_year, Date.daysBeforeYear_succ]
  congr 1
  omega

theorem tiles_month {year month : Int} (hdate : IsDate year month 1)
    (h : ∀ d : Date, d.year = year ∧ d.month = month → HasRange (dayOf z d)) :
    ∃ period, monthRange z year month = .ok (some period) ∧
      Tiles Date.dayNumber (dayOf z) (fun d => d.year = year ∧ d.month = month) period := by
  have hmonth : 1 ≤ month ∧ month ≤ 12 := ⟨hdate.2.2.1, hdate.2.2.2.1⟩
  have hfirst : (⟨year, month, 1, hdate⟩ : Date).dayNumber
      = Date.daysBeforeYear year + Date.daysBeforeMonth year month + 1 := rfl
  rw [monthRange_eq_days_span year hmonth, ← hfirst]
  refine tiles_days _ (daysInMonth_pos year month) ?_ h
  intro d
  rw [Date.month_eq_iff hmonth, hfirst]
  omega

theorem tiles_year {year : Int} (hdate : IsDate year 1 1)
    (h : ∀ d : Date, d.year = year → HasRange (dayOf z d)) :
    ∃ period, yearRange z year = .ok (some period) ∧
      Tiles Date.dayNumber (dayOf z) (fun d => d.year = year) period := by
  have hfirst : (⟨year, 1, 1, hdate⟩ : Date).dayNumber = Date.daysBeforeYear year + 1 := by
    rw [Date.dayNumber, Date.daysBeforeMonth_first, Int.add_zero]
  have hlength : 0 < Date.daysInYear year := by
    unfold Date.daysInYear
    split <;> omega
  rw [yearRange_eq_days_span, ← hfirst]
  refine tiles_days _ hlength ?_ h
  intro d
  rw [Date.year_eq_iff, hfirst]
  omega

/-- The months of a year, all of which have a range, make up the year. -/
theorem tiles_year_of_months {year : Int}
    (h : ∀ month, 1 ≤ month ∧ month ≤ 12 → HasRange (monthRange z year month)) :
    ∃ period, yearRange z year = .ok (some period) ∧
      Tiles id (monthRange z year) (fun month => 1 ≤ month ∧ month ≤ 12) period := by
  have hpart : ∀ month, 1 ≤ month ∧ month ≤ 12 →
      monthRange z year month = Row.months.span z (id month + (12 * year - 1)) 1 := by
    intro month hmonth
    have hnumber : id month + (12 * year - 1) = 12 * year + (month - 1) := by
      show month + (12 * year - 1) = _
      omega
    rw [hnumber]
    exact monthRange_eq z hmonth
  have hyear : yearRange z year = Row.months.span z (12 * year) (12 : Nat) := yearRange_eq z year
  rw [hyear]
  refine tiles_of_filled Row.months (by omega) ?_ (12 * year - 1) hpart ?_ ?_ fun _ _ heq => heq
  · intro n hn hn'
    have hmonth : 1 ≤ n - (12 * year - 1) ∧ n - (12 * year - 1) ≤ 12 := by omega
    have hrange := h _ hmonth
    rw [hpart _ hmonth] at hrange
    have hnumber : id (n - (12 * year - 1)) + (12 * year - 1) = n := by
      show n - (12 * year - 1) + (12 * year - 1) = n
      omega
    exact hnumber ▸ hrange
  · intro month hmonth
    show 12 * year ≤ month + (12 * year - 1) ∧ month + (12 * year - 1) < 12 * year + 12
    omega
  · intro n hn hn'
    refine ⟨n - (12 * year - 1), by omega, ?_⟩
    show n - (12 * year - 1) + (12 * year - 1) = n
    omega

/-! ### The calendar of a zone -/

/-- The ranges of days, weeks, months and years in a zone fit together. -/
structure FitTogether (z : Zone) : Prop where
  /-- The range of a day is never refused for ending before it starts. -/
  day : ∀ year month day, InOrder (dayRange z year month day)
  /-- Nor is that of a week, -/
  week : ∀ sunday, InOrder (weekRange z sunday)
  /-- that of a month, -/
  month : ∀ year month, InOrder (monthRange z year month)
  /-- or that of a year. -/
  year : ∀ year, InOrder (yearRange z year)
  /-- A day begins in the millisecond after the day before it ends. -/
  next : ∀ {d d' : Date} {spec spec' : TimeSpec}, d'.dayNumber = d.dayNumber + 1 →
    dayOf z d = .ok (some spec) → dayOf z d' = .ok (some spec') →
    spec.forAfter + 1 = spec'.forBefore
  /-- A week is made up of its days, -/
  week_days : ∀ {sunday : Date}, (∀ d, InWeek sunday d → HasRange (dayOf z d)) →
    ∃ week, weekRange z sunday = .ok (some week) ∧
      Tiles Date.dayNumber (dayOf z) (InWeek sunday) week
  /-- a month is, -/
  month_days : ∀ {year month : Int}, IsDate year month 1 →
    (∀ d : Date, d.year = year ∧ d.month = month → HasRange (dayOf z d)) →
    ∃ period, monthRange z year month = .ok (some period) ∧
      Tiles Date.dayNumber (dayOf z) (fun d => d.year = year ∧ d.month = month) period
  /-- and so is a year; -/
  year_days : ∀ {year : Int}, IsDate year 1 1 →
    (∀ d : Date, d.year = year → HasRange (dayOf z d)) →
    ∃ period, yearRange z year = .ok (some period) ∧
      Tiles Date.dayNumber (dayOf z) (fun d => d.year = year) period
  /-- and a year is made up of its months. -/
  year_months : ∀ {year : Int},
    (∀ month, 1 ≤ month ∧ month ≤ 12 → HasRange (monthRange z year month)) →
    ∃ period, yearRange z year = .ok (some period) ∧
      Tiles id (monthRange z year) (fun month => 1 ≤ month ∧ month ≤ 12) period

/-- Where there is no such date there is no range, and that is no failure. -/
theorem inOrder_none : InOrder (.ok none) :=
  ⟨none, rfl, fun _ h => nomatch h⟩

theorem dayRange_inOrder (hz : z.Regular) (year month day : Int) :
    InOrder (dayRange z year month day) := by
  unfold dayRange
  cases Date.of? year month day with
  | none => exact inOrder_none
  | some date =>
      show InOrder (spanOfDays z date 1)
      rw [spanOfDays_eq]
      exact Row.days.span_inOrder hz (show (0 : Int) < 1 by omega)

theorem weekRange_inOrder (hz : z.Regular) (sunday : Date) : InOrder (weekRange z sunday) := by
  unfold weekRange
  rw [spanOfDays_eq]
  exact Row.days.span_inOrder hz (show (0 : Int) < 7 by omega)

theorem monthRange_inOrder (hz : z.Regular) (year month : Int) :
    InOrder (monthRange z year month) := by
  by_cases hmonth : 1 ≤ month ∧ month ≤ 12
  · rw [monthRange_eq z hmonth]
    exact Row.months.span_inOrder hz (show (0 : Int) < 1 by omega)
  · have hnone : Date.of? year month 1 = none :=
      dif_neg fun hdate => hmonth ⟨hdate.2.2.1, hdate.2.2.2.1⟩
    unfold monthRange
    simp only [hnone]
    exact inOrder_none

theorem yearRange_inOrder (hz : z.Regular) (year : Int) : InOrder (yearRange z year) := by
  rw [yearRange_eq]
  exact Row.months.span_inOrder hz (show (0 : Int) < 12 by omega)

theorem dayOf_next {d d' : Date} {spec spec' : TimeSpec} (hnext : d'.dayNumber = d.dayNumber + 1)
    (h : dayOf z d = .ok (some spec)) (h' : dayOf z d' = .ok (some spec')) :
    spec.forAfter + 1 = spec'.forBefore := by
  rw [dayOf_eq] at h h'
  rw [hnext] at h'
  exact Row.forAfter_add_one h h'

/-- **The ranges of the calendar are well formed, and they tile time**: in a regular zone, no range
ends before it starts, each day begins where the day before it ends, and what is in a week, a
month or a year is in exactly one of its days, and what is in a year in one of its months.  Every
zone that there is a table for is regular (`ZoneSource.regular_of_find`). -/
theorem ranges_fitTogether (hz : z.Regular) : FitTogether z where
  day := dayRange_inOrder hz
  week := weekRange_inOrder hz
  month := monthRange_inOrder hz
  year := yearRange_inOrder hz
  next := dayOf_next
  week_days := tiles_week
  month_days := tiles_month
  year_days := tiles_year
  year_months := tiles_year_of_months

/-- The Sunday in 2024 on which New York's clocks are put forward. -/
def shortSunday : Date := ⟨2024, 3, 10, by decide⟩

/-- The week that begins on it is an hour short. -/
theorem ranges_fitTogether_shortWeek :
    Zone.newYork.Regular ∧ ∃ week, weekRange .newYork shortSunday = .ok (some week) ∧
      week.forAfter - week.forBefore + 1 = 167 * 3600000 ∧
      Tiles Date.dayNumber (dayOf .newYork) (InWeek shortSunday) week := by
  have hsunday : shortSunday.dayNumber = 738955 := by decide +kernel
  have hspans : ∀ i : Fin 7, HasRange (Row.days.span .newYork (738955 + i) 1) := by decide +kernel
  have hdays : ∀ d, InWeek shortSunday d → HasRange (dayOf .newYork d) := by
    intro d ⟨hfirst, hlast⟩
    have hnumber : d.dayNumber = 738955 + (d.dayNumber - 738955).toNat := by omega
    rw [dayOf_eq, hnumber]
    exact hspans ⟨(d.dayNumber - 738955).toNat, by omega⟩
  have hspan : weekRange .newYork shortSunday
      = .ok (some (.span 1710046800000 1710647999999 (by decide))) := by decide +kernel
  obtain ⟨week, hweek, htiles⟩ :=
    (ranges_fitTogether Zone.newYork_regular).week_days hdays
  obtain rfl := Option.some.inj (Except.ok.inj (hweek.symm.trans hspan))
  exact ⟨Zone.newYork_regular, _, hweek, by decide, htiles⟩

end MediaSearch.TimeString
