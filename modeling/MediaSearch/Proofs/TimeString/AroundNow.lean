/-
The periods around now.

A named period is a span in one of the rows of dates, and the one before it is the span just
before that (`bounds?_eq`, `Follows`).  So "last week" always ends where "this week" begins,
whatever the time is.

That today, this week, this month and this year have now in them takes more: the date that
they are counted from has to be one that the zone's clock shows then.  It is, unless the
reference time is a local time of the zone that its clock skips (`clock_of_inZone`).  Such a
local time is read on a clock that nobody has put forward, and the period that it is in can be
over: Kiritimati went without the thirty-first of December 1994, so noon on that day comes after
the end of its month.
-/
import MediaSearch.Proofs.TimeString.Exclusive
import MediaSearch.Proofs.TimeString.Tiling

namespace MediaSearch.TimeString

open Calendar

variable {z : Zone} {reference : Reference} {now : LocalTime} {spec spec' : TimeSpec}
  {text text' : String} {period : Period}

/-! ### What the clock shows now -/

/-- A reference time is a local time of the zone that its clock skips: the clock shows something else
at the local time's instant. -/
def Reference.Skipped (reference : Reference) (z : Zone) : Prop :=
  ∃ l, reference = .wall l ∧ z.clock (z.instantOf l) ≠ l.wall.micros

/-- At the instant of now the zone's clock shows the wall time that periods are counted from. -/
theorem clock_of_inZone {t : Instant} (h : reference.inZone z = .ok now)
    (ht : reference.instant? z = some t) (hshown : ¬ reference.Skipped z) :
    z.clock t = now.wall.micros := by
  cases reference with
  | floating => exact nomatch h
  | instant t' =>
      obtain rfl := Option.some.inj ht
      cases hlocal : z.shown? t' with
      | none =>
          simp only [Reference.inZone, hlocal] at h
          exact nomatch h
      | some l =>
          simp only [Reference.inZone, hlocal] at h
          obtain rfl := Except.ok.inj h
          exact (Zone.shown?_eq_some_iff.mp hlocal).2.1
  | wall l =>
      obtain rfl := Except.ok.inj h
      obtain rfl := Option.some.inj ht
      by_contra hother
      exact hshown ⟨l, rfl, hother⟩

/-! ### Periods in their rows -/

namespace Period

/-- The row of dates that a period is counted in. -/
def row : Period → Row
  | today | yesterday | thisWeek | lastWeek => Row.days
  | thisMonth | lastMonth | thisYear | lastYear => Row.months

/-- How many of these dates a period goes on for. -/
def length : Period → Int
  | today | yesterday | thisMonth | lastMonth => 1
  | thisWeek | lastWeek => 7
  | thisYear | lastYear => 12

/-- The number of the date that a period begins with. -/
def first (today : Date) : Period → Int
  | .today => today.dayNumber
  | .yesterday => today.dayNumber - 1
  | .thisWeek => today.dayNumber - today.daysSinceSunday
  | .lastWeek => today.dayNumber - today.daysSinceSunday - 7
  | .thisMonth => today.monthNumber
  | .lastMonth => today.monthNumber - 1
  | .thisYear => 12 * today.year
  | .lastYear => 12 * (today.year - 1)

theorem bounds?_eq (today : Date) (period : Period) :
    period.bounds? today = period.row.from? (period.first today) period.length := by
  cases period <;> rfl

/-- Whether a period is meant to have now in it. -/
def isCurrent : Period → Bool
  | today | thisWeek | thisMonth | thisYear => true
  | yesterday | lastWeek | lastMonth | lastYear => false

/-- A period and the one before it. -/
inductive Follows : Period → Period → Prop
  /-- Today comes after yesterday, -/
  | day : Follows yesterday today
  /-- this week after last week, -/
  | week : Follows lastWeek thisWeek
  /-- this month after last month, -/
  | month : Follows lastMonth thisMonth
  /-- and this year after last year. -/
  | year : Follows lastYear thisYear

/-- A period begins with the date that the one before it goes up to. -/
theorem Follows.first_eq {earlier later : Period} (h : Follows earlier later) (today : Date) :
    later.row = earlier.row ∧ later.first today = earlier.first today + earlier.length := by
  cases h with
  | day => exact ⟨rfl, by simp only [first, length]; omega⟩
  | week => exact ⟨rfl, by simp only [first, length]; omega⟩
  | month => exact ⟨rfl, by simp only [first, length]; omega⟩
  | year => exact ⟨rfl, by simp only [first, length]; omega⟩

end Period

/-- The days of the month of a date. -/
theorem monthStart_le_iff (number : Int) (d : Date) :
    (monthStart number ≤ d.dayNumber ∧ d.dayNumber < monthStart (number + 1)) ↔
      d.monthNumber = number := by
  obtain ⟨-, -, hmonth, hmonth', -, -⟩ := d.isDate
  have hfields : d.year = number / 12 ∧ d.month = number % 12 + 1 ↔ d.monthNumber = number := by
    unfold Date.monthNumber
    omega
  rw [← hfields, Date.month_eq_iff (by omega), monthStart_succ]
  unfold monthStart
  omega

/-- A month begins up to a date when it is not after the date's month. -/
theorem monthStart_le_dayNumber_iff {number : Int} {d : Date} :
    monthStart number ≤ d.dayNumber ↔ number ≤ d.monthNumber := by
  obtain ⟨hstarted, hgoing⟩ := (monthStart_le_iff d.monthNumber d).mpr rfl
  constructor
  · intro h
    by_contra hlater
    rcases Int.lt_or_eq_of_le (show d.monthNumber + 1 ≤ number by omega) with hlt | rfl
    · have := monthStart_lt hlt
      omega
    · omega
  · intro h
    rcases Int.lt_or_eq_of_le h with hlt | rfl
    · have := monthStart_lt hlt
      omega
    · exact hstarted

/-- The days of the year of a date. -/
theorem monthStart_year_le_iff (year : Int) (d : Date) :
    (monthStart (12 * year) ≤ d.dayNumber ∧ d.dayNumber < monthStart (12 * year + 12)) ↔
      d.year = year := by
  have hnext : 12 * year + 12 = 12 * (year + 1) := by omega
  rw [Date.year_eq_iff, hnext, monthStart_year, monthStart_year, Date.daysBeforeYear_succ]
  omega

/-- The dates of a period that is meant to have now in it are those that it would be the same for
if they were today. -/
theorem among_dates_iff {today first next : Date} (hcurrent : period.isCurrent = true)
    (hfirst : period.row.date? (period.first today) = some first)
    (hnext : period.row.date? (period.first today + period.length) = some next) (d : Date) :
    (first.dayNumber ≤ d.dayNumber ∧ d.dayNumber < next.dayNumber) ↔
      period.first d = period.first today := by
  cases period with
  | today =>
      have hfirst : first.dayNumber = today.dayNumber := Row.days_date?_eq_some_iff.mp hfirst
      have hnext : next.dayNumber = today.dayNumber + 1 := Row.days_date?_eq_some_iff.mp hnext
      show _ ↔ d.dayNumber = today.dayNumber
      omega
  | thisWeek =>
      have hfirst : first.dayNumber = today.dayNumber - today.dayNumber % 7 :=
        Row.days_date?_eq_some_iff.mp hfirst
      have hnext : next.dayNumber = today.dayNumber - today.dayNumber % 7 + 7 :=
        Row.days_date?_eq_some_iff.mp hnext
      show _ ↔ d.dayNumber - d.dayNumber % 7 = today.dayNumber - today.dayNumber % 7
      omega
  | thisMonth =>
      rw [Row.months_date?_eq_some_iff.mp hfirst, Row.months_date?_eq_some_iff.mp hnext]
      exact monthStart_le_iff today.monthNumber d
  | thisYear =>
      rw [Row.months_date?_eq_some_iff.mp hfirst, Row.months_date?_eq_some_iff.mp hnext]
      refine (monthStart_year_le_iff today.year d).trans ?_
      show _ ↔ 12 * d.year = 12 * today.year
      omega
  | yesterday => exact nomatch hcurrent
  | lastWeek => exact nomatch hcurrent
  | lastMonth => exact nomatch hcurrent
  | lastYear => exact nomatch hcurrent

/-! ### Time strings that name a period -/

/-- A time string names a period. -/
def Names (text : String) (period : Period) : Prop :=
  Format.period.read (Text.strip text.toList) = some (.period period)

instance (text : String) (period : Period) : Decidable (Names text period) := by
  unfold Names; infer_instance

/-- Each name of a period names it. -/
theorem names_of_mem_periods : ∀ entry ∈ periods, Names entry.1 entry.2 := by
  decide +kernel

/-- What names a period resolves to the span of its dates. -/
theorem span_of_names (hname : Names text period) (hnow : reference.inZone z = .ok now)
    (h : resolve text reference z = .ok spec) :
    period.row.span z (period.first now.wall.date) period.length = .ok (some spec) := by
  obtain ⟨now', format, hnow', hvalue⟩ := value_of_resolve h
  obtain rfl := Except.ok.inj (hnow'.symm.trans hnow)
  obtain ⟨m, hread, hspec⟩ := read_of_value hvalue
  obtain ⟨rfl, rfl⟩ := read_unique hread hname
  have hweek : 7 ≤ now'.wall.date.dayNumber := by
    by_contra hlt
    have hsunday : sundayOf now' = .error .outOfRange :=
      sundayOf_eq_error_iff.mpr ⟨by omega, rfl⟩
    rw [Format.value, if_pos rfl, hsunday] at hvalue
    cases hvalue
  have hresolve : period.resolve now' z = .ok (some spec) := hspec
  rw [Period.resolve_eq hweek, Period.bounds?_eq] at hresolve
  split at hresolve
  · cases hresolve
  · exact hresolve

/-! ### Now among them -/

/-- A date has begun if the zone's clock shows it or a later one. -/
theorem midnight_le_iff (hz : z.Regular) {w : WallTime} {p t : Int} {first : Date}
    (hp : z.localize? (.midnight first) = some p) (hclock : z.clock t = w.micros) :
    p ≤ t ↔ first.dayNumber ≤ w.date.dayNumber := by
  rw [hz.midnight_le_iff hp, hclock, WallTime.micros_midnight_le_iff]

/-- Between the midnights of two dates the zone's clock shows the dates between these. -/
theorem between_midnights_iff (hz : z.Regular) {w : WallTime} {p q t : Int} {first next : Date}
    (hp : z.localize? (.midnight first) = some p) (hq : z.localize? (.midnight next) = some q)
    (hclock : z.clock t = w.micros) :
    (p ≤ t ∧ t < q) ↔
      first.dayNumber ≤ w.date.dayNumber ∧ w.date.dayNumber < next.dayNumber := by
  have hstarted := midnight_le_iff hz hp hclock
  have hgone := midnight_le_iff hz hq hclock
  omega

/-- Midnight comes at a whole millisecond, so it has come in the millisecond of an instant only if
it has at the instant itself. -/
theorem toMillis_midnight_le_iff {p t : Int} {d : Date} (hp : z.localize? (.midnight d) = some p) :
    Instant.toMillis p ≤ Instant.toMillis t ↔ p ≤ t := by
  have hsecond := Zone.localize?_midnight_mod hp
  unfold Instant.toMillis
  unfold microsPerSecond at hsecond
  omega

/-- A span has a moment in it if the zone's clock shows one of the span's dates then. -/
theorem contains_shown_iff (hz : z.Regular) {row : Row} {number count : Int} {w : WallTime}
    {t : Int} (hclock : z.clock t = w.micros) (h : row.span z number count = .ok (some spec)) :
    ∃ first next, row.date? number = some first ∧ row.date? (number + count) = some next ∧
      (spec.contains (Instant.toMillis t) = true ↔
        first.dayNumber ≤ w.date.dayNumber ∧ w.date.dayNumber < next.dayNumber) := by
  obtain ⟨s, e, hs, he, _, rfl⟩ := Row.span_eq_some_iff.mp h
  obtain ⟨first, p, hfirst, hp, rfl⟩ := Row.start?_eq_some_iff.mp hs
  obtain ⟨next, q, hnext, hq, rfl⟩ := Row.start?_eq_some_iff.mp he
  refine ⟨first, next, hfirst, hnext, ?_⟩
  rw [TimeSpec.contains_span_iff, Int.le_sub_one_iff, ← Int.not_le, toMillis_midnight_le_iff hp,
    toMillis_midnight_le_iff hq, Int.not_le]
  exact between_midnights_iff hz hp hq hclock

/-- A period that is meant to have now in it does so if the zone's clock shows a date of the same
period. -/
theorem contains_now_iff (hz : z.Regular) {today : Date} {w : WallTime} {t : Int}
    (hclock : z.clock t = w.micros) (hcurrent : period.isCurrent = true)
    (h : period.row.span z (period.first today) period.length = .ok (some spec)) :
    spec.contains (Instant.toMillis t) = true ↔ period.first w.date = period.first today := by
  obtain ⟨first, next, hfirst, hnext, hcontains⟩ := contains_shown_iff hz hclock h
  exact hcontains.trans (among_dates_iff hcurrent hfirst hnext w.date)

/-! ### This week, and the period before -/

/-- A date is the last Sunday that is not after another. -/
def IsSundayOf (sunday today : Date) : Prop :=
  sunday.daysSinceSunday = 0 ∧ sunday.dayNumber ≤ today.dayNumber ∧
    ∀ d : Date, d.daysSinceSunday = 0 → d.dayNumber ≤ today.dayNumber →
      d.dayNumber ≤ sunday.dayNumber

/-- This week begins at midnight on the last Sunday. -/
theorem thisWeek_starts {today : Date}
    (h : Row.days.span z (today.dayNumber - today.daysSinceSunday) 7 = .ok (some spec)) :
    ∃ sunday start, IsSundayOf sunday today ∧ z.localize? (.midnight sunday) = some start ∧
      spec.forBefore = start.toMillis := by
  obtain ⟨s, e, hs, -, _, rfl⟩ := Row.span_eq_some_iff.mp h
  obtain ⟨sunday, start, hsunday, hstart, rfl⟩ := Row.start?_eq_some_iff.mp hs
  have hnumber : sunday.dayNumber = today.dayNumber - today.dayNumber % 7 :=
    Row.days_date?_eq_some_iff.mp hsunday
  refine ⟨sunday, start, ⟨?_, by omega, ?_⟩, hstart, rfl⟩
  · show sunday.dayNumber % 7 = 0
    omega
  · intro d hd hle
    have hmod : d.dayNumber % 7 = 0 := hd
    omega

/-- A period begins in the millisecond after the one before it ends. -/
theorem forAfter_add_one_of_follows {earlier later : Period} {today : Date}
    (hfollows : earlier.Follows later)
    (h : earlier.row.span z (earlier.first today) earlier.length = .ok (some spec))
    (h' : later.row.span z (later.first today) later.length = .ok (some spec')) :
    spec.forAfter + 1 = spec'.forBefore := by
  obtain ⟨hrow, hfirst⟩ := hfollows.first_eq today
  rw [hrow, hfirst] at h'
  exact Row.forAfter_add_one h h'

/-- **The named periods fit together around now**: each begins where the one before it ends, and
this week begins with the last Sunday.  Today, this week, this month and this year have now in them,
unless now is a local time that the zone's clock skips, and then too if what the clock shows
instead is in the same period. -/
theorem periods_around_now {t : Instant} (hz : z.Regular) (hnow : reference.inZone z = .ok now)
    (ht : reference.instant? z = some t) :
    (∀ text period spec, Names text period → period.isCurrent = true →
      resolve text reference z = .ok spec → spec.isSpan = true ∧
        (¬ reference.Skipped z → spec.contains t.toMillis = true) ∧
        ∀ shown : WallTime, z.clock t = shown.micros →
          (spec.contains t.toMillis = true ↔
            period.first shown.date = period.first now.wall.date)) ∧
    (∀ text spec, Names text .thisWeek → resolve text reference z = .ok spec →
      ∃ sunday start, IsSundayOf sunday now.wall.date ∧
        z.localize? (.midnight sunday) = some start ∧ spec.forBefore = start.toMillis) ∧
    (∀ text text' earlier later spec spec', Names text earlier → Names text' later →
      earlier.Follows later → resolve text reference z = .ok spec →
      resolve text' reference z = .ok spec' → spec.forAfter + 1 = spec'.forBefore) := by
  refine ⟨?_, ?_, ?_⟩
  · intro text period spec hname hcurrent h
    have hspan := span_of_names hname hnow h
    refine ⟨?_, ?_, ?_⟩
    · obtain ⟨_, _, -, -, _, rfl⟩ := Row.span_eq_some_iff.mp hspan
      rfl
    · intro hshown
      exact (contains_now_iff hz (clock_of_inZone hnow ht hshown) hcurrent hspan).mpr rfl
    · intro shown hclock
      exact contains_now_iff hz hclock hcurrent hspan
  · intro text spec hname h
    exact thisWeek_starts (span_of_names hname hnow h)
  · intro text text' earlier later spec spec' hname hname' hfollows h h'
    exact forAfter_add_one_of_follows hfollows (span_of_names hname hnow h)
      (span_of_names hname' hnow h')

/-- Noon on the day in 2024 on which New York's clocks are put forward. -/
def shortNoon : LocalTime :=
  ⟨⟨shortSunday, 43200 * microsPerSecond, by decide⟩, false⟩

theorem instantOf_shortNoon : Zone.newYork.instantOf shortNoon = 1710086400000000 := by
  decide +kernel

/-- It is not among what they skip then. -/
theorem shortNoon_shown : ¬ (Reference.wall shortNoon).Skipped .newYork := by
  rintro ⟨l, hl, hother⟩
  obtain rfl := Reference.wall.inj hl
  rw [instantOf_shortNoon] at hother
  exact hother (by decide +kernel)

/-- At noon on that day this week is the week that begins with the day, and last week goes up to
it. -/
theorem periods_around_shortNoon :
    Zone.newYork.Regular ∧ ¬ (Reference.wall shortNoon).Skipped .newYork ∧
      (Reference.wall shortNoon).instant? .newYork = some 1710086400000000 ∧
      resolve "this week" (.wall shortNoon) .newYork
        = .ok (.span 1710046800000 1710647999999 (by decide)) ∧
      TimeSpec.contains (.span 1710046800000 1710647999999 (by decide)) 1710086400000 = true ∧
      resolve "Last Week" (.wall shortNoon) .newYork
        = .ok (.span 1709442000000 1710046799999 (by decide)) ∧
      (1710046799999 : Int) + 1 = 1710046800000 := by
  have hthis : resolve "this week" (.wall shortNoon) .newYork
      = .ok (.span 1710046800000 1710647999999 (by decide)) := by decide +kernel
  have hlast : resolve "Last Week" (.wall shortNoon) .newYork
      = .ok (.span 1709442000000 1710046799999 (by decide)) := by decide +kernel
  have hnames : Names "this week" .thisWeek := names_of_mem_periods (_, .thisWeek) (by decide)
  have hnames' : Names "Last Week" .lastWeek := by decide +kernel
  have hnow : (Reference.wall shortNoon).inZone .newYork = .ok shortNoon := rfl
  have ht : (Reference.wall shortNoon).instant? .newYork = some 1710086400000000 :=
    congrArg some instantOf_shortNoon
  obtain ⟨hcontains, -, hfollows⟩ := periods_around_now Zone.newYork_regular hnow ht
  have hcontained := (hcontains _ _ _ hnames rfl hthis).2.1 shortNoon_shown
  have hmeet := hfollows _ _ _ _ _ _ hnames' hnames .week hlast hthis
  exact ⟨Zone.newYork_regular, shortNoon_shown, ht, hthis, hcontained, hlast, hmeet⟩

/-- Noon on a day that Kiritimati's clocks skipped. -/
def skippedNoon : LocalTime :=
  ⟨⟨⟨1994, 12, 31, by decide⟩, 43200 * microsPerSecond, by decide⟩, false⟩

/-- By the offset that its clocks had before, it was ten in the evening in universal time. -/
theorem instantOf_skippedNoon : Zone.kiritimati.instantOf skippedNoon = 788911200000000 := by
  decide +kernel

/-- "This month" was over by then. -/
theorem not_always_in_this_month :
    ¬ ∀ (z : Zone) (reference : Reference) (now : LocalTime) (t : Instant) (text : String)
      (period : Period) (spec : TimeSpec), z.Regular → reference.inZone z = .ok now →
      reference.instant? z = some t → Names text period → period.isCurrent = true →
      resolve text reference z = .ok spec → spec.contains t.toMillis = true := by
  intro h
  have hresolve : resolve "this month" (.wall skippedNoon) .kiritimati
      = .ok (.span 786276000000 788867999999 (by decide)) := by decide +kernel
  have hnow : (Reference.wall skippedNoon).inZone .kiritimati = .ok skippedNoon := rfl
  have ht : (Reference.wall skippedNoon).instant? .kiritimati = some 788911200000000 :=
    congrArg some instantOf_skippedNoon
  have hnames : Names "this month" .thisMonth := names_of_mem_periods (_, .thisMonth) (by decide)
  have hcontains := h _ _ _ _ _ _ _ Zone.kiritimati_regular hnow ht hnames rfl hresolve
  exact absurd hcontains (by decide)

end MediaSearch.TimeString
