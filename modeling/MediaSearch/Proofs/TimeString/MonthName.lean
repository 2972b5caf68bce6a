/-
The name of a month.

A month is called by its name alone, and what is meant is the last one of that name that has
started.  Which year that is, is decided by numbers: the month's against that of now's date.  Months
in a row through all the years begin in the order of their numbers, and so, in a regular zone,
comparing numbers is comparing what the clock shows with the months' midnights
(`Row.start?_le_iff`, `month_begun_iff`).

Again it takes that now's date is one that the clock shows now.  When now is a local time that the
clock skips, the clock can be past the end of now's month, and the next month of the name has then
started too; or it can be before the month begins.
-/
import MediaSearch.Proofs.TimeString.Abbreviated

namespace MediaSearch.TimeString

open Calendar

variable {z : Zone} {reference : Reference} {now : LocalTime} {spec : TimeSpec} {time : String}
  {month year number s t : Int} {w : WallTime}

/-! ### When a month has begun -/

/-- A row's date has begun when the zone's clock has got to its midnight. -/
theorem Row.start?_le_iff (hz : z.Regular) {row : Row} (hs : row.start? z number = some s)
    (t : Int) : ∃ d, row.date? number = some d ∧
      (s ≤ Instant.toMillis t ↔ (WallTime.midnight d).micros ≤ z.clock t) := by
  obtain ⟨d, p, hd, hp, rfl⟩ := Row.start?_eq_some_iff.mp hs
  exact ⟨d, hd, (toMillis_midnight_le_iff hp).trans (hz.midnight_le_iff hp)⟩

/-- A month has begun when the zone's clock shows a date in it or later. -/
theorem month_begun_iff (hz : z.Regular) (hs : Row.months.start? z number = some s)
    (hclock : z.clock t = w.micros) :
    s ≤ Instant.toMillis t ↔ number ≤ w.date.monthNumber := by
  obtain ⟨d, hd, hbegun⟩ := Row.start?_le_iff hz hs t
  rw [hbegun, hclock, WallTime.micros_midnight_le_iff, Row.months_date?_eq_some_iff.mp hd,
    monthStart_le_dayNumber_iff]

/-- While a month goes on the zone's clock shows its dates, and it shows them only then. -/
theorem month_contains_iff (hz : z.Regular) (h : Row.months.span z number 1 = .ok (some spec)) :
    spec.contains (Instant.toMillis t) = true ↔
      ∃ w : WallTime, z.clock t = w.micros ∧ w.date.monthNumber = number := by
  obtain ⟨s, e, hs, he, _, rfl⟩ := Row.span_eq_some_iff.mp h
  have hcontains : TimeSpec.contains (.span s (e - 1) ‹_›) (Instant.toMillis t) = true ↔
      s ≤ Instant.toMillis t ∧ ¬ e ≤ Instant.toMillis t := by
    rw [TimeSpec.contains_span_iff]
    omega
  rw [hcontains]
  constructor
  · rintro ⟨hbegun, hgoing⟩
    obtain ⟨first, -, hfirst⟩ := Row.start?_le_iff hz hs t
    obtain ⟨last, -, hlast⟩ := Row.start?_le_iff hz he t
    obtain ⟨w, hw⟩ := WallTime.exists_micros_eq (hfirst.mp hbegun)
      (Int.not_le.mp (hlast.not.mp hgoing))
    rw [month_begun_iff hz hs hw] at hbegun
    rw [month_begun_iff hz he hw] at hgoing
    exact ⟨w, hw, by omega⟩
  · rintro ⟨w, hw, hmonth⟩
    rw [month_begun_iff hz hs hw, month_begun_iff hz he hw]
    omega

/-! ### Which year is meant -/

theorem NamesMonth.bounds (h : NamesMonth time month) : 1 ≤ month ∧ month ≤ 12 := by
  have hall : ∀ entry ∈ months, 1 ≤ entry.2 ∧ entry.2 ≤ 12 := by decide
  obtain ⟨number, hlookup, hnumber⟩ := Option.map_eq_some_iff.mp h
  obtain rfl := Meaning.month.inj hnumber
  obtain ⟨before, behind, htable, -⟩ := List.lookup_eq_some_iff.mp hlookup
  exact hall (_, number) (htable ▸ List.mem_append_right _ List.mem_cons_self)

/-- The name of a month stands for the month in this year if its number is not after that of now's
month, and otherwise in the year before. -/
theorem span_of_namesMonth (hname : NamesMonth time month) (hnow : reference.inZone z = .ok now)
    (h : resolve time reference z = .ok spec) :
    ∃ year, Row.months.span z (12 * year + (month - 1)) 1 = .ok (some spec) ∧
      12 * year + (month - 1) ≤ now.wall.date.monthNumber ∧
      now.wall.date.monthNumber < 12 * (year + 1) + (month - 1) := by
  obtain ⟨now', format, hnow', hvalue⟩ := value_of_resolve h
  obtain rfl := Except.ok.inj (hnow'.symm.trans hnow)
  obtain ⟨m, hread, hspec⟩ := read_of_value hvalue
  obtain ⟨rfl, rfl⟩ := read_unique hread hname
  obtain ⟨-, -, hfirst, hlast, -⟩ := now'.wall.date.isDate
  have hbounds := hname.bounds
  refine ⟨if month ≤ now'.wall.date.month then now'.wall.date.year else now'.wall.date.year - 1,
    (monthRange_eq z hbounds).symm.trans hspec, ?_⟩
  unfold Date.monthNumber
  split <;> omega

/-- The range of a month has begun when the zone's clock shows a date in the month or later. -/
theorem range_begun_iff (hz : z.Regular) (hbounds : 1 ≤ month ∧ month ≤ 12)
    (hrange : monthRange z year month = .ok (some spec)) (hclock : z.clock t = w.micros) :
    spec.forBefore ≤ Instant.toMillis t ↔ 12 * year + (month - 1) ≤ w.date.monthNumber := by
  have hspan : Row.months.span z (12 * year + (month - 1)) 1 = .ok (some spec) :=
    (monthRange_eq z hbounds).symm.trans hrange
  obtain ⟨s, e, hs, -, _, rfl⟩ := Row.span_eq_some_iff.mp hspan
  exact month_begun_iff hz hs hclock

/-- It is still to come when the clock shows an earlier date. -/
theorem range_to_come_iff (hz : z.Regular) (hbounds : 1 ≤ month ∧ month ≤ 12)
    (hrange : monthRange z year month = .ok (some spec)) (hclock : z.clock t = w.micros) :
    Instant.toMillis t < spec.forBefore ↔ w.date.monthNumber < 12 * year + (month - 1) := by
  rw [← Int.not_le, range_begun_iff hz hbounds hrange hclock, Int.not_le]

/-- No two months have the same range. -/
theorem months_span_inj (hz : z.Regular) {other : Int}
    (h : Row.months.span z number 1 = .ok (some spec))
    (h' : Row.months.span z other 1 = .ok (some spec)) : number = other := by
  obtain ⟨s, e, hs, -, hle, rfl⟩ := Row.span_eq_some_iff.mp h
  obtain ⟨d, p, -, hp, rfl⟩ := Row.start?_eq_some_iff.mp hs
  -- What the clock shows at the first midnight is in both months.
  have hcontains : TimeSpec.contains (.span p.toMillis (e - 1) hle) (Instant.toMillis p) = true := by
    rw [TimeSpec.contains_span_iff]
    omega
  obtain ⟨w, hw, hmonth⟩ := (month_contains_iff hz h).mp hcontains
  obtain ⟨w', hw', hmonth'⟩ := (month_contains_iff hz h').mp hcontains
  rw [← hmonth, ← hmonth', WallTime.eq_of_micros_eq (hw.symm.trans hw')]

/-- The month of a date, by its number among all months. -/
theorem monthNumber_eq_iff {d : Date} (hbounds : 1 ≤ month ∧ month ≤ 12) :
    d.monthNumber = 12 * year + (month - 1) ↔ d.year = year ∧ d.month = month := by
  obtain ⟨-, -, hfirst, hlast, -⟩ := d.isDate
  unfold Date.monthNumber
  omega

/-! ### The last one that has started -/

/--
**The name of a month stands for the last month of the name that has started.**  Take a regular
zone, a name of a month in any capitals, and suppose that it stands for something.  Then that is
the range of this month in one year, which has exactly the moments at which the zone's clock shows
a date of the month.  Unless now is a local time that the zone's clock skips, the range has begun
now, and that of the same month a year later has not.  For such a now the same goes by what the
clock shows instead: the one has begun if that is in the month or later, the other has not if that
is before it.
-/
theorem month_name_last_started {now' : Instant} (hz : z.Regular)
    (hnow : reference.inZone z = .ok now) (hinstant : reference.instant? z = some now')
    (hname : NamesMonth time month) (h : resolve time reference z = .ok spec) :
    ∃ year : Int, (∀ y : Int, monthRange z y month = .ok (some spec) ↔ y = year) ∧
      spec.isSpan = true ∧
      (¬ reference.Skipped z → spec.forBefore ≤ now'.toMillis ∧
        ∀ next, monthRange z (year + 1) month = .ok (some next) →
          now'.toMillis < next.forBefore) ∧
      (∀ shown : WallTime, z.clock now' = shown.micros →
        (spec.forBefore ≤ now'.toMillis ↔ 12 * year + (month - 1) ≤ shown.date.monthNumber) ∧
        ∀ next, monthRange z (year + 1) month = .ok (some next) →
          (now'.toMillis < next.forBefore ↔
            shown.date.monthNumber < 12 * (year + 1) + (month - 1))) ∧
      ∀ t : Instant, spec.contains t.toMillis = true ↔
        ∃ w : WallTime, z.clock t = w.micros ∧ w.date.year = year ∧ w.date.month = month := by
  have hbounds := hname.bounds
  have hmonth : ∀ y : Int, monthRange z y month = Row.months.span z (12 * y + (month - 1)) 1 :=
    fun y => monthRange_eq z hbounds
  obtain ⟨year, hspan, hstarted, hlast⟩ := span_of_namesMonth hname hnow h
  have hrange : monthRange z year month = .ok (some spec) := (hmonth year).trans hspan
  obtain ⟨s, e, -, -, hle, hspec⟩ := Row.span_eq_some_iff.mp hspan
  refine ⟨year, fun y => ?_, by simp [hspec], fun hskipped => ?_,
    fun shown hclock => ?_, fun t => ?_⟩
  · constructor
    · intro hother
      have := months_span_inj hz hspan ((hmonth y).symm.trans hother)
      omega
    · rintro rfl
      exact hrange
  · have hclock := clock_of_inZone hnow hinstant hskipped
    exact ⟨(range_begun_iff hz hbounds hrange hclock).mpr hstarted,
      fun next hnext => (range_to_come_iff hz hbounds hnext hclock).mpr hlast⟩
  · exact ⟨range_begun_iff hz hbounds hrange hclock,
      fun next hnext => range_to_come_iff hz hbounds hnext hclock⟩
  · simp only [month_contains_iff hz hspan, monthNumber_eq_iff hbounds]

/-- On the day in 2024 on which New York's clocks are put forward, March is that month, change and
all, and not yet that of 2025. -/
theorem month_name_last_started_at_shortNoon :
    (Zone.newYork.Regular ∧ (Reference.wall shortNoon).inZone .newYork = .ok shortNoon ∧
      (Reference.wall shortNoon).instant? .newYork = some 1710086400000000 ∧
      NamesMonth "mArCH" 3 ∧
      resolve "mArCH" (.wall shortNoon) .newYork
        = .ok (.span 1709269200000 1711943999999 (by decide))) ∧
    monthRange .newYork (2024 + 1) 3 = .ok (some (.span 1740805200000 1743479999999 (by decide))) ∧
    (1709269200000 : Int) ≤ Instant.toMillis 1710086400000000 ∧
    Instant.toMillis 1710086400000000 < 1740805200000 := by
  have hnow : (Reference.wall shortNoon).inZone .newYork = .ok shortNoon := rfl
  have hinstant : (Reference.wall shortNoon).instant? .newYork = some 1710086400000000 :=
    congrArg some instantOf_shortNoon
  have hname : NamesMonth "mArCH" 3 := by decide +kernel
  have hmarch : resolve "mArCH" (.wall shortNoon) .newYork
      = .ok (.span 1709269200000 1711943999999 (by decide)) := by decide +kernel
  have hrange : monthRange .newYork 2024 3
      = .ok (some (.span 1709269200000 1711943999999 (by decide))) := by decide +kernel
  have hnext : monthRange .newYork (2024 + 1) 3
      = .ok (some (.span 1740805200000 1743479999999 (by decide))) := by decide +kernel
  obtain ⟨year, hyear, -, hstarted, -⟩ :=
    month_name_last_started Zone.newYork_regular hnow hinstant hname hmarch
  obtain rfl := (hyear 2024).mp hrange
  obtain ⟨hbegun, hlater⟩ := hstarted shortNoon_shown
  have hlater := hlater _ hnext
  simp only [TimeSpec.forBefore_span] at hbegun hlater
  exact ⟨⟨Zone.newYork_regular, hnow, hinstant, hname, hmarch⟩, hnext, hbegun, hlater⟩

/-- At noon on the day that Kiritimati's clocks skipped, "January" was the one of that year, but by
its clock January of the next year had started. -/
theorem not_always_last_started :
    ¬ ∀ (z : Zone) (reference : Reference) (now : LocalTime) (t : Instant) (time : String)
      (month year : Int) (spec next : TimeSpec), z.Regular → reference.inZone z = .ok now →
      reference.instant? z = some t → NamesMonth time month →
      resolve time reference z = .ok spec → monthRange z year month = .ok (some spec) →
      monthRange z (year + 1) month = .ok (some next) →
      spec.forBefore ≤ t.toMillis ∧ t.toMillis < next.forBefore := by
  intro h
  have hnow : (Reference.wall skippedNoon).inZone .kiritimati = .ok skippedNoon := rfl
  have ht : (Reference.wall skippedNoon).instant? .kiritimati = some 788911200000000 :=
    congrArg some instantOf_skippedNoon
  have hname : NamesMonth "January" 1 := by decide +kernel
  have hresolve : resolve "January" (.wall skippedNoon) .kiritimati
      = .ok (.span 757418400000 760096799999 (by decide)) := by decide +kernel
  have hrange : monthRange .kiritimati 1994 1
      = .ok (some (.span 757418400000 760096799999 (by decide))) := by decide +kernel
  have hnext : monthRange .kiritimati (1994 + 1) 1
      = .ok (some (.span 788868000000 791546399999 (by decide))) := by decide +kernel
  have hlast := h _ _ _ _ _ _ _ _ _ Zone.kiritimati_regular hnow ht hname hresolve hrange hnext
  exact absurd hlast.2 (by decide)

end MediaSearch.TimeString
