/-
Dates and their numbers are two ways to say the same.

`Date.dayNumber` counts days in closed form and `Date.ofDayNumber?` undoes it from a
guess at the year and a formula for the month.  What has to be shown is that guess and
formula hit: the number of a day lies between those of the first days of its year and
the next (`yearOfDay_spec`), and so for its month (`monthOfDay_spec`).  The rest
follows from the numbers of first days growing with the year and with the month.

With that, every step over a number of days is addition (`addDays?_eq_some_iff`), and
it fails exactly outside the numbers 1 to 3652059 of the years 1 to 9999.
-/
import Mathlib.Tactic.ByContra
import MediaSearch.Calendar.Date

namespace MediaSearch.Calendar

namespace Date

/-! ### Years -/

/-- How many days a year has. -/
def daysInYear (year : Int) : Int :=
  if isLeap year then 366 else 365

theorem daysBeforeYear_succ (year : Int) :
    daysBeforeYear (year + 1) = daysBeforeYear year + daysInYear year := by
  unfold daysBeforeYear daysInYear isLeap
  by_cases h4 : year % 4 = 0 <;> by_cases h100 : year % 100 = 0 <;>
    by_cases h400 : year % 400 = 0 <;> simp [h4, h100, h400] <;> omega

theorem daysBeforeYear_mono {a b : Int} (h : a ≤ b) : daysBeforeYear a ≤ daysBeforeYear b := by
  unfold daysBeforeYear
  dsimp only
  omega

/-- The year found for a day is the one that the day falls in. -/
theorem yearOfDay_spec (number : Int) :
    daysBeforeYear (yearOfDay number) < number ∧
      number ≤ daysBeforeYear (yearOfDay number + 1) := by
  -- The mean length of a year is off by one year at most.
  have hguess : daysBeforeYear (400 * (number - 1) / 146097 + 1 - 1) < number ∧
      number ≤ daysBeforeYear (400 * (number - 1) / 146097 + 1 + 1 + 1) := by
    unfold daysBeforeYear
    dsimp only
    omega
  unfold yearOfDay
  dsimp only
  split
  · rename_i hlater
    exact ⟨hlater, hguess.2⟩
  · split
    · rename_i hnot hin
      exact ⟨hin, by omega⟩
    · refine ⟨hguess.1, ?_⟩
      rw [Int.sub_add_cancel]
      omega

theorem yearOfDay_eq {year number : Int} (hlow : daysBeforeYear year < number)
    (hhigh : number ≤ daysBeforeYear (year + 1)) : yearOfDay number = year := by
  obtain ⟨hlow', hhigh'⟩ := yearOfDay_spec number
  rcases Int.lt_trichotomy (yearOfDay number) year with hlt | heq | hgt
  · have := daysBeforeYear_mono (show yearOfDay number + 1 ≤ year by omega)
    omega
  · exact heq
  · have := daysBeforeYear_mono (show year + 1 ≤ yearOfDay number by omega)
    omega

/-! ### Months -/

private theorem month_cases {month : Int} (h : 1 ≤ month ∧ month ≤ 12) :
    month = 1 ∨ month = 2 ∨ month = 3 ∨ month = 4 ∨ month = 5 ∨ month = 6 ∨ month = 7 ∨
      month = 8 ∨ month = 9 ∨ month = 10 ∨ month = 11 ∨ month = 12 := by
  omega

theorem daysBeforeMonth_succ {year month : Int} (h : 1 ≤ month ∧ month ≤ 12) :
    daysBeforeMonth year (month + 1) = daysBeforeMonth year month + daysInMonth year month := by
  unfold daysBeforeMonth daysInMonth
  cases isLeap year <;>
    rcases month_cases h with
      rfl | rfl | rfl | rfl | rfl | rfl | rfl | rfl | rfl | rfl | rfl | rfl <;> rfl

theorem daysBeforeMonth_first (year : Int) : daysBeforeMonth year 1 = 0 := rfl

theorem daysBeforeMonth_end (year : Int) : daysBeforeMonth year 13 = daysInYear year := by
  unfold daysBeforeMonth daysInYear
  cases isLeap year <;> rfl

theorem daysBeforeMonth_mono (year : Int) {a b : Int} (ha : 1 ≤ a) (hab : a ≤ b) (hb : b ≤ 13) :
    daysBeforeMonth year a ≤ daysBeforeMonth year b := by
  unfold daysBeforeMonth
  cases isLeap year <;> simp only [Bool.false_eq_true, if_false, if_true] <;> split <;> split <;>
    omega

/-- The month found for a day of a year is the one that the day falls in. -/
theorem monthOfDay_spec (year passed : Int) (h : 0 ≤ passed) (h' : passed < daysInYear year) :
    (1 ≤ monthOfDay year passed ∧ monthOfDay year passed ≤ 12) ∧
      daysBeforeMonth year (monthOfDay year passed) ≤ passed ∧
      passed < daysBeforeMonth year (monthOfDay year passed + 1) := by
  unfold daysInYear at h'
  have hbounds : 1 ≤ monthOfDay year passed ∧ monthOfDay year passed ≤ 12 := by
    unfold monthOfDay daysBeforeMonth
    cases hleap : isLeap year <;> simp [hleap] at h' ⊢ <;> split <;> omega
  refine ⟨hbounds, ?_⟩
  generalize hm : monthOfDay year passed = month at hbounds ⊢
  unfold monthOfDay daysBeforeMonth at hm
  unfold daysBeforeMonth
  cases hleap : isLeap year <;> simp [hleap] at h' hm ⊢ <;>
    rcases month_cases hbounds with
      rfl | rfl | rfl | rfl | rfl | rfl | rfl | rfl | rfl | rfl | rfl | rfl <;>
    split at hm <;> simp <;> omega

theorem monthOfDay_eq {year month passed : Int} (h : 1 ≤ month ∧ month ≤ 12)
    (hlow : daysBeforeMonth year month ≤ passed)
    (hhigh : passed < daysBeforeMonth year (month + 1)) : monthOfDay year passed = month := by
  have hpos : 0 ≤ passed := by
    have := daysBeforeMonth_mono year (Int.le_refl 1) h.1 (by omega)
    rw [daysBeforeMonth_first] at this
    omega
  have hend : passed < daysInYear year := by
    have := daysBeforeMonth_mono year (show 1 ≤ month + 1 by omega)
      (show month + 1 ≤ 13 by omega) (Int.le_refl 13)
    rw [daysBeforeMonth_end] at this
    omega
  obtain ⟨hbounds, hlow', hhigh'⟩ := monthOfDay_spec year passed hpos hend
  rcases Int.lt_trichotomy (monthOfDay year passed) month with hlt | heq | hgt
  · have := daysBeforeMonth_mono year (show 1 ≤ monthOfDay year passed + 1 by omega)
      (show monthOfDay year passed + 1 ≤ month by omega) (by omega)
    omega
  · exact heq
  · have := daysBeforeMonth_mono year (show 1 ≤ month + 1 by omega)
      (show month + 1 ≤ monthOfDay year passed by omega) (by omega)
    omega

/-! ### Dates -/

theorem of?_eq_some_iff {year month day : Int} {d : Date} :
    of? year month day = some d ↔ d.year = year ∧ d.month = month ∧ d.day = day := by
  unfold of?
  constructor
  · intro h
    split at h
    · rw [Option.some.injEq] at h
      subst h
      exact ⟨rfl, rfl, rfl⟩
    · simp at h
  · rintro ⟨rfl, rfl, rfl⟩
    rw [dif_pos d.isDate]

/-- The same day in another month is the date of that month with the day. -/
theorem inMonth?_eq_some_iff {d d' : Date} {number : Int} :
    d.inMonth? number = some d' ↔ d'.monthNumber = number ∧ d'.day = d.day := by
  obtain ⟨-, -, hlow, hhigh, -⟩ := d'.isDate
  rw [inMonth?, of?_eq_some_iff, monthNumber]
  constructor
  · rintro ⟨hyear, hmonth, hday⟩
    exact ⟨by omega, hday⟩
  · rintro ⟨hnumber, hday⟩
    exact ⟨by omega, by omega, hday⟩

/-- A date's place within its year. -/
theorem passed_bounds (d : Date) :
    daysBeforeMonth d.year d.month ≤ d.dayNumber - daysBeforeYear d.year - 1 ∧
      d.dayNumber - daysBeforeYear d.year - 1 < daysBeforeMonth d.year (d.month + 1) := by
  obtain ⟨_, _, hm, hm', hd, hd'⟩ := d.isDate
  rw [daysBeforeMonth_succ ⟨hm, hm'⟩]
  unfold dayNumber
  omega

theorem dayNumber_bounds (d : Date) :
    daysBeforeYear d.year < d.dayNumber ∧ d.dayNumber ≤ daysBeforeYear (d.year + 1) := by
  obtain ⟨hlow, hhigh⟩ := d.passed_bounds
  obtain ⟨_, _, hm, hm', _⟩ := d.isDate
  have hfirst := daysBeforeMonth_mono d.year (Int.le_refl 1) hm (by omega)
  have hlast := daysBeforeMonth_mono d.year (show 1 ≤ d.month + 1 by omega)
    (show d.month + 1 ≤ 13 by omega) (Int.le_refl 13)
  rw [daysBeforeMonth_first] at hfirst
  rw [daysBeforeMonth_end] at hlast
  rw [daysBeforeYear_succ]
  omega

/-- The dates of a year are the days that it has in a row. -/
theorem year_eq_iff {d : Date} {year : Int} :
    d.year = year ↔
      daysBeforeYear year < d.dayNumber ∧ d.dayNumber ≤ daysBeforeYear year + daysInYear year := by
  rw [← daysBeforeYear_succ]
  constructor
  · rintro rfl
    exact d.dayNumber_bounds
  · intro h
    obtain ⟨hlow, hhigh⟩ := d.dayNumber_bounds
    exact (yearOfDay_eq hlow hhigh).symm.trans (yearOfDay_eq h.1 h.2)

/-- The dates of a month are the days that it has in a row. -/
theorem month_eq_iff {d : Date} {year month : Int} (h : 1 ≤ month ∧ month ≤ 12) :
    d.year = year ∧ d.month = month ↔
      daysBeforeYear year + daysBeforeMonth year month < d.dayNumber ∧
        d.dayNumber ≤ daysBeforeYear year + daysBeforeMonth year month + daysInMonth year month := by
  obtain ⟨hlow, hhigh⟩ := d.passed_bounds
  obtain ⟨_, _, hm, hm', _⟩ := d.isDate
  constructor
  · rintro ⟨rfl, rfl⟩
    rw [daysBeforeMonth_succ h] at hhigh
    omega
  · intro hin
    rw [Int.add_assoc _ _ (daysInMonth year month), ← daysBeforeMonth_succ h] at hin
    have hstart := daysBeforeMonth_mono year (Int.le_refl 1) h.1 (by omega)
    have hend := daysBeforeMonth_mono year (show 1 ≤ month + 1 by omega)
      (show month + 1 ≤ 13 by omega) (Int.le_refl 13)
    rw [daysBeforeMonth_first] at hstart
    rw [daysBeforeMonth_end] at hend
    have hyear : d.year = year := year_eq_iff.mpr ⟨by omega, by omega⟩
    subst hyear
    exact ⟨rfl, (monthOfDay_eq ⟨hm, hm'⟩ hlow hhigh).symm.trans
      (monthOfDay_eq h (by omega) (by omega))⟩

/-- **A date is found by its number, and by no other.** -/
theorem ofDayNumber?_eq_some_iff {number : Int} {d : Date} :
    ofDayNumber? number = some d ↔ d.dayNumber = number := by
  constructor
  · intro h
    obtain ⟨hy, hm, hd⟩ := of?_eq_some_iff.mp h
    unfold dayNumber
    rw [hd, hm, hy]
    omega
  · rintro rfl
    obtain ⟨hlow, hhigh⟩ := d.dayNumber_bounds
    obtain ⟨hlow', hhigh'⟩ := d.passed_bounds
    obtain ⟨_, _, hm, hm', _⟩ := d.isDate
    have hyear := yearOfDay_eq hlow hhigh
    have hmonth := monthOfDay_eq ⟨hm, hm'⟩ hlow' hhigh'
    unfold ofDayNumber?
    dsimp only
    rw [hyear, hmonth]
    refine of?_eq_some_iff.mpr ⟨rfl, rfl, ?_⟩
    unfold dayNumber
    omega

/-- The numbers of dates are those of the years 1 to 9999. -/
theorem ofDayNumber?_eq_none_iff {number : Int} :
    ofDayNumber? number = none ↔ number < 1 ∨ 3652059 < number := by
  have hfirst : daysBeforeYear 1 = 0 := rfl
  have hlast : daysBeforeYear 10000 = 3652059 := rfl
  constructor
  · intro h
    by_contra hc
    obtain ⟨hlow, hhigh⟩ := yearOfDay_spec number
    have hyear : 1 ≤ yearOfDay number ∧ yearOfDay number ≤ 9999 := by
      constructor
      · by_contra hlt
        have := daysBeforeYear_mono (show yearOfDay number + 1 ≤ 1 by omega)
        omega
      · by_contra hgt
        have := daysBeforeYear_mono (show 10000 ≤ yearOfDay number by omega)
        omega
    rw [daysBeforeYear_succ] at hhigh
    obtain ⟨hmonth, hlow', hhigh'⟩ :=
      monthOfDay_spec (yearOfDay number) (number - daysBeforeYear (yearOfDay number) - 1) (by omega)
        (by omega)
    rw [daysBeforeMonth_succ hmonth] at hhigh'
    unfold ofDayNumber? of? at h
    dsimp only at h
    rw [dif_pos ⟨hyear.1, hyear.2, hmonth.1, hmonth.2, by omega, by omega⟩] at h
    simp at h
  · intro hout
    cases h : ofDayNumber? number with
    | none => rfl
    | some d =>
        have hnumber := ofDayNumber?_eq_some_iff.mp h
        obtain ⟨hlow, hhigh⟩ := d.dayNumber_bounds
        obtain ⟨hy, hy', _⟩ := d.isDate
        have h1 := daysBeforeYear_mono hy
        have h2 := daysBeforeYear_mono (show d.year + 1 ≤ 10000 by omega)
        omega

theorem dayNumber_pos (d : Date) : 1 ≤ d.dayNumber := by
  by_contra h
  have hnone := ofDayNumber?_eq_none_iff.mpr (Or.inl (show d.dayNumber < 1 by omega))
  rw [ofDayNumber?_eq_some_iff.mpr rfl] at hnone
  simp at hnone

theorem dayNumber_le (d : Date) : d.dayNumber ≤ 3652059 := by
  by_contra h
  have hnone := ofDayNumber?_eq_none_iff.mpr (Or.inr (show 3652059 < d.dayNumber by omega))
  rw [ofDayNumber?_eq_some_iff.mpr rfl] at hnone
  simp at hnone

theorem addDays?_eq_some_iff {d d' : Date} {days : Int} :
    d.addDays? days = some d' ↔ d'.dayNumber = d.dayNumber + days :=
  ofDayNumber?_eq_some_iff

theorem addDays?_eq_none_iff {d : Date} {days : Int} :
    d.addDays? days = none ↔ d.dayNumber + days < 1 ∨ 3652059 < d.dayNumber + days :=
  ofDayNumber?_eq_none_iff

end Date

end MediaSearch.Calendar
