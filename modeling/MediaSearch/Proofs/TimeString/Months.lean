/-
Going back by months of the calendar.

Months are numbered in a row through all the years, so going back by some is subtracting from the
number; the day and the time of day stay.  There is a moment when the month with that number has
the day and the zone's clock shows the time of day on it exactly once, and no other way
(`resolve_months_iff`).

A number that is too long to be read fits in here: it is more months than the calendar has, so
that no date is that far back (`SaysMonths.reads`, `not_monthsEarlier_of_lt`).

Going back changes neither the day nor the time of day.  So going back twice is going back by the
sum (`shiftMonths_add`), wherever the first step ends on a local time, and also where the second
one leads nowhere or too far.
-/
import MediaSearch.Calendar.ZoneNames
import MediaSearch.Proofs.Calendar.Regular
import MediaSearch.Proofs.TimeString.Ago

namespace MediaSearch.TimeString

open Calendar

variable {now l x : LocalTime} {z : Zone} {reference : Reference} {time : String} {count : Nat}
  {spec : TimeSpec}

/-! ### The moment -/

/-- The local time so many months before another: in the month with that number, on the same day
and at the same time of day. -/
structure MonthsEarlier (l : LocalTime) (count : Int) (x : LocalTime) : Prop where
  /-- So many months lie between the two. -/
  month : x.wall.date.monthNumber = l.wall.date.monthNumber - count
  /-- The day of the month is the same. -/
  day : x.wall.date.day = l.wall.date.day
  /-- The time of day is the same. -/
  micro : x.wall.micro = l.wall.micro
  /-- So is which time of two it is, if there are two. -/
  fold : x.fold = l.fold

theorem monthsEarlier_iff {months : Int} :
    MonthsEarlier l months x ↔ shiftMonths l months = .ok (some x) := by
  rw [shiftMonths_eq_some_iff]
  constructor
  · intro h
    refine ⟨x.wall.date, Date.inMonth?_eq_some_iff.mpr ⟨h.month, h.day⟩, ?_⟩
    obtain ⟨⟨date, micro, inDay⟩, fold⟩ := x
    obtain rfl : micro = l.wall.micro := h.micro
    obtain rfl : fold = l.fold := h.fold
    rfl
  · rintro ⟨date, hdate, rfl⟩
    obtain ⟨hmonth, hday⟩ := Date.inMonth?_eq_some_iff.mp hdate
    exact ⟨hmonth, hday, rfl, rfl⟩

/-- From no date of the calendar can one go back by as many months as it has. -/
theorem not_monthsEarlier_of_lt {months : Int} (h : 120000 < months) :
    ¬ MonthsEarlier l months x := by
  intro hx
  have hmonth := hx.month
  obtain ⟨hyear, -, hlow, -, -⟩ := x.wall.date.isDate
  obtain ⟨-, hyear', -, hhigh, -⟩ := l.wall.date.isDate
  unfold Date.monthNumber at hmonth
  omega

theorem monthsBack_iff {t : Instant} :
    MonthsBack now z count t ↔ ∃ x, MonthsEarlier now count x ∧ z.ShownOnce x t := by
  constructor
  · rintro ⟨date, hdate, ht⟩
    exact ⟨_, monthsEarlier_iff.mpr (shiftMonths_eq_some_iff.mpr ⟨date, hdate, rfl⟩),
      Zone.localize?_eq_some_iff.mp ht⟩
  · rintro ⟨x, hx, ht⟩
    obtain ⟨date, hdate, rfl⟩ := shiftMonths_eq_some_iff.mp (monthsEarlier_iff.mp hx)
    exact ⟨date, hdate, Zone.localize?_eq_some_iff.mpr ht⟩

/-- The time strings that go back by so many months. -/
inductive SaysMonths : String → Nat → Prop
  /-- A number of months. -/
  | months (count : Nat) {tail : String} (unit : tail = " months ago" ∨ tail = " month ago") :
      SaysMonths (toString count ++ tail) count
  /-- A number of years, each of twelve months. -/
  | years (count : Nat) {tail : String} (unit : tail = " years ago" ∨ tail = " year ago") :
      SaysMonths (toString count ++ tail) (count * 12)

/-- A number of months is read as itself, unless it has more digits than are read, and then it is
more months than the calendar has. -/
theorem reads_or_long {text : List Char} {number months : Nat} (hmonths : 0 < months)
    (h : Reads text (Format.countAgo (Nat.toDigits 10 number) (.months months))) :
    Reads text (.ago (.months (number * months))) ∨
      120000 < number * months ∧ ∃ digits, Reads text (.longAgo digits) := by
  by_cases hlength : (Nat.toDigits 10 number).length ≤ Text.maxDigits
  · rw [Format.countAgo_of_le hlength, Text.digitsValue_toDigits] at h
    exact Or.inl h
  · rw [Format.countAgo_of_lt (Nat.not_le.mp hlength)] at h
    refine Or.inr ⟨?_, _, h⟩
    have hlong : 120000 < number := by
      by_contra hsmall
      have hshort : (Nat.toDigits 10 number).length ≤ 6 :=
        (Nat.length_toDigits_le_iff (by decide) (by decide)).mpr (by omega)
      exact hlength (Nat.le_trans hshort (by decide))
    exact Nat.lt_of_lt_of_le hlong (Nat.le_mul_of_pos_right number hmonths)

theorem SaysMonths.reads (h : SaysMonths time count) :
    Reads (Text.strip time.toList) (.ago (.months count)) ∨
      120000 < count ∧ ∃ digits, Reads (Text.strip time.toList) (.longAgo digits) := by
  cases h with
  | @months count tail unit =>
      have hread : Reads (Text.strip (toString count ++ tail).toList)
          (Format.countAgo (Nat.toDigits 10 count) (.months 1)) := by
        rcases unit with rfl | rfl
        · exact @reads_countAgo count _ "months".toList _ (by decide) (by decide)
        · exact @reads_countAgo count _ "month".toList _ (by decide) (by decide)
      have hcases := reads_or_long (by decide) hread
      rwa [Nat.mul_one] at hcases
  | @years count tail unit =>
      have hread : Reads (Text.strip (toString count ++ tail).toList)
          (Format.countAgo (Nat.toDigits 10 count) (.months 12)) := by
        rcases unit with rfl | rfl
        · exact @reads_countAgo count _ "years".toList _ (by decide) (by decide)
        · exact @reads_countAgo count _ "year".toList _ (by decide) (by decide)
      exact reads_or_long (by decide) hread

/-- A number that is too long to be read stands for nothing. -/
theorem not_resolve_of_longAgo {digits : Nat} (hnow : reference.inZone z = .ok now)
    (h : Reads (Text.strip time.toList) (.longAgo digits)) :
    resolve time reference z ≠ .ok spec := by
  rw [resolve_of_inZone hnow, Ne, firstValue_eq_ok_iff_of_early h rfl]
  exact fun hvalue => nomatch hvalue

/-- A text that says so many months ago stands for the moment that far back. -/
theorem resolve_monthsAgo_iff (hnow : reference.inZone z = .ok now)
    (h : Reads (Text.strip time.toList) (.ago (.months count))) :
    resolve time reference z = .ok spec ↔
      ∃ x t, MonthsEarlier now count x ∧ z.ShownOnce x t ∧ spec = .moment t.toMillis := by
  rw [resolve_of_inZone hnow, firstValue_eq_ok_iff_of_early h rfl, Meaning.resolve,
    before_months_eq_some_iff]
  simp only [monthsBack_iff]
  constructor
  · rintro ⟨t, ⟨x, hx, ht⟩, rfl⟩
    exact ⟨x, t, hx, ht, rfl⟩
  · rintro ⟨x, t, hx, ht, rfl⟩
    exact ⟨t, ⟨x, hx, ht⟩, rfl⟩

/-- A time string that goes back by months stands for the moment that far back. -/
theorem resolve_months_iff (hnow : reference.inZone z = .ok now) (h : SaysMonths time count) :
    resolve time reference z = .ok spec ↔
      ∃ x t, MonthsEarlier now count x ∧ z.ShownOnce x t ∧ spec = .moment t.toMillis := by
  rcases h.reads with hread | ⟨hfar, digits, hread⟩
  · exact resolve_monthsAgo_iff hnow hread
  · constructor
    · intro hspec
      exact absurd hspec (not_resolve_of_longAgo hnow hread)
    · rintro ⟨x, t, hx, -, -⟩
      exact absurd hx (not_monthsEarlier_of_lt (by omega))

/-! ### Going back twice -/

/-- The local time so many months back, when the zone's clock shows it once. -/
def shiftedBack (z : Zone) (l : LocalTime) (months : Int) : Except Failure (Option LocalTime) :=
  (shiftMonths l months).map fun shifted => shifted.filter fun x => (z.localize? x).isSome

/-- The moment so many months back is that of the local time so many months back. -/
theorem before_months_eq_shiftedBack :
    before now z (.months count)
      = (shiftedBack z now count).map fun x => (x.bind z.localize?).map momentAt := by
  have hfilter : ∀ shifted : Option LocalTime,
      (shifted.filter fun x => (z.localize? x).isSome).bind z.localize?
        = shifted.bind z.localize? := by
    intro shifted
    cases shifted with
    | none => rfl
    | some x => cases hx : z.localize? x <;> simp [Option.filter, hx]
  rw [before, shiftedBack]
  cases shiftMonths now count with
  | error f => rfl
  | ok shifted => exact congrArg (fun t => Except.ok (Option.map momentAt t)) (hfilter shifted).symm

/-- What is far back from a local time so many months back is that much further back from the local
time itself. -/
theorem shiftMonths_add {a b : Int} (h : shiftMonths l a = .ok (some x)) :
    shiftMonths x b = shiftMonths l (a + b) := by
  obtain ⟨hmonth, hday, hmicro, hfold⟩ := monthsEarlier_iff.mpr h
  have hnumber : x.wall.date.monthNumber - b = l.wall.date.monthNumber - (a + b) := by omega
  have htime : x.onDate = l.onDate := by
    funext date
    simp only [LocalTime.onDate, hmicro, hfold]
  unfold shiftMonths Date.inMonth?
  simp only [hnumber, hday, htime]

theorem shiftMonths_of_shiftedBack {months : Int} (h : shiftedBack z l months = .ok (some x)) :
    shiftMonths l months = .ok (some x) := by
  cases hshift : shiftMonths l months with
  | error f =>
      rw [shiftedBack, hshift] at h
      exact nomatch h
  | ok shifted =>
      rw [shiftedBack, hshift] at h
      rw [(Option.filter_eq_some_iff.mp (Except.ok.inj h)).1]

/--
**Going back by months walks the calendar exactly.**  A time string that goes back by months or
years stands for a moment exactly when there is a local time so many months before the one that the
zone's clock shows now, on the same day of the month and at the same time of day, and the clock
shows that local time once; it is the moment when it does.  In any other case the time string stands
for nothing.  This moment is that of the local time shifted back, and shifts add up: a local time
that has been shifted back and is shifted again, either way, has the outcome of the one shift by
the sum, whether that is a local time, none, or a year too far away to be counted.
-/
theorem months_walk_calendar :
    (∀ (time : String) (count : Nat) (reference : Reference) (z : Zone) (now : LocalTime)
      (spec : TimeSpec), SaysMonths time count → reference.inZone z = .ok now →
        (resolve time reference z = .ok spec ↔
          ∃ x t, MonthsEarlier now count x ∧ z.ShownOnce x t ∧ spec = .moment t.toMillis)) ∧
    (∀ (z : Zone) (now : LocalTime) (count : Nat),
      before now z (.months count)
        = (shiftedBack z now count).map fun x => (x.bind z.localize?).map momentAt) ∧
    ∀ (z : Zone) (l x : LocalTime) (a b : Int), shiftedBack z l a = .ok (some x) →
      shiftedBack z x b = shiftedBack z l (a + b) := by
  refine ⟨fun time count reference z now spec htime hnow => resolve_months_iff hnow htime,
    fun z now count => before_months_eq_shiftedBack, fun z l x a b h => ?_⟩
  rw [shiftedBack, shiftedBack, shiftMonths_add (shiftMonths_of_shiftedBack h)]

theorem noon_inDay : (0 : Int) ≤ 43200000000 ∧ 43200000000 < microsPerDay := by
  decide

/-- Noon of a 29th of February. -/
def leapNoon (year : Int) (h : IsDate year 2 29) : LocalTime :=
  ⟨⟨⟨year, 2, 29, h⟩, 43200000000, noon_inDay⟩, false⟩

/-- In 2024 there was a 29th of February four years before and none twelve months before; twice four
years before is eight years before. -/
theorem months_walk_calendar_of_leapNoon :
    resolve "4 years ago" (.wall (leapNoon 2024 (by decide))) .utc = .ok (.moment 1582977600000) ∧
    (∀ spec, resolve "12 months ago" (.wall (leapNoon 2024 (by decide))) .utc ≠ .ok spec) ∧
    shiftedBack .utc (leapNoon 2020 (by decide)) 48
      = shiftedBack .utc (leapNoon 2024 (by decide)) (48 + 48) := by
  obtain ⟨hmoment, -, hadd⟩ := months_walk_calendar
  have hnow : (Reference.wall (leapNoon 2024 (by decide))).inZone .utc
      = .ok (leapNoon 2024 (by decide)) := rfl
  have hyears : SaysMonths "4 years ago" 48 := .years 4 (.inl rfl)
  have hmonths : SaysMonths "12 months ago" 12 := .months 12 (.inl rfl)
  refine ⟨(hmoment _ _ _ _ _ _ hyears hnow).mpr ⟨leapNoon 2020 (by decide), 1582977600000000, ?_, ?_,
    rfl⟩, fun spec h => ?_, hadd _ _ _ _ _ ?_⟩
  · exact ⟨by decide, rfl, rfl, rfl⟩
  · exact Zone.localize?_eq_some_iff.mp (by decide +kernel)
  · obtain ⟨x, t, hx, -, -⟩ := (hmoment _ _ _ _ _ _ hmonths hnow).mp h
    have hnone : shiftMonths (leapNoon 2024 (by decide)) (12 : Nat) = .ok none := rfl
    exact nomatch hnone.symm.trans (monthsEarlier_iff.mp hx)
  · rfl

end MediaSearch.TimeString
