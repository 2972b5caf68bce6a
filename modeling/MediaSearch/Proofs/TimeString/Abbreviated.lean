/-
The named periods are short for periods of the calendar.

Today is a day that can be spelled with its date, this month has a name, and this year is a
number; and so it is with yesterday, last month and last year.  The name of the period and the
longer text are read in different formats, and the period that they mean is worked out in
different ways: last month wraps around at the start of a year, while the name of a month means
the last such month that has started.  Yet they come to the same two midnights
(`SpellsOut.resolve_eq`), and so they have the same range or none.
-/
import MediaSearch.Proofs.TimeString.AroundNow
import MediaSearch.Proofs.TimeString.SingleDay

namespace MediaSearch.TimeString

open Calendar
open Text

/-! ### What the names are short for -/

/-- A time string names a month. -/
def NamesMonth (text : String) (month : Int) : Prop :=
  Format.monthName.read (strip text.toList) = some (.month month)

instance (text : String) (month : Int) : Decidable (NamesMonth text month) := by
  unfold NamesMonth; infer_instance

/-- A time string spells out a period around today. -/
inductive SpellsOut (today : Date) : Period → String → Prop
  /-- Today is the day with today's date, -/
  | today {time : String} {year month day : Nat} (spelled : SpellsDay time.toList year month day)
      (dated : Date.of? year month day = some today) : SpellsOut today .today time
  /-- yesterday is the day before, -/
  | yesterday {time : String} {year month day : Nat} {before : Date}
      (spelled : SpellsDay time.toList year month day)
      (dated : Date.of? year month day = some before)
      (next : today.dayNumber = before.dayNumber + 1) : SpellsOut today .yesterday time
  /-- this month is the one with the name of today's, -/
  | thisMonth {time : String} (named : NamesMonth time today.month) :
      SpellsOut today .thisMonth time
  /-- last month is the one with the name that comes before, and December in January, -/
  | lastMonth {time : String}
      (named : NamesMonth time (if today.month = 1 then 12 else today.month - 1)) :
      SpellsOut today .lastMonth time
  /-- this year is the year of today, -/
  | thisYear {time : String} (run : IsRun 4 4 time.toList)
      (numbered : (digitsValue time.toList : Int) = today.year) : SpellsOut today .thisYear time
  /-- and last year is the one before. -/
  | lastYear {time : String} (run : IsRun 4 4 time.toList)
      (numbered : (digitsValue time.toList : Int) = today.year - 1) : SpellsOut today .lastYear time

/-! ### Both mean the same -/

/-- Four digits are read as a year. -/
theorem reads_year {time : String} (h : IsRun 4 4 time.toList) :
    Reads (strip time.toList) (.year (digitsValue time.toList)) := by
  have hstrip : strip time.toList = time.toList :=
    strip_eq_self (fun c hc => not_isBlank_of_isDigit (h.digit c (List.mem_of_mem_head? hc)))
      (fun c hc => not_isBlank_of_isDigit (h.digit c (List.mem_of_getLast? hc)))
  refine ⟨.yearNumber, ?_⟩
  show Format.readYear (strip time.toList) = _
  unfold Format.readYear
  simp only [hstrip, number?_self h, done?, Option.bind_eq_bind, Option.bind_some, Option.pure_def]

variable {z : Zone} {reference : Reference} {now : LocalTime} {period : Period}

/-- **What spells a period out means the same as its name.** -/
theorem SpellsOut.resolve_eq {time : String} (h : SpellsOut now.wall.date period time) :
    ∃ m, Reads (strip time.toList) m ∧ m.early = false ∧
      m.resolve now z = period.resolve now z := by
  cases h with
  | today spelled dated =>
      refine ⟨_, spelled.reads, rfl, ?_⟩
      exact dayRange_of_date dated
  | @yesterday _ year month day before spelled dated next =>
      refine ⟨_, spelled.reads, rfl, ?_⟩
      have hback : daysBack now.wall.date 1 = .ok before := daysBack_eq_ok_iff.mpr (by omega)
      show dayRange z year month day = daysBack now.wall.date 1 >>= fun d => spanOfDays z d 1
      rw [hback, ok_bind, dayRange_of_date dated]
  | thisMonth named =>
      refine ⟨_, ⟨.monthName, named⟩, rfl, ?_⟩
      show monthRange z (if now.wall.date.month ≤ now.wall.date.month then _ else _) _ = _
      rw [if_pos (Int.le_refl _)]
      rfl
  | lastMonth named =>
      refine ⟨_, ⟨.monthName, named⟩, rfl, ?_⟩
      show monthRange z (if _ ≤ now.wall.date.month then _ else _) _
        = if now.wall.date.month == 1 then _ else _
      by_cases hjan : now.wall.date.month = 1
      · rw [if_pos hjan, if_neg (by omega), if_pos (beq_iff_eq.mpr hjan)]
      · rw [if_neg hjan, if_pos (by omega), if_neg (by simpa using hjan)]
  | thisYear run numbered =>
      refine ⟨_, reads_year run, rfl, ?_⟩
      show yearRange z _ = _
      rw [numbered]
      rfl
  | lastYear run numbered =>
      refine ⟨_, reads_year run, rfl, ?_⟩
      show yearRange z _ = _
      rw [numbered]
      rfl

/-! ### Both have the same outcome -/

/-- Two time strings have the same outcome: the same range, or no value.  In a zone that is not
regular, as no zone that is known by name is, they can also both be refused for the range that would
end before it starts. -/
inductive SameOutcome (z : Zone) : Except Failure TimeSpec → Except Failure TimeSpec → Prop
  /-- They stand for the same span. -/
  | range {first last : Int} (ordered : first ≤ last) :
      SameOutcome z (.ok (.span first last ordered)) (.ok (.span first last ordered))
  /-- Neither can be read. -/
  | unreadable (text text' : String) :
      SameOutcome z (.error (.unreadable text)) (.error (.unreadable text'))
  /-- The same ends are out of order. -/
  | inverted {first last : Int} (irregular : ¬ z.Regular) :
      SameOutcome z (.error (.inverted first last)) (.error (.inverted first last))

/-- Texts that mean the same span of dates have the same outcome. -/
theorem Row.sameOutcome (row : Row) (z : Zone) (number : Int) {count : Int} (hcount : 0 < count)
    (text text' : List Char) :
    SameOutcome z (row.span z number count >>= answer text)
      (row.span z number count >>= answer text') := by
  cases hspan : row.span z number count with
  | ok value =>
      cases value with
      | none => exact .unreadable _ _
      | some spec =>
          obtain ⟨_, _, -, -, ordered, rfl⟩ := Row.span_eq_some_iff.mp hspan
          exact .range ordered
  | error f =>
      obtain ⟨start, stop, -, -, rfl⟩ := spanBetween_eq_error_iff.mp hspan
      refine .inverted fun hz => ?_
      obtain ⟨value, hvalue, -⟩ := row.span_inOrder hz hcount
      exact nomatch hspan.symm.trans hvalue

theorem Period.length_pos (period : Period) : 0 < period.length := by
  cases period <;> decide

/--
**The named periods are the periods of the calendar that they abbreviate.**  From the seventh day
of year 1 on, the name of a period and any text that spells the period out have the same outcome at
the same reference time in the same zone: today and its date, yesterday and the date before, this
month and any name of it, last month and any name of the one before, this year and last year and
their numbers.
-/
theorem named_periods_abbreviate (hnow : reference.inZone z = .ok now)
    (hweek : 7 ≤ now.wall.date.dayNumber) {name time : String} (hname : Names name period)
    (hspells : SpellsOut now.wall.date period time) :
    SameOutcome z (resolve name reference z) (resolve time reference z) := by
  obtain ⟨m, hreads, hlate, hresolve⟩ := hspells.resolve_eq (z := z)
  have hreads' : Reads (strip name.toList) (.period period) := ⟨.period, hname⟩
  have hspan : period.resolve now z
      = period.row.span z (period.first now.wall.date) period.length := by
    have hlast : ¬ (period = .lastWeek ∧ now.wall.date.dayNumber < 14) := by
      rintro ⟨rfl, -⟩
      cases hspells
    rw [Period.resolve_eq hweek, if_neg hlast, Period.bounds?_eq]
    rfl
  rw [resolve_of_late hnow hweek hreads hlate, resolve_of_late hnow hweek hreads' rfl, hresolve,
    Meaning.resolve, hspan]
  exact Row.sameOutcome _ z _ period.length_pos _ _

/-- The start of 2024. -/
def newYear : LocalTime := .midnight ⟨2024, 1, 1, by decide⟩

/-- At that time yesterday, last month and last year are all of the year before. -/
theorem named_periods_abbreviate_at_newYear :
    SameOutcome .newYork (resolve "yesterday" (.wall newYear) .newYork)
        (resolve "12/31/2023" (.wall newYear) .newYork) ∧
      SameOutcome .newYork (resolve "last month" (.wall newYear) .newYork)
        (resolve "Dec" (.wall newYear) .newYork) ∧
      SameOutcome .newYork (resolve "last year" (.wall newYear) .newYork)
        (resolve "2023" (.wall newYear) .newYork) ∧
      resolve "Dec" (.wall newYear) .newYork
        = .ok (.span 1701406800000 1704085199999 (by decide)) := by
  have hnow : (Reference.wall newYear).inZone .newYork = .ok newYear := rfl
  have hweek : 7 ≤ newYear.wall.date.dayNumber := by decide
  have hday : SpellsOut newYear.wall.date .yesterday "12/31/2023" :=
    @SpellsOut.yesterday _ _ 2023 12 31 ⟨2023, 12, 31, by decide⟩
      (@SpellsDay.slash "12".toList "31".toList "2023".toList (by decide) (by decide) (by decide))
      rfl (by decide)
  have hmonth : SpellsOut newYear.wall.date .lastMonth "Dec" := .lastMonth (by decide +kernel)
  have hyear : SpellsOut newYear.wall.date .lastYear "2023" := .lastYear (by decide) (by decide)
  have hnames : Names "yesterday" .yesterday ∧ Names "last month" .lastMonth ∧
      Names "last year" .lastYear :=
    ⟨names_of_mem_periods (_, .yesterday) (by decide),
      names_of_mem_periods (_, .lastMonth) (by decide),
      names_of_mem_periods (_, .lastYear) (by decide)⟩
  exact ⟨named_periods_abbreviate hnow hweek hnames.1 hday,
    named_periods_abbreviate hnow hweek hnames.2.1 hmonth,
    named_periods_abbreviate hnow hweek hnames.2.2 hyear, by decide +kernel⟩

end MediaSearch.TimeString
