/-
Months ago and the periods around now.

A time so many months back is found by the fields of a wall time, and the range of a month by its
two midnights.  In a regular zone the two agree: what the clock shows once is in the range of the
month that it shows, since it shows the dates between two midnights from the one to the other
(`contains_iff_of_shownOnce`).  So a month ago is in last month and a year ago is in last year, and
a query for what was published then finds what was published a month or a year ago.

The zone has to be regular.  Otherwise its clock could show a wall time once and still be put back
over the midnight before, and the month would have ended by then.
-/
import MediaSearch.Proofs.Query.Part
import MediaSearch.Proofs.TimeString.AroundNow
import MediaSearch.Proofs.TimeString.Months

namespace MediaSearch.TimeString

open Calendar

variable {z : Zone} {reference : Reference} {now : LocalTime} {time name : String} {count : Nat}
  {period : Period} {spec range : TimeSpec} {x : LocalTime} {t : Instant}

/-! ### Wall times in spans of months -/

/-- A local time that the clock shows once is in the span of months that its own month is one of. -/
theorem contains_iff_of_shownOnce (hz : z.Regular) (ht : z.ShownOnce x t) {number length : Int}
    (h : Row.months.span z number length = .ok (some spec)) :
    spec.contains t.toMillis = true ↔
      number ≤ x.wall.date.monthNumber ∧ x.wall.date.monthNumber < number + length := by
  obtain ⟨first, next, hfirst, hnext, hcontains⟩ := contains_shown_iff hz ht.shown h
  rw [hcontains, Row.months_date?_eq_some_iff.mp hfirst, Row.months_date?_eq_some_iff.mp hnext,
    monthStart_le_dayNumber_iff, ← Int.not_le, monthStart_le_dayNumber_iff, Int.not_le]

/-! ### Months back -/

/-- A time string goes back by so many months of the calendar. -/
def GoesBack (time : String) (count : Nat) : Prop :=
  Reads (Text.strip time.toList) (.ago (.months count))

/-- A number of months or years and `ago` go back by as many months, if they stand for anything. -/
theorem SaysMonths.goesBack (h : SaysMonths time count) (hnow : reference.inZone z = .ok now)
    (hspec : resolve time reference z = .ok spec) : GoesBack time count := by
  rcases h.reads with hreads | ⟨-, digits, hreads⟩
  · exact hreads
  · exact absurd hspec (not_resolve_of_longAgo hnow hreads)

/-- What goes back by months stands for a moment in every span of months that has the month so many
months before now's. -/
theorem contains_of_goesBack (hz : z.Regular) (hnow : reference.inZone z = .ok now)
    (htime : GoesBack time count) (h : resolve time reference z = .ok spec) :
    ∃ t, spec = .moment t ∧ ∀ number length range,
      Row.months.span z number length = .ok (some range) →
      (range.contains t = true ↔ number ≤ now.wall.date.monthNumber - count ∧
        now.wall.date.monthNumber - count < number + length) := by
  obtain ⟨x, t, hx, ht, rfl⟩ := (resolve_monthsAgo_iff hnow htime).mp h
  refine ⟨t.toMillis, rfl, fun number length range hrange => ?_⟩
  rw [contains_iff_of_shownOnce hz ht hrange, hx.month]

/-- Which period around now a number of months back leads to. -/
inductive Period.Reaches : Period → Nat → Prop
  /-- A month back is in last month. -/
  | lastMonth : Reaches .lastMonth 1
  /-- Twelve months back are in last year. -/
  | lastYear : Reaches .lastYear 12

/-- The month so many months before now's is one of the period's. -/
theorem Period.Reaches.mem (h : period.Reaches count) (today : Date) :
    period.row = Row.months ∧ period.first today ≤ today.monthNumber - count ∧
      today.monthNumber - count < period.first today + period.length := by
  obtain ⟨-, -, hmonth, hmonth', -, -⟩ := today.isDate
  cases h with
  | lastMonth =>
      refine ⟨rfl, ?_⟩
      simp only [Period.first, Period.length]
      omega
  | lastYear =>
      refine ⟨rfl, ?_⟩
      simp only [Period.first, Period.length, Date.monthNumber]
      omega

end MediaSearch.TimeString

namespace MediaSearch.Query

open Calendar (LocalTime Zone)
open TimeString (GoesBack Names Period Reference Row SaysMonths monthRange resolve)

variable {clock : Clock} {item : Item}

/-! ### Queries for what was published during a time -/

/-- A query asks for what was published during what a time string stands for. -/
def AsksDuring (query time : String) : Prop :=
  ∃ function, Text.lowered function = "during" ∧
    tokenize? query = some [.opening, .text function, .text time, .closing]

/-- It is read where the time string stands for a span, and finds what was published in it. -/
theorem holds_of_asksDuring {query time : String} {range : TimeSpec} (hasks : AsksDuring query time)
    (hrange : resolve time clock.now clock.zone = .ok range) (hspan : range.isSpan = true)
    (hin : range.contains item.published = true) :
    ∃ e, parse clock query = .ok e ∧ e.holds clock item = .ok true := by
  obtain ⟨function, hfunction, htokens⟩ := hasks
  refine ⟨.published .during time, parse_eq_ok_iff.mpr ⟨_, htokens, ?_⟩, ?_⟩
  · exact .leaf (l := .published .during) hfunction (.published hrange fun _ => hspan)
  · rw [published_holds, resolved_eq_ok_iff.mpr hrange]
    exact congrArg Except.ok hin

variable {z : Zone} {reference : Reference} {now : LocalTime}

/--
**Going back by months leads into the month that many months back.**  In a regular zone, a time
string that goes back by months stands for a moment, if for anything, and the range of the month
so many months before the one that the clock shows now, if there is one, has the moment in it.  So a
month ago is in last month, and a year ago is in last year, where both stand for something; and a
query for what was published during last month, or last year, is read and finds an item that was
published then.
-/
theorem months_ago_in_range (hz : z.Regular) (hnow : reference.inZone z = .ok now) :
    (∀ time count spec, SaysMonths time count → resolve time reference z = .ok spec →
      GoesBack time count) ∧
    (∀ time count spec, GoesBack time count → resolve time reference z = .ok spec →
      ∃ t, spec = .moment t ∧ ∀ year month range, 1 ≤ month ∧ month ≤ 12 →
        12 * year + (month - 1)
          = 12 * now.wall.date.year + (now.wall.date.month - 1) - count →
        monthRange z year month = .ok (some range) → range.contains t = true) ∧
    ∀ time count name period t range, GoesBack time count → Names name period →
      period.Reaches count → resolve time reference z = .ok (.moment t) →
      resolve name reference z = .ok range →
        range.contains t = true ∧
          ∀ (item : Item) (query : String), item.published = t → AsksDuring query name →
            ∃ e, parse ⟨reference, z⟩ query = .ok e ∧ e.holds ⟨reference, z⟩ item = .ok true := by
  refine ⟨fun time count spec h hspec => h.goesBack hnow hspec, ?_, ?_⟩
  · intro time count spec htime hspec
    obtain ⟨t, rfl, hcontains⟩ := TimeString.contains_of_goesBack hz hnow htime hspec
    refine ⟨t, rfl, fun year month range hmonth hnumber hrange => ?_⟩
    have hspan : Row.months.span z (12 * year + (month - 1)) 1 = .ok (some range) :=
      (TimeString.monthRange_eq z hmonth).symm.trans hrange
    refine (hcontains _ _ _ hspan).mpr ?_
    unfold Calendar.Date.monthNumber
    omega
  · intro time count name period t range htime hname hreaches hmoment hrange
    obtain ⟨t', ht', hcontains⟩ := TimeString.contains_of_goesBack hz hnow htime hmoment
    obtain rfl := TimeSpec.moment.inj ht'
    have hspan := TimeString.span_of_names hname hnow hrange
    obtain ⟨hrow, hmem⟩ := hreaches.mem now.wall.date
    rw [hrow] at hspan
    have hin : range.contains t = true := (hcontains _ _ _ hspan).mpr hmem
    refine ⟨hin, ?_⟩
    rintro item query rfl hasks
    obtain ⟨_, _, -, -, _, rfl⟩ := Row.span_eq_some_iff.mp hspan
    exact holds_of_asksDuring hasks hrange rfl hin

/-- The start of a day in the middle of January 2024. -/
def midJanuary : LocalTime := .midnight ⟨2024, 1, 15, by decide⟩

/-- A month before that in New York is in December, and so in last month. -/
theorem months_ago_in_range_at_midJanuary :
    resolve "1 month ago" (.wall midJanuary) .newYork = .ok (.moment 1702616400000) ∧
      resolve "last month" (.wall midJanuary) .newYork
        = .ok (.span 1701406800000 1704085199999 (by decide)) ∧
      TimeSpec.contains (.span 1701406800000 1704085199999 (by decide)) 1702616400000 = true ∧
      ∃ e, parse ⟨.wall midJanuary, .newYork⟩ "(during \"last month\")" = .ok e ∧
        e.holds ⟨.wall midJanuary, .newYork⟩ { (default : Item) with published := 1702616400000 }
          = .ok true := by
  have hnow : (Reference.wall midJanuary).inZone .newYork = .ok midJanuary := rfl
  have hmoment : resolve "1 month ago" (.wall midJanuary) .newYork
      = .ok (.moment 1702616400000) := by decide +kernel
  have hrange : resolve "last month" (.wall midJanuary) .newYork
      = .ok (.span 1701406800000 1704085199999 (by decide)) := by decide +kernel
  have hnames : Names "last month" .lastMonth :=
    TimeString.names_of_mem_periods (_, .lastMonth) (by decide)
  have htime : SaysMonths "1 month ago" 1 := .months 1 (.inr rfl)
  have hasks : AsksDuring "(during \"last month\")" "last month" :=
    ⟨"during", by decide +kernel, by decide +kernel⟩
  obtain ⟨hback, -, hperiods⟩ := months_ago_in_range Zone.newYork_regular hnow
  obtain ⟨hin, hqueries⟩ :=
    hperiods _ _ _ _ _ _ (hback _ _ _ htime hmoment) hnames .lastMonth hmoment hrange
  exact ⟨hmoment, hrange, hin, hqueries _ _ rfl hasks⟩

end MediaSearch.Query
