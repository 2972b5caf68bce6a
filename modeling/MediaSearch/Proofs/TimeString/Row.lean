/-
Spans between dates in a row.

Days and months are both counted, and under each number there is one date at most: the day
itself, or the first of the month.  A span of the calendar goes from the midnight of one of
these dates to the midnight of a later one (`Row.span`), so all that can be said about days,
weeks, months and years side by side is said about rows of dates: a span that follows on
another begins where that one ends, and spans that follow on each other make up the span
from the first to the last (`exists_span`, `contains_iff_existsUnique`).

The zone enters only through the millisecond of each midnight (`Row.start?`).  Where the zone
is regular, these are in the order of the dates, and so no span is refused (`Row.span_inOrder`).
-/
import Mathlib.Logic.ExistsUnique
import Mathlib.Order.Monotone.Basic
import MediaSearch.Proofs.Calendar.Regular
import MediaSearch.Proofs.TimeString.Span

namespace MediaSearch.TimeString

open Calendar

/-! ### Rows of dates -/

/-- Dates under numbers, later ones under greater numbers. -/
structure Row where
  /-- The date under a number. -/
  date? : Int → Option Date
  /-- The dates are in order. -/
  ordered : ∀ {m n : Int} {d d' : Date},
    date? m = some d → date? n = some d' → m < n → d.dayNumber < d'.dayNumber

/-- The days of the calendar. -/
def Row.days : Row where
  date? := Date.ofDayNumber?
  ordered := by
    intro m n d d' hd hd' hlt
    rw [Date.ofDayNumber?_eq_some_iff.mp hd, Date.ofDayNumber?_eq_some_iff.mp hd']
    exact hlt

/-- The number of the day on which the month with a number begins. -/
def monthStart (number : Int) : Int :=
  Date.daysBeforeYear (number / 12) + Date.daysBeforeMonth (number / 12) (number % 12 + 1) + 1

theorem daysInMonth_pos (year month : Int) : 0 < daysInMonth year month := by
  unfold daysInMonth
  split
  · split <;> omega
  · split <;> omega

theorem firstOfMonth?_eq_ofDayNumber? (number : Int) :
    firstOfMonth? number = Date.ofDayNumber? (monthStart number) := by
  have hmonth : 1 ≤ number % 12 + 1 ∧ number % 12 + 1 ≤ 12 := by omega
  have hlength := daysInMonth_pos (number / 12) (number % 12 + 1)
  refine Option.ext fun d => ?_
  unfold firstOfMonth?
  rw [Date.of?_eq_some_iff, Date.ofDayNumber?_eq_some_iff]
  unfold monthStart
  constructor
  · rintro ⟨hyear, hmonth, hday⟩
    rw [Date.dayNumber, hyear, hmonth, hday]
  · intro hnumber
    have hfields : d.year = number / 12 ∧ d.month = number % 12 + 1 :=
      (Date.month_eq_iff hmonth).mpr ⟨by omega, by omega⟩
    obtain ⟨hyear, hmonth⟩ := hfields
    rw [Date.dayNumber, hyear, hmonth] at hnumber
    exact ⟨hyear, hmonth, by omega⟩

theorem monthStart_succ (number : Int) :
    monthStart (number + 1) = monthStart number + daysInMonth (number / 12) (number % 12 + 1) := by
  have hmonth : 1 ≤ number % 12 + 1 ∧ number % 12 + 1 ≤ 12 := by omega
  have hnext : Date.daysBeforeMonth (number / 12) (number % 12 + 1 + 1) = _ :=
    Date.daysBeforeMonth_succ hmonth
  unfold monthStart
  by_cases hdec : number % 12 = 11
  · have hyear : (number + 1) / 12 = number / 12 + 1 := by omega
    have hfirst : (number + 1) % 12 = 0 := by omega
    rw [hdec, show (11 : Int) + 1 + 1 = 13 from rfl, Date.daysBeforeMonth_end] at hnext
    rw [hyear, hfirst, Date.daysBeforeYear_succ, show (0 : Int) + 1 = 1 from rfl,
      Date.daysBeforeMonth_first, hdec]
    omega
  · have hyear : (number + 1) / 12 = number / 12 := by omega
    have hsucc : (number + 1) % 12 = number % 12 + 1 := by omega
    rw [hyear, hsucc]
    omega

theorem monthStart_lt {m n : Int} (h : m < n) : monthStart m < monthStart n := by
  refine strictMono_int_of_lt_succ (fun number => ?_) h
  have := daysInMonth_pos (number / 12) (number % 12 + 1)
  rw [monthStart_succ]
  omega

/-- The months of the calendar, each under its first day. -/
def Row.months : Row where
  date? := firstOfMonth?
  ordered := by
    intro m n d d' hd hd' hlt
    rw [firstOfMonth?_eq_ofDayNumber?] at hd hd'
    rw [Date.ofDayNumber?_eq_some_iff.mp hd, Date.ofDayNumber?_eq_some_iff.mp hd']
    exact monthStart_lt hlt

theorem Row.days_date?_eq_some_iff {n : Int} {d : Date} :
    Row.days.date? n = some d ↔ d.dayNumber = n :=
  Date.ofDayNumber?_eq_some_iff

theorem Row.months_date?_eq_some_iff {n : Int} {d : Date} :
    Row.months.date? n = some d ↔ d.dayNumber = monthStart n := by
  show firstOfMonth? n = some d ↔ _
  rw [firstOfMonth?_eq_ofDayNumber?]
  exact Date.ofDayNumber?_eq_some_iff

/-- There is a range. -/
def HasRange (range : Except Failure (Option TimeSpec)) : Prop :=
  ∃ spec, range = .ok (some spec)

instance (range : Except Failure (Option TimeSpec)) : Decidable (HasRange range) :=
  match range with
  | .ok (some spec) => .isTrue ⟨spec, rfl⟩
  | .ok none => .isFalse fun ⟨_, h⟩ => nomatch h
  | .error _ => .isFalse fun ⟨_, h⟩ => nomatch h

/-- A range is no failure, and where there is one it does not end before it starts. -/
def InOrder (range : Except Failure (Option TimeSpec)) : Prop :=
  ∃ value, range = .ok value ∧
    ∀ spec, value = some spec → spec.isSpan = true ∧ spec.forBefore ≤ spec.forAfter

namespace Row

variable (row : Row) (z : Zone)

/-- The date under a number and the one so many further on. -/
def from? (number count : Int) : Option (Date × Date) :=
  (row.date? number).bind fun first => (row.date? (number + count)).map fun next => (first, next)

/-- The span from the date under a number to the one so many further on. -/
def span (number count : Int) : Except Failure (Option TimeSpec) :=
  spanBetween z (row.from? number count)

/-- The millisecond at which the date under a number begins. -/
def start? (number : Int) : Option Int :=
  (row.date? number).bind fun date => (z.localize? (.midnight date)).map Instant.toMillis

variable {row z} {number count t s e : Int} {spec : TimeSpec}

theorem start?_eq_some_iff :
    row.start? z number = some s ↔ ∃ date p, row.date? number = some date ∧
      z.localize? (.midnight date) = some p ∧ p.toMillis = s := by
  unfold start?
  constructor
  · intro h
    obtain ⟨date, hdate, h⟩ := Option.bind_eq_some_iff.mp h
    obtain ⟨p, hp, hs⟩ := Option.map_eq_some_iff.mp h
    exact ⟨date, p, hdate, hp, hs⟩
  · rintro ⟨date, p, hdate, hp, rfl⟩
    rw [hdate, Option.bind_some, hp, Option.map_some]

theorem midnights_from?_iff {p q : Instant} :
    Midnights z (row.from? number count) p q ↔ ∃ first next, row.date? number = some first ∧
      row.date? (number + count) = some next ∧ z.localize? (.midnight first) = some p ∧
      z.localize? (.midnight next) = some q := by
  unfold Midnights from?
  constructor
  · rintro ⟨first, next, hbounds, hp, hq⟩
    obtain ⟨first', hfirst, hbounds⟩ := Option.bind_eq_some_iff.mp hbounds
    obtain ⟨next', hnext, hpair⟩ := Option.map_eq_some_iff.mp hbounds
    obtain ⟨rfl, rfl⟩ := Prod.mk.inj hpair
    exact ⟨first', next', hfirst, hnext, hp, hq⟩
  · rintro ⟨first, next, hfirst, hnext, hp, hq⟩
    exact ⟨first, next, by rw [hfirst, hnext]; rfl, hp, hq⟩

/-- A span goes from where its first date begins to just before its next date begins. -/
theorem span_eq_some_iff :
    row.span z number count = .ok (some spec) ↔ ∃ s e, row.start? z number = some s ∧
      row.start? z (number + count) = some e ∧ ∃ h : s ≤ e - 1, spec = .span s (e - 1) h := by
  constructor
  · intro h
    obtain ⟨p, q, hmid, -⟩ := exists_spanBetween_iff.mp ⟨spec, h⟩
    obtain ⟨first, next, hfirst, hnext, hp, hq⟩ := midnights_from?_iff.mp hmid
    refine ⟨p.toMillis, q.toMillis, start?_eq_some_iff.mpr ⟨first, p, hfirst, hp, rfl⟩,
      start?_eq_some_iff.mpr ⟨next, q, hnext, hq, rfl⟩, ?_⟩
    rw [span, from?, hfirst, hnext] at h
    have hspan : spanUntil z first next = .ok (some spec) := h
    rw [spanUntil_eq hp hq] at hspan
    split at hspan
    · rename_i hle
      exact ⟨hle, (Option.some.inj (Except.ok.inj hspan)).symm⟩
    · cases hspan
  · rintro ⟨s, e, hs, he, hle, rfl⟩
    obtain ⟨first, p, hfirst, hp, rfl⟩ := start?_eq_some_iff.mp hs
    obtain ⟨next, q, hnext, hq, rfl⟩ := start?_eq_some_iff.mp he
    rw [span, from?, hfirst, hnext]
    show spanUntil z first next = _
    rw [spanUntil_eq hp hq, dif_pos hle]

/-- In a regular zone no span is refused. -/
theorem span_inOrder (hz : z.Regular) (hcount : 0 < count) : InOrder (row.span z number count) := by
  cases h : row.span z number count with
  | error f =>
      obtain ⟨p, q, hmid, hle, -⟩ := spanBetween_eq_error_iff.mp h
      obtain ⟨first, next, hfirst, hnext, hp, hq⟩ := midnights_from?_iff.mp hmid
      have hlt := hz.midnight_lt hp hq (row.ordered hfirst hnext (by omega))
      unfold Instant.toMillis at hle
      unfold microsPerSecond at hlt
      omega
  | ok value =>
      refine ⟨value, rfl, ?_⟩
      rintro spec rfl
      obtain ⟨s, e, -, -, hle, rfl⟩ := span_eq_some_iff.mp h
      exact ⟨rfl, hle⟩

/-- A span that begins with the date that another ends before follows on it. -/
theorem forAfter_add_one {later : Int} {spec' : TimeSpec}
    (h : row.span z number count = .ok (some spec))
    (h' : row.span z (number + count) later = .ok (some spec')) :
    spec.forAfter + 1 = spec'.forBefore := by
  obtain ⟨s, e, -, he, _, rfl⟩ := span_eq_some_iff.mp h
  obtain ⟨s', e', hs', -, _, rfl⟩ := span_eq_some_iff.mp h'
  obtain rfl := Option.some.inj (he.symm.trans hs')
  show e - 1 + 1 = e
  omega

/-! ### Spans that follow on each other -/

/-- Each date from one number up to another has a span up to the next. -/
def Filled (row : Row) (z : Zone) (first last : Int) : Prop :=
  ∀ i, first ≤ i → i < last → HasRange (row.span z i 1)

/-- A millisecond is in the span of the date under a number. -/
def Covers (row : Row) (z : Zone) (i t : Int) : Prop :=
  ∃ spec, row.span z i 1 = .ok (some spec) ∧ spec.contains t = true

theorem covers_iff {i : Int} :
    row.Covers z i t ↔
      ∃ s e, row.start? z i = some s ∧ row.start? z (i + 1) = some e ∧ s ≤ t ∧ t < e := by
  unfold Covers
  constructor
  · rintro ⟨spec, hspec, ht⟩
    obtain ⟨s, e, hs, he, _, rfl⟩ := span_eq_some_iff.mp hspec
    rw [TimeSpec.contains_span_iff] at ht
    exact ⟨s, e, hs, he, ht.1, by omega⟩
  · rintro ⟨s, e, hs, he, hst, hte⟩
    refine ⟨.span s (e - 1) (by omega), span_eq_some_iff.mpr ⟨s, e, hs, he, by omega, rfl⟩, ?_⟩
    rw [TimeSpec.contains_span_iff]
    omega

variable {first last : Int}

theorem exists_start? (h : row.Filled z first last) {i : Int} (hfirst : first ≤ i)
    (hlast : i < last) :
    ∃ s e, row.start? z i = some s ∧ row.start? z (i + 1) = some e ∧ s < e := by
  obtain ⟨spec, hspec⟩ := h i hfirst hlast
  obtain ⟨s, e, hs, he, hle, -⟩ := span_eq_some_iff.mp hspec
  exact ⟨s, e, hs, he, by omega⟩

/-- The dates begin in order. -/
theorem start?_lt (h : row.Filled z first last) {i : Int} (hfirst : first ≤ i)
    (hs : row.start? z i = some s) :
    ∀ (k : Nat) {e : Int}, i + 1 + k ≤ last → row.start? z (i + 1 + k) = some e → s < e := by
  intro k
  induction k with
  | zero =>
      intro e hlast he
      obtain ⟨s', e', hs', he', hlt⟩ := exists_start? h hfirst (by omega)
      obtain rfl := Option.some.inj (hs.symm.trans hs')
      rw [Int.natCast_zero, Int.add_zero] at he
      obtain rfl := Option.some.inj (he.symm.trans he')
      exact hlt
  | succ k ih =>
      intro e hlast he
      obtain ⟨m, e', hm, he', hlt⟩ := exists_start? h (show first ≤ i + 1 + k by omega) (by omega)
      have := ih (by omega) hm
      rw [Int.natCast_succ, ← Int.add_assoc] at he
      obtain rfl := Option.some.inj (he.symm.trans he')
      omega

theorem start?_le (h : row.Filled z first last) {i j : Int} (hfirst : first ≤ i) (hij : i ≤ j)
    (hlast : j ≤ last) (hs : row.start? z i = some s) (he : row.start? z j = some e) : s ≤ e := by
  by_cases heq : i = j
  · subst heq
    obtain rfl := Option.some.inj (hs.symm.trans he)
    exact Int.le_refl s
  · have hj : j = i + 1 + (j - i - 1).toNat := by omega
    rw [hj] at he
    exact Int.le_of_lt (start?_lt h hfirst hs _ (by omega) he)

/-- Spans that follow on each other leave nothing out. -/
theorem exists_covers (hs : row.start? z first = some s) :
    ∀ (k : Nat) {e : Int}, row.Filled z first (first + k) → row.start? z (first + k) = some e →
      s ≤ t → t < e → ∃ i, (first ≤ i ∧ i < first + k) ∧ row.Covers z i t := by
  intro k
  induction k with
  | zero =>
      intro e _ he hst hte
      rw [Int.natCast_zero, Int.add_zero] at he
      obtain rfl := Option.some.inj (hs.symm.trans he)
      omega
  | succ k ih =>
      intro e h he hst hte
      rw [Int.natCast_succ, ← Int.add_assoc] at he h
      obtain ⟨m, e', hm, he', -⟩ := exists_start? h (show first ≤ first + k by omega) (by omega)
      obtain rfl := Option.some.inj (he.symm.trans he')
      by_cases htm : t < m
      · obtain ⟨i, hi, hcovers⟩ := ih (fun i hi hi' => h i hi (by omega)) hm hst htm
        exact ⟨i, by omega, hcovers⟩
      · exact ⟨first + k, by omega, covers_iff.mpr ⟨m, e, hm, he, by omega, hte⟩⟩

/-- They do not overlap. -/
theorem covers_unique (h : row.Filled z first last) {i j : Int} (hi : first ≤ i ∧ i < last)
    (hj : first ≤ j ∧ j < last) (hti : row.Covers z i t) (htj : row.Covers z j t) : i = j := by
  obtain ⟨s, e, hs, he, hst, hte⟩ := covers_iff.mp hti
  obtain ⟨s', e', hs', he', hst', hte'⟩ := covers_iff.mp htj
  rcases Int.lt_trichotomy i j with hlt | heq | hgt
  · have := start?_le h (show first ≤ i + 1 by omega) (show i + 1 ≤ j by omega) (by omega) he hs'
    omega
  · exact heq
  · have := start?_le h (show first ≤ j + 1 by omega) (show j + 1 ≤ i by omega) (by omega) he' hs
    omega

/-- Spans that follow on each other make up the span from the first of them to the last: it begins
with the one, ends with the other, and has what is in exactly one of them. -/
theorem span_of_filled {k : Nat} (hk : 0 < k) (h : row.Filled z first (first + k)) :
    ∃ spec firstSpec lastSpec, row.span z first k = .ok (some spec) ∧
      row.span z first 1 = .ok (some firstSpec) ∧ spec.forBefore = firstSpec.forBefore ∧
      row.span z (first + k - 1) 1 = .ok (some lastSpec) ∧ spec.forAfter = lastSpec.forAfter ∧
      ∀ t, spec.contains t = true ↔ ∃! i, (first ≤ i ∧ i < first + k) ∧ row.Covers z i t := by
  obtain ⟨firstSpec, hfirst⟩ := h first (by omega) (by omega)
  obtain ⟨lastSpec, hlast⟩ := h (first + k - 1) (by omega) (by omega)
  obtain ⟨s, m, hs, -, _, rfl⟩ := span_eq_some_iff.mp hfirst
  obtain ⟨n, e, -, he, _, rfl⟩ := span_eq_some_iff.mp hlast
  rw [Int.sub_add_cancel] at he
  have hk' : first + k = first + 1 + (k - 1 : Nat) := by omega
  have hlt : s < e := start?_lt h (Int.le_refl first) hs (k - 1) (by omega) (hk' ▸ he)
  refine ⟨.span s (e - 1) (by omega), _, _, span_eq_some_iff.mpr ⟨s, e, hs, he, by omega, rfl⟩,
    hfirst, rfl, hlast, rfl, ?_⟩
  intro t
  rw [TimeSpec.contains_span_iff]
  constructor
  · rintro ⟨hst, hte⟩
    obtain ⟨i, hi, hcovers⟩ := exists_covers hs k h he hst (by omega)
    exact ⟨i, ⟨hi, hcovers⟩, fun j hj => covers_unique h hj.1 hi hj.2 hcovers⟩
  · rintro ⟨i, ⟨hi, hcovers⟩, -⟩
    obtain ⟨s', e', hs', he', hst', hte'⟩ := covers_iff.mp hcovers
    have := start?_le h (Int.le_refl first) hi.1 (by omega) hs hs'
    have := start?_le h (show first ≤ i + 1 by omega) (show i + 1 ≤ first + k by omega)
      (Int.le_refl _) he' he
    omega

end Row

end MediaSearch.TimeString
