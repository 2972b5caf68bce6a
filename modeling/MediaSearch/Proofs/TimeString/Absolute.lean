/-
Time strings that look at no clock.

A time string that ends with a digit or with the mark of universal time is no duration, no
period and no name of a month: those end with other letters (`isAbsolute_of_reads`).  What is
left to it means the same at any time, and so its outcome is the same at any two times that have
a week before them (`resolve_eq_of_namesTime`).  The week counts because it is looked up for
every text that no earlier format has answered.

Of these time strings a timestamp and a number of milliseconds do not look at the zone either.
Their forms leave them one meaning each, even where the number is too large to be one
(`NamesInstant.isInstant_of_reads`).
-/
import MediaSearch.Proofs.TimeString.Outcome

namespace MediaSearch.TimeString

open Calendar
open Format (EndsIn IsSign isOffsetEnd)
open Text (IsRun isPlainBlank)

variable {text : List Char} {m : Meaning} {now now' : LocalTime} {z z' : Zone}

/-! ### Meanings -/

/-- Whether a meaning is the same at any time. -/
def Meaning.isAbsolute : Meaning → Bool
  | .stamp _ | .longAgo _ | .year _ | .millis _ | .longMillis _ | .day .. => true
  | _ => false

/-- Whether a meaning is the same at any time in any zone. -/
def Meaning.isInstant : Meaning → Bool
  | .stamp _ | .longAgo _ | .millis _ | .longMillis _ => true
  | _ => false

theorem resolve_eq_of_isAbsolute (h : m.isAbsolute = true) :
    m.resolve now z = m.resolve now' z := by
  cases m with
  | stamp fields => rfl
  | ago duration => exact nomatch h
  | longAgo digits => rfl
  | period name => exact nomatch h
  | month number => exact nomatch h
  | year number => rfl
  | millis value => rfl
  | longMillis digits => rfl
  | day y m d => rfl

theorem resolve_eq_of_isInstant (h : m.isInstant = true) :
    m.resolve now z = m.resolve now' z' := by
  cases m with
  | stamp fields => rfl
  | ago duration => exact nomatch h
  | longAgo digits => rfl
  | period name => exact nomatch h
  | month number => exact nomatch h
  | year number => exact nomatch h
  | millis value => rfl
  | longMillis digits => rfl
  | day y m d => exact nomatch h

/-- What is looked up in a table of names ends as one of the names does. -/
private theorem not_lookup_of_endsIn {α : Type} {table : List (String × α)}
    (hnames : ∀ entry ∈ table, ¬ entry.1.toList.getLast?.any isOffsetEnd)
    (hend : EndsIn isOffsetEnd text) :
    table.lookup (String.ofList (Text.lower text)) = none := by
  cases hfound : table.lookup (String.ofList (Text.lower text)) with
  | none => rfl
  | some value =>
      obtain ⟨before, behind, htable, -⟩ := List.lookup_eq_some_iff.mp hfound
      obtain ⟨front, c, hlower, hc, -⟩ := hend.lower
      have hlast := hnames (String.ofList (Text.lower text), value) (by rw [htable]; simp)
      rw [String.toList_ofList, hlower, List.getLast?_concat] at hlast
      exact absurd hc hlast

/-- What ends with a digit or with the mark of universal time means the same at any time. -/
theorem isAbsolute_of_reads (hend : EndsIn isOffsetEnd text) (h : Reads text m) :
    m.isAbsolute = true := by
  obtain ⟨format, hread⟩ := h
  cases Format.says_of_read hread with
  | duration length =>
      exact absurd (Format.readDuration_eq_some hread).1 (Format.not_ago_of_endsIn hend)
  | period name =>
      obtain ⟨found, hfound, -⟩ := Option.map_eq_some_iff.mp hread
      rw [not_lookup_of_endsIn (by decide) hend] at hfound
      exact nomatch hfound
  | monthName number =>
      obtain ⟨found, hfound, -⟩ := Option.map_eq_some_iff.mp hread
      rw [not_lookup_of_endsIn (by decide) hend] at hfound
      exact nomatch hfound
  | _ => rfl

/-! ### Outcomes -/

/-- Two times and zones in which the meaning of a text is the same give the same outcome, when
both have a week before them. -/
theorem firstValue_congr (hweek : 7 ≤ now.wall.date.dayNumber)
    (hweek' : 7 ≤ now'.wall.date.dayNumber)
    (hsame : ∀ m, Reads text m → m.resolve now z = m.resolve now' z') :
    firstValue text now z Format.all = firstValue text now' z' Format.all := by
  obtain ⟨sunday, hsunday, -⟩ := exists_sundayOf hweek
  obtain ⟨sunday', hsunday', -⟩ := exists_sundayOf hweek'
  by_cases hreads : ∃ m, Reads text m
  · obtain ⟨m, hm⟩ := hreads
    cases hearly : m.early with
    | true =>
        rw [firstValue_of_early hm hearly, firstValue_of_early hm hearly, hsame m hm, hsunday,
          hsunday']
        rfl
    | false =>
        rw [firstValue_of_late hm hearly, firstValue_of_late hm hearly, hsame m hm, hsunday,
          hsunday']
        rfl
  · have hnone : ∀ m, ¬ Reads text m := fun m hm => hreads ⟨m, hm⟩
    rw [firstValue_of_not_reads hnone, firstValue_of_not_reads hnone, hsunday, hsunday']
    rfl

/-! ### Forms of time strings -/

/-- The offset of a timestamp from universal time: its mark, or a sign, hours and minutes. -/
inductive IsOffset : List Char → Prop
  /-- None. -/
  | utc {mark : Char} (utc : mark = 'Z' ∨ mark = 'z') : IsOffset [mark]
  /-- East or west of it. -/
  | away {sign : Char} {hour minute : List Char} (signed : sign = '+' ∨ sign = '-')
      (hourRun : IsRun 2 2 hour) (minuteRun : IsRun 2 2 minute) :
      IsOffset (sign :: (hour ++ ':' :: minute))

/-- The fraction of a second of a timestamp, which may be missing. -/
def IsFraction (text : List Char) : Prop :=
  text = [] ∨ ∃ digits, digits ≠ [] ∧ (∀ c ∈ digits, c.isDigit = true) ∧ text = '.' :: digits

/-- The forms of time strings that name an instant by themselves. -/
inductive NamesInstant : List Char → Prop
  /-- A date, a time of day and an offset. -/
  | timestamp {year month day hour minute second fraction offset : List Char} {mark : Char}
      (yearRun : IsRun 4 4 year) (monthRun : IsRun 2 2 month) (dayRun : IsRun 2 2 day)
      (marked : mark = 'T' ∨ mark = 't' ∨ mark = ' ') (hourRun : IsRun 2 2 hour)
      (minuteRun : IsRun 2 2 minute) (secondRun : IsRun 2 2 second)
      (fractional : IsFraction fraction) (away : IsOffset offset) :
      NamesInstant (year ++ '-' :: (month ++ '-' :: (day ++ mark :: (hour ++ ':' :: (minute ++
        ':' :: (second ++ (fraction ++ offset)))))))
  /-- A whole number of milliseconds, in more than four characters. -/
  | integer {sign digits : List Char} (signed : IsSign sign) (some : digits ≠ [])
      (run : ∀ c ∈ digits, c.isDigit = true) (long : 4 < (sign ++ digits).length) :
      NamesInstant (sign ++ digits)

/-- The forms of time strings that name a time of the calendar by themselves. -/
inductive NamesTime : List Char → Prop
  /-- An instant. -/
  | instant {text : List Char} (names : NamesInstant text) : NamesTime text
  /-- A year in four digits. -/
  | year {year : List Char} (yearRun : IsRun 4 4 year) : NamesTime year
  /-- `M/D/YYYY` -/
  | slashDate {month day year : List Char} (monthRun : IsRun 1 2 month) (dayRun : IsRun 1 2 day)
      (yearRun : IsRun 4 4 year) : NamesTime (month ++ '/' :: (day ++ '/' :: year))
  /-- A word, a day with an ordinal's ending and a comma or without, and a year. -/
  | longDate {word gap day ending comma gap' year : List Char}
      (letters : ∀ c ∈ word, c.isAlpha = true) (blank : ∀ c ∈ gap, isPlainBlank c = true)
      (dayRun : IsRun 1 2 day) (ordinal : ∀ c ∈ ending, c.isAlpha = true)
      (optional : comma = [] ∨ comma = [',']) (blank' : ∀ c ∈ gap', isPlainBlank c = true)
      (yearRun : IsRun 4 4 year) :
      NamesTime (word ++ gap ++ day ++ ending ++ comma ++ gap' ++ year)
  /-- `YYYY-M-D` -/
  | dashDate {year month day : List Char} (yearRun : IsRun 4 4 year) (monthRun : IsRun 1 2 month)
      (dayRun : IsRun 1 2 day) : NamesTime (year ++ '-' :: (month ++ '-' :: day))

theorem endsIn_of_isRun {digits : List Char} {least most : Nat}
    (h : IsRun (least + 1) most digits) : EndsIn isOffsetEnd digits := by
  obtain ⟨front, c, rfl, hc⟩ := h.eq_concat
  have hdigit : EndsIn Char.isDigit (front ++ [c]) := ⟨front, c, rfl, hc⟩
  exact hdigit.offsetEnd

/-- The end of what is behind a mark is the end of the text. -/
theorem endsIn_append_cons {front rest : List Char} {mark : Char} (h : EndsIn isOffsetEnd rest) :
    EndsIn isOffsetEnd (front ++ mark :: rest) :=
  h.of_suffix ((List.suffix_cons mark rest).trans (List.suffix_append front _))

theorem IsOffset.endsIn {offset : List Char} (h : IsOffset offset) :
    EndsIn isOffsetEnd offset := by
  cases h with
  | utc utc => exact ⟨[], _, rfl, by rcases utc with rfl | rfl <;> decide⟩
  | away signed hourRun minuteRun =>
      exact (endsIn_append_cons (endsIn_of_isRun minuteRun)).of_suffix (List.suffix_cons _ _)

theorem NamesInstant.endsIn (h : NamesInstant text) : EndsIn isOffsetEnd text := by
  cases h with
  | timestamp yearRun monthRun dayRun marked hourRun minuteRun secondRun fractional away =>
      -- There are five pieces with a mark behind them before the seconds.
      iterate 5 refine endsIn_append_cons ?_
      exact (away.endsIn.of_suffix (List.suffix_append _ _)).of_suffix (List.suffix_append _ _)
  | integer signed some run long => exact (Format.endsIn_append_digits some run).offsetEnd

theorem NamesTime.endsIn (h : NamesTime text) : EndsIn isOffsetEnd text := by
  cases h with
  | instant names => exact names.endsIn
  | year yearRun => exact endsIn_of_isRun yearRun
  | slashDate monthRun dayRun yearRun =>
      exact endsIn_append_cons (endsIn_append_cons (endsIn_of_isRun yearRun))
  | longDate letters blank dayRun ordinal optional blank' yearRun =>
      exact (endsIn_of_isRun yearRun).of_suffix (List.suffix_append _ _)
  | dashDate yearRun monthRun dayRun =>
      exact endsIn_append_cons (endsIn_append_cons (endsIn_of_isRun dayRun))

/-- What has the form of an instant means one, if it means anything. -/
theorem NamesInstant.isInstant_of_reads (h : NamesInstant text) (hm : Reads text m) :
    m.isInstant = true := by
  obtain ⟨format, hread⟩ := hm
  have hformat := Format.shape_of_read hread
  have hend := h.endsIn
  cases h with
  | timestamp yearRun monthRun dayRun marked hourRun minuteRun secondRun fractional away =>
      obtain ⟨c, more, rfl, hc⟩ := yearRun.eq_cons
      rw [Format.shape_of_clockTime ⟨c, _, List.cons_append, hc⟩ (by simp) hend] at hformat
      subst hformat
      cases Format.says_of_read hread with
      | timestamp fields => rfl
  | integer signed some run long =>
      rw [Format.shape_of_signed signed some run long] at hformat
      subst hformat
      cases Format.says_of_read hread with
      | millis value => rfl
      | longMillis digits => rfl

/-! ### Two times -/

/-- The zone's clock shows the reference time, with a week before it: it is the 7th of January of
year 1 or later there. -/
def HasWeek (reference : Reference) (z : Zone) : Prop :=
  ∃ now, reference.inZone z = .ok now ∧ 7 ≤ now.wall.date.dayNumber

theorem hasWeek_instant_iff {t : Instant} :
    HasWeek (.instant t) z ↔ (z.shown? t).any fun l => decide (7 ≤ l.wall.date.dayNumber) := by
  cases h : z.shown? t with
  | none => simp [HasWeek, Reference.inZone, h]
  | some l => simp [HasWeek, Reference.inZone, h]

variable {time : String} {reference reference' : Reference}

theorem resolve_congr (hweek : HasWeek reference z) (hweek' : HasWeek reference' z')
    (hsame : ∀ (now now' : LocalTime) m, Reads (Text.strip time.toList) m →
      m.resolve now z = m.resolve now' z') :
    resolve time reference z = resolve time reference' z' := by
  obtain ⟨now, hnow, hdays⟩ := hweek
  obtain ⟨now', hnow', hdays'⟩ := hweek'
  rw [resolve_of_inZone hnow, resolve_of_inZone hnow']
  exact firstValue_congr hdays hdays' (hsame now now')

/-- **A time string that names a time by itself has one outcome in a zone**, whatever the time is. -/
theorem resolve_eq_of_namesTime (h : NamesTime (Text.strip time.toList))
    (hweek : HasWeek reference z) (hweek' : HasWeek reference' z) :
    resolve time reference z = resolve time reference' z :=
  resolve_congr hweek hweek' fun _ _ _ hm =>
    resolve_eq_of_isAbsolute (isAbsolute_of_reads h.endsIn hm)

/-- **A time string that names an instant has one outcome**, whatever the time and the zone are. -/
theorem resolve_eq_of_namesInstant (h : NamesInstant (Text.strip time.toList))
    (hweek : HasWeek reference z) (hweek' : HasWeek reference' z') :
    resolve time reference z = resolve time reference' z' :=
  resolve_congr hweek hweek' fun _ _ _ hm => resolve_eq_of_isInstant (h.isInstant_of_reads hm)

end MediaSearch.TimeString
