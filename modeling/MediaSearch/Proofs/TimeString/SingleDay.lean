/-
One day, however it is spelled.

A date is written with slashes, with dashes or with the name of its month, and each way leaves
some freedom: a zero in front, capitals, an abbreviation, the ending of an ordinal, a comma, blanks.
What all of them are read as is the three numbers (`SpellsDay.reads`), and from there on the
spelling is gone.  So they all have the same outcome, and it is a matter of the calendar and of
the zone alone: a range if the date and the next one exist and the zone's clock shows both of their
midnights once, and no value otherwise.
-/
import MediaSearch.Proofs.Text.Readers
import MediaSearch.Proofs.TimeString.Outcome
import MediaSearch.Proofs.TimeString.Tiling

namespace MediaSearch.TimeString

open Calendar
open Text

/-! ### The spellings -/

/-- Some ASCII blanks. -/
structure IsGap (gap : List Char) : Prop where
  /-- There is one at least. -/
  nonempty : gap ≠ []
  /-- There is nothing else. -/
  blank : ∀ c ∈ gap, isPlainBlank c = true

instance (gap : List Char) : Decidable (IsGap gap) :=
  decidable_of_iff (gap ≠ [] ∧ gap.all isPlainBlank = true)
    ⟨fun h => ⟨h.1, List.all_eq_true.mp h.2⟩, fun h => ⟨h.nonempty, List.all_eq_true.mpr h.blank⟩⟩

/-- A text spells the day with these fields, which need not exist. -/
inductive SpellsDay : List Char → Nat → Nat → Nat → Prop
  /-- `1/15/2025` -/
  | slash {month day year : List Char} (monthRun : IsRun 1 2 month) (dayRun : IsRun 1 2 day)
      (yearRun : IsRun 4 4 year) :
      SpellsDay (month ++ '/' :: (day ++ '/' :: year))
        (digitsValue year) (digitsValue month) (digitsValue day)
  /-- `2025-01-15` -/
  | dash {year month day : List Char} (yearRun : IsRun 4 4 year) (monthRun : IsRun 1 2 month)
      (dayRun : IsRun 1 2 day) :
      SpellsDay (year ++ '-' :: (month ++ '-' :: day))
        (digitsValue year) (digitsValue month) (digitsValue day)
  /-- `Jan 15th, 2025` -/
  | long {name gap day ending comma gap' year : List Char} {month : Nat}
      (named : (String.ofList (name.map Char.toLower), (month : Int)) ∈ months) (gapped : IsGap gap)
      (dayRun : IsRun 1 2 day)
      (ended : String.ofList (ending.map Char.toLower) ∈ Format.ordinalEndings)
      (punctuated : comma = [] ∨ comma = [',']) (gapped' : IsGap gap') (yearRun : IsRun 4 4 year) :
      SpellsDay (name ++ (gap ++ (day ++ (ending ++ (comma ++ (gap' ++ year))))))
        (digitsValue year) month (digitsValue day)

/-! ### Reading them -/

/-- A word is made of letters if it is in small letters. -/
theorem isAlpha_of_lettered {word : List Char}
    (h : (String.ofList (word.map Char.toLower)).toList.all Char.isAlpha = true) :
    ∀ c ∈ word, c.isAlpha = true := by
  intro c hc
  refine isAlpha_of_isAlpha_toLower (List.all_eq_true.mp h _ ?_)
  rw [String.toList_ofList]
  exact List.mem_map_of_mem hc

theorem months_lettered : (months.all fun entry => entry.1.toList.all Char.isAlpha) = true := by
  decide +kernel

theorem endings_lettered :
    (Format.ordinalEndings.all fun ending => ending.toList.all Char.isAlpha) = true := by
  decide +kernel

/-- No name of a month is in the table twice. -/
theorem lookup_of_mem_months : ∀ entry ∈ months, months.lookup entry.1 = some entry.2 := by
  decide +kernel

/-- What begins with a gap begins with a blank, which is no digit and no letter. -/
theorem IsGap.first {gap rest more : List Char} {c : Char} (h : IsGap gap)
    (heq : gap ++ rest = c :: more) : c.isAlpha = false ∧ c.isDigit = false ∧ c ≠ ',' := by
  obtain ⟨d, others, rfl⟩ := List.exists_cons_of_ne_nil h.nonempty
  obtain ⟨rfl, -⟩ := List.cons.inj heq
  have hblank := h.blank d List.mem_cons_self
  obtain ⟨halpha, hdigit⟩ := Bool.or_eq_false_iff.mp (not_isAlphanum_of_isPlainBlank hblank)
  refine ⟨halpha, hdigit, ?_⟩
  rintro rfl
  exact absurd hblank (by decide)

/-- What begins with a run of digits does not begin with a blank. -/
theorem not_blank_first_of_run {least most : Nat} {digits rest more : List Char} {c : Char}
    (h : IsRun (least + 1) most digits) (heq : digits ++ rest = c :: more) :
    isPlainBlank c = false := by
  obtain ⟨d, others, rfl, hd⟩ := h.eq_cons
  obtain ⟨rfl, -⟩ := List.cons.inj heq
  by_contra hblank
  have halphanum := not_isAlphanum_of_isPlainBlank (Bool.not_eq_false _ ▸ hblank)
  rw [Char.isAlphanum, hd, Bool.or_true] at halphanum
  exact nomatch halphanum

namespace Format

variable {year month day : List Char}

theorem readSlashDate_of_runs (monthRun : IsRun 1 2 month) (dayRun : IsRun 1 2 day)
    (yearRun : IsRun 4 4 year) :
    readSlashDate (month ++ '/' :: (day ++ '/' :: year))
      = some (.day (digitsValue year) (digitsValue month) (digitsValue day)) := by
  have hslash : ∀ rest, NoDigitFirst ('/' :: rest) := fun _ => noDigitFirst_cons (by decide)
  unfold readSlashDate
  simp only [number?_append monthRun (hslash _), number?_append dayRun (hslash _),
    number?_self yearRun, char?_cons, done?, Option.bind_eq_bind, Option.bind_some, Option.pure_def]

theorem readDashDate_of_runs (yearRun : IsRun 4 4 year) (monthRun : IsRun 1 2 month)
    (dayRun : IsRun 1 2 day) :
    readDashDate (year ++ '-' :: (month ++ '-' :: day))
      = some (.day (digitsValue year) (digitsValue month) (digitsValue day)) := by
  have hdash : ∀ rest, NoDigitFirst ('-' :: rest) := fun _ => noDigitFirst_cons (by decide)
  unfold readDashDate
  simp only [number?_append yearRun (hdash _), number?_append monthRun (hdash _),
    number?_self dayRun, char?_cons, done?, Option.bind_eq_bind, Option.bind_some, Option.pure_def]

/-- A comma in front of a gap is read if there is one. -/
theorem comma_append {comma gap rest : List Char} (h : comma = [] ∨ comma = [','])
    (hgap : IsGap gap) :
    (char? ',' (comma ++ (gap ++ rest))).getD (comma ++ (gap ++ rest)) = gap ++ rest := by
  rcases h with rfl | rfl
  · rw [List.nil_append]
    cases hread : char? ',' (gap ++ rest) with
    | none => rfl
    | some more => exact absurd rfl (hgap.first (char?_eq_some_iff.mp hread)).2.2
  · rw [List.singleton_append, char?_cons, Option.getD_some]

theorem readLongDate_of_parts {name gap ending comma gap' : List Char} {number : Int}
    (named : (String.ofList (name.map Char.toLower), number) ∈ months) (gapped : IsGap gap)
    (dayRun : IsRun 1 2 day)
    (ended : String.ofList (ending.map Char.toLower) ∈ ordinalEndings)
    (punctuated : comma = [] ∨ comma = [',']) (gapped' : IsGap gap') (yearRun : IsRun 4 4 year) :
    readLongDate (name ++ (gap ++ (day ++ (ending ++ (comma ++ (gap' ++ year))))))
      = some (.day (digitsValue year) number (digitsValue day)) := by
  have hname := isAlpha_of_lettered (List.all_eq_true.mp months_lettered _ named)
  have hending := isAlpha_of_lettered (List.all_eq_true.mp endings_lettered _ ended)
  have hbehind : ∀ c more, comma ++ (gap' ++ year) = c :: more →
      c.isAlpha = false ∧ c.isDigit = false := by
    intro c more heq
    rcases punctuated with rfl | rfl
    · exact ⟨(gapped'.first heq).1, (gapped'.first heq).2.1⟩
    · obtain ⟨rfl, -⟩ := List.cons.inj heq
      decide
  have hnumber : NoDigitFirst (ending ++ (comma ++ (gap' ++ year))) := by
    cases ending with
    | nil => exact fun c more heq => (hbehind c more heq).2
    | cons c letters =>
        refine noDigitFirst_cons ?_
        rw [Bool.eq_false_iff]
        intro hdigit
        exact absurd (hending c List.mem_cons_self) (by simp [isAlpha_of_isDigit hdigit])
  have hgap : ∀ c more, gap ++ (day ++ (ending ++ (comma ++ (gap' ++ year)))) = c :: more →
      c.isAlpha = false := fun c more heq => (gapped.first heq).1
  have hletters : ∀ c more, comma ++ (gap' ++ year) = c :: more → c.isAlpha = false :=
    fun c more heq => (hbehind c more heq).1
  have hyear : ∀ c more, year = c :: more → isPlainBlank c = false := by
    intro c more heq
    exact not_blank_first_of_run yearRun ((List.append_nil year).trans heq)
  have hknown : (ordinalEndings.contains (String.ofList (ending.map Char.toLower))) = true :=
    List.contains_iff_mem.mpr ended
  unfold readLongDate
  simp only [takeWhile_append_stop hname hgap, dropWhile_append_stop hname hgap,
    lookup_of_mem_months _ named,
    blanks?_append gapped.nonempty gapped.blank fun c more heq => not_blank_first_of_run dayRun heq,
    number?_append dayRun hnumber, takeWhile_append_stop hending hletters,
    dropWhile_append_stop hending hletters, hknown, comma_append punctuated gapped',
    blanks?_append gapped'.nonempty gapped'.blank hyear, number?_self yearRun, done?,
    Option.bind_eq_bind, Option.bind_some, Option.pure_def, Bool.not_true, Bool.false_eq_true,
    if_false]

end Format

variable {text : List Char} {year month day : Nat}

theorem SpellsDay.reads_text (h : SpellsDay text year month day) :
    Reads text (.day year month day) := by
  cases h with
  | slash monthRun dayRun yearRun =>
      exact ⟨.slashDate, Format.readSlashDate_of_runs monthRun dayRun yearRun⟩
  | dash yearRun monthRun dayRun =>
      exact ⟨.dashDate, Format.readDashDate_of_runs yearRun monthRun dayRun⟩
  | long named gapped dayRun ended punctuated gapped' yearRun =>
      exact ⟨.longDate,
        Format.readLongDate_of_parts named gapped dayRun ended punctuated gapped' yearRun⟩

/-- A spelling has no blank at its ends. -/
theorem SpellsDay.strip_eq (h : SpellsDay text year month day) : strip text = text := by
  obtain ⟨⟨c, rest, hfirst, hc⟩, front, last, hlast, hd⟩ :
      (∃ c rest, text = c :: rest ∧ c.isAlphanum = true) ∧ Format.EndsIn Char.isDigit text := by
    cases h with
    | @slash month day year monthRun dayRun yearRun =>
        obtain ⟨c, rest, rfl, hc⟩ := monthRun.eq_cons
        have hend := Format.endsIn_of_number? (number?_self yearRun)
        exact ⟨⟨c, _, rfl, Bool.or_eq_true_iff.mpr (.inr hc)⟩,
          hend.of_suffix ⟨c :: (rest ++ '/' :: (day ++ ['/'])), by simp⟩⟩
    | @dash year month day yearRun monthRun dayRun =>
        obtain ⟨c, rest, rfl, hc⟩ := yearRun.eq_cons
        have hend := Format.endsIn_of_number? (number?_self dayRun)
        exact ⟨⟨c, _, rfl, Bool.or_eq_true_iff.mpr (.inr hc)⟩,
          hend.of_suffix ⟨c :: (rest ++ '-' :: (month ++ ['-'])), by simp⟩⟩
    | long named gapped dayRun ended punctuated gapped' yearRun =>
        obtain ⟨⟨c, rest, hfirst, hc⟩, hend, -⟩ := Format.readLongDate_eq_some
          (Format.readLongDate_of_parts named gapped dayRun ended punctuated gapped' yearRun)
        exact ⟨⟨c, rest, hfirst, Bool.or_eq_true_iff.mpr (.inl hc)⟩, hend⟩
  refine strip_eq_self ?_ ?_
  · rw [hfirst]
    rintro _ ⟨⟩
    exact not_isBlank_of_isAlphanum hc
  · rw [hlast, List.getLast?_concat]
    rintro _ ⟨⟩
    exact not_isBlank_of_isDigit hd

/-- **Each spelling of a day is read as its three numbers.** -/
theorem SpellsDay.reads (h : SpellsDay text year month day) :
    Reads (strip text) (.day year month day) := by
  rw [h.strip_eq]
  exact h.reads_text

/-! ### The outcome -/

variable {z : Zone} {p q : Instant}

/-- A day of the calendar goes from one instant to another: it exists, so does the next, and the
zone's clock shows their midnights once, at these instants. -/
def GoesOn (z : Zone) (year month day : Int) (p q : Instant) : Prop :=
  ∃ first next, Date.of? year month day = some first ∧ next.dayNumber = first.dayNumber + 1 ∧
    z.ShownOnce (.midnight first) p ∧ z.ShownOnce (.midnight next) q

theorem goesOn_iff {year month day : Int} :
    GoesOn z year month day p q ↔ Midnights z
      ((Date.of? year month day).bind fun first => daysFrom? first.dayNumber 1) p q := by
  constructor
  · rintro ⟨first, next, hfirst, hnext, hp, hq⟩
    refine ⟨first, next, ?_, Zone.localize?_eq_some_iff.mpr hp, Zone.localize?_eq_some_iff.mpr hq⟩
    rw [hfirst, Option.bind_some, daysFrom?_dayNumber, Date.addDays?_eq_some_iff.mpr hnext]
    rfl
  · rintro ⟨first, next, hbounds, hp, hq⟩
    obtain ⟨d, hd, hfrom⟩ := Option.bind_eq_some_iff.mp hbounds
    rw [daysFrom?_dayNumber] at hfrom
    obtain ⟨d', hnext, heq⟩ := Option.map_eq_some_iff.mp hfrom
    obtain ⟨rfl, rfl⟩ := Prod.mk.inj heq
    exact ⟨d, d', hd, Date.addDays?_eq_some_iff.mp hnext, Zone.localize?_eq_some_iff.mp hp,
      Zone.localize?_eq_some_iff.mp hq⟩

/-- In a regular zone a day ends after it begins. -/
theorem GoesOn.toMillis_lt {year month day : Int} (h : GoesOn z year month day p q)
    (hz : z.Regular) : p.toMillis < q.toMillis := by
  obtain ⟨first, next, -, hnext, hp, hq⟩ := h
  have hlt := hz.midnight_lt (Zone.localize?_eq_some_iff.mpr hp) (Zone.localize?_eq_some_iff.mpr hq)
    (by omega)
  unfold Instant.toMillis
  unfold microsPerSecond at hlt
  omega

/-- The range of a day goes from its midnight to the next. -/
theorem dayRange_of_goesOn {year month day : Int} (h : GoesOn z year month day p q) :
    dayRange z year month day =
      if hle : p.toMillis ≤ q.toMillis - 1 then
        .ok (some (.span p.toMillis (q.toMillis - 1) hle))
      else .error (.inverted p.toMillis (q.toMillis - 1)) := by
  obtain ⟨first, next, hbounds, hp, hq⟩ := goesOn_iff.mp h
  rw [dayRange_eq, hbounds]
  exact spanUntil_eq hp hq

/-- Any other day has none. -/
theorem dayRange_eq_none {year month day : Int} (h : ∀ p q, ¬ GoesOn z year month day p q) :
    dayRange z year month day = .ok none := by
  rw [dayRange_eq]
  exact spanBetween_eq_none fun p q hmid => h p q (goesOn_iff.mpr hmid)

variable {reference : Reference} {now : LocalTime}

/-- From the seventh day of year 1 on, a spelling stands for the range of the day that it spells. -/
theorem resolve_of_spellsDay {time : String} (h : SpellsDay time.toList year month day)
    (hnow : reference.inZone z = .ok now) (hweek : 7 ≤ now.wall.date.dayNumber) :
    resolve time reference z = dayRange z year month day >>= answer time.toList := by
  rw [resolve_of_late hnow hweek h.reads rfl, h.strip_eq]
  rfl

/--
**All spellings of a day have the same outcome, and it is a range exactly for the days that there
are.**  From the seventh day of year 1 on, every time string that spells a day stands for whatever
the range of the day is.  If the date and the one after it exist and the zone's clock shows the
midnight of each once, that is the time from the one to the last millisecond before the other, and
every spelling of any other day is unreadable.  A range that would end before it starts is refused,
as anywhere else; in a regular zone none does, and every zone that is known by name is regular.
-/
theorem day_spellings_agree (hnow : reference.inZone z = .ok now)
    (hweek : 7 ≤ now.wall.date.dayNumber) (year month day : Nat) :
    (∀ time : String, SpellsDay time.toList year month day →
      resolve time reference z = dayRange z year month day >>= answer time.toList) ∧
    (∀ p q, GoesOn z year month day p q →
      (z.Regular → p.toMillis < q.toMillis) ∧
      (∀ hle : p.toMillis ≤ q.toMillis - 1,
        dayRange z year month day = .ok (some (.span p.toMillis (q.toMillis - 1) hle)) ∧
        ∀ time : String, SpellsDay time.toList year month day →
          resolve time reference z = .ok (.span p.toMillis (q.toMillis - 1) hle)) ∧
      (q.toMillis ≤ p.toMillis → ∀ time : String, SpellsDay time.toList year month day →
        resolve time reference z = .error (.inverted p.toMillis (q.toMillis - 1)))) ∧
    ((∀ p q, ¬ GoesOn z year month day p q) →
      ∀ time : String, SpellsDay time.toList year month day →
        resolve time reference z = .error (.unreadable time)) := by
  refine ⟨fun time h => resolve_of_spellsDay h hnow hweek,
    fun p q hday => ⟨hday.toMillis_lt, ?_, ?_⟩, ?_⟩
  · intro hle
    have hrange := (dayRange_of_goesOn hday).trans (dif_pos hle)
    refine ⟨hrange, fun time h => ?_⟩
    rw [resolve_of_spellsDay h hnow hweek, hrange]
    rfl
  · intro hle time h
    rw [resolve_of_spellsDay h hnow hweek, dayRange_of_goesOn hday, dif_neg (by omega)]
    rfl
  · intro hnone time h
    rw [resolve_of_spellsDay h hnow hweek, dayRange_eq_none hnone, ok_bind, answer,
      String.ofList_toList]

/-- The day in 2024 on which New York's clocks are put forward, spelled in three ways, and a day
that February does not have. -/
theorem day_spellings_agree_at_shortSunday :
    resolve "3/10/2024" (.instant 0) .newYork
        = .ok (.span 1710046800000 1710129599999 (by decide)) ∧
      resolve "2024-03-10" (.instant 0) .newYork
        = .ok (.span 1710046800000 1710129599999 (by decide)) ∧
      resolve "mAr  10TH, 2024" (.instant 0) .newYork
        = .ok (.span 1710046800000 1710129599999 (by decide)) ∧
      resolve "2/30/2024" (.instant 0) .newYork = .error (.unreadable "2/30/2024") := by
  obtain ⟨now, hnow, hweek⟩ : ∃ now, (Reference.instant 0).inZone .newYork = .ok now ∧
      7 ≤ now.wall.date.dayNumber := ⟨_, rfl, by decide +kernel⟩
  obtain ⟨-, hrange, -⟩ := day_spellings_agree hnow hweek 2024 3 10
  obtain ⟨-, -, hnone⟩ := day_spellings_agree hnow hweek 2024 2 30
  have hday : GoesOn .newYork 2024 3 10 1710046800000000 1710129600000000 :=
    ⟨shortSunday, ⟨2024, 3, 11, by decide⟩, rfl, by decide,
      Zone.localize?_eq_some_iff.mp (by decide +kernel),
      Zone.localize?_eq_some_iff.mp (by decide +kernel)⟩
  have hmissing : ∀ p q, ¬ GoesOn .newYork 2024 2 30 p q := by
    rintro p q ⟨first, next, hfirst, -⟩
    exact nomatch (show none = some first from hfirst)
  have hslash : SpellsDay "3/10/2024".toList 2024 3 10 :=
    @SpellsDay.slash "3".toList "10".toList "2024".toList (by decide) (by decide) (by decide)
  have hdash : SpellsDay "2024-03-10".toList 2024 3 10 :=
    @SpellsDay.dash "2024".toList "03".toList "10".toList (by decide) (by decide) (by decide)
  have hlong : SpellsDay "mAr  10TH, 2024".toList 2024 3 10 :=
    @SpellsDay.long "mAr".toList "  ".toList "10".toList "TH".toList ",".toList " ".toList
      "2024".toList 3 (by decide) (by decide) (by decide) (by decide) (.inr rfl) (by decide)
      (by decide)
  have hslash' : SpellsDay "2/30/2024".toList 2024 2 30 :=
    @SpellsDay.slash "2".toList "30".toList "2024".toList (by decide) (by decide) (by decide)
  obtain ⟨-, hall⟩ := (hrange _ _ hday).2.1 (by decide)
  exact ⟨hall _ hslash, hall _ hdash, hall _ hlong, hnone hmissing _ hslash'⟩

end MediaSearch.TimeString
