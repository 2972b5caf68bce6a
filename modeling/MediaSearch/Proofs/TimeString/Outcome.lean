/-
What comes out of resolving a time string.

A text has one meaning at most (`read_unique`), so trying the formats in order comes
down to that meaning: there is an answer when the meaning has a value
(`exists_firstValue_iff`), and a failure that is not about the text's form when the
meaning fails (`firstValue_fails_iff`).  The order shows in one place only.  The week of
now is looked up when the names of periods have their turn, and that can fail; so it
matters whether a meaning answers before (`Meaning.early`).
-/
import MediaSearch.Proofs.TimeString.Kind
import MediaSearch.Proofs.TimeString.Shape

namespace MediaSearch.TimeString

open Calendar

/-- Whether a meaning answers before the week of now is looked up. -/
def Meaning.early : Meaning → Bool
  | .stamp _ | .ago _ | .longAgo _ => true
  | _ => false

theorem early_of_isSpan {m : Meaning} (h : m.isSpan = true) : m.early = false := by
  cases m <;> simp_all [Meaning.isSpan, Meaning.early]

/-- The formats that are tried before the names of periods have the early meanings. -/
theorem early_of_read {format : Format} {text : List Char} {m : Meaning}
    (h : format.read text = some m) :
    m.early = (format == .timestamp || format == .duration) := by
  cases Format.says_of_read h <;> rfl

/-! ### From the formats to the meaning -/

/-- The answer for a text whose meaning has this value. -/
def answer (text : List Char) : Option TimeSpec → Except Failure TimeSpec
  | some spec => .ok spec
  | none => .error (.unreadable (String.ofList text))

variable {text : List Char} {now : LocalTime} {z : Zone} {m : Meaning}

/-- A format that a text is not of is passed over. -/
theorem firstValue_cons_of_none {format : Format} {formats : List Format}
    (hperiod : format ≠ .period) (h : format.read text = none) :
    firstValue text now z (format :: formats) = firstValue text now z formats := by
  rw [firstValue, Format.value, if_neg hperiod, h]
  rfl

/-- A text that is of none of the formats is unreadable. -/
theorem firstValue_of_unread {formats : List Format}
    (h : ∀ format ∈ formats, format ≠ .period ∧ format.read text = none) :
    firstValue text now z formats = answer text none := by
  induction formats with
  | nil => rfl
  | cons format rest ih =>
      obtain ⟨hperiod, hnone⟩ := h format (by simp)
      rw [firstValue_cons_of_none hperiod hnone]
      exact ih fun other hother => h other (by simp [hother])

/-- The first format that a text is of answers, unless its meaning has no value. -/
theorem firstValue_cons_of_some {format : Format} {formats : List Format}
    (hperiod : format ≠ .period) (h : format.read text = some m) :
    firstValue text now z (format :: formats) =
      m.resolve now z >>= fun
        | some spec => .ok spec
        | none => firstValue text now z formats := by
  rw [firstValue, Format.value, if_neg hperiod, h]
  rfl

/-- When the names of periods have their turn, the week of now is looked up first. -/
theorem firstValue_period_cons {formats : List Format} :
    firstValue text now z (.period :: formats) =
      sundayOf now >>= fun _ =>
        match Format.period.read text with
        | some m => m.resolve now z >>= fun
          | some spec => .ok spec
          | none => firstValue text now z formats
        | none => firstValue text now z formats := by
  rw [firstValue, Format.value, if_pos rfl]
  cases sundayOf now with
  | error f => rfl
  | ok sunday => cases Format.period.read text <;> rfl

theorem read_eq_none_of_ne {format other : Format} (h : format.read text = some m)
    (hne : other ≠ format) : other.read text = none := by
  cases hother : other.read text with
  | none => rfl
  | some m' => exact absurd (read_unique hother h).1 hne

/-- Among formats that look up no week, the one that a text is of gives the answer. -/
theorem firstValue_of_mem {format : Format} {formats : List Format} (hperiod : .period ∉ formats)
    (hnodup : formats.Nodup) (hmem : format ∈ formats) (hread : format.read text = some m) :
    firstValue text now z formats = m.resolve now z >>= answer text := by
  induction formats with
  | nil => exact absurd hmem (by simp)
  | cons other rest ih =>
      obtain ⟨hhead, hrest⟩ := List.nodup_cons.mp hnodup
      have hother : other ≠ .period := fun h => hperiod (by simp [h])
      rcases List.mem_cons.mp hmem with rfl | hmem
      · rw [firstValue_cons_of_some hother hread]
        congr 1
        funext value
        cases value with
        | some spec => rfl
        | none =>
            refine firstValue_of_unread fun next hnext => ⟨?_, read_eq_none_of_ne hread ?_⟩
            · rintro rfl
              exact hperiod (by simp [hnext])
            · rintro rfl
              exact hhead hnext
      · rw [firstValue_cons_of_none hother (read_eq_none_of_ne hread ?_)]
        · exact ih (fun h => hperiod (by simp [h])) hrest hmem
        · rintro rfl
          exact hhead hmem

/-- The formats that are tried after the names of periods. -/
def lateFormats : List Format :=
  [.monthName, .yearNumber, .millis, .slashDate, .longDate, .dashDate]

/-- A text with an early meaning gets the meaning's value, or none once the week of now is found. -/
theorem firstValue_of_early (h : Reads text m) (hearly : m.early = true) :
    firstValue text now z Format.all =
      m.resolve now z >>= fun
        | some spec => .ok spec
        | none => sundayOf now >>= fun _ => answer text none := by
  obtain ⟨format, hread⟩ := h
  have hformat := (early_of_read hread).symm.trans hearly
  rw [Bool.or_eq_true, beq_iff_eq, beq_iff_eq] at hformat
  have hlate : firstValue text now z (.period :: lateFormats)
      = sundayOf now >>= fun _ => answer text none := by
    have hunread : ∀ late ∈ lateFormats, late ≠ .period ∧ late.read text = none := by
      intro late hmem
      refine ⟨?_, read_eq_none_of_ne hread ?_⟩
      · rintro rfl
        exact absurd hmem (by decide)
      · rintro rfl
        rcases hformat with rfl | rfl <;> exact absurd hmem (by decide)
    rw [firstValue_period_cons, @read_eq_none_of_ne _ _ _ .period hread ?_]
    · simp only [firstValue_of_unread hunread]
    · rcases hformat with rfl | rfl <;> simp
  have hall : Format.all = .timestamp :: .duration :: .period :: lateFormats := rfl
  rw [hall, ← hlate]
  rcases hformat with rfl | rfl
  · rw [firstValue_cons_of_some (by simp) hread]
    congr 1
    funext value
    cases value with
    | some spec => rfl
    | none => exact firstValue_cons_of_none (by simp) (read_eq_none_of_ne hread (by simp))
  · rw [firstValue_cons_of_none (by simp) (read_eq_none_of_ne hread (by simp)),
      firstValue_cons_of_some (by simp) hread]

/-- A text with any other meaning gets the meaning's value once the week of now is found. -/
theorem firstValue_of_late (h : Reads text m) (hlate : m.early = false) :
    firstValue text now z Format.all =
      sundayOf now >>= fun _ => m.resolve now z >>= answer text := by
  obtain ⟨format, hread⟩ := h
  have hformat := (early_of_read hread).symm.trans hlate
  rw [Bool.or_eq_false_iff, beq_eq_false_iff_ne, beq_eq_false_iff_ne] at hformat
  have hall : Format.all = .timestamp :: .duration :: .period :: lateFormats := rfl
  rw [hall, firstValue_cons_of_none (by simp) (read_eq_none_of_ne hread hformat.1.symm),
    firstValue_cons_of_none (by simp) (read_eq_none_of_ne hread hformat.2.symm),
    firstValue_period_cons]
  congr 1
  funext _
  by_cases hperiod : format = .period
  · subst hperiod
    simp only [hread]
    congr 1
    funext value
    cases value with
    | some spec => rfl
    | none =>
        refine firstValue_of_unread fun late hmem => ?_
        have hne : late ≠ .period := by
          rintro rfl
          exact absurd hmem (by decide)
        exact ⟨hne, read_eq_none_of_ne hread hne⟩
  · simp only [read_eq_none_of_ne hread (Ne.symm hperiod)]
    refine firstValue_of_mem (by decide) (by decide) ?_ hread
    cases format <;> simp_all [lateFormats]

/-- A text without a meaning is unreadable once the week of now is found. -/
theorem firstValue_of_not_reads (h : ∀ m, ¬ Reads text m) :
    firstValue text now z Format.all = sundayOf now >>= fun _ => answer text none := by
  have hnone : ∀ format : Format, format.read text = none := by
    intro format
    cases hread : format.read text with
    | none => rfl
    | some m => exact absurd ⟨format, hread⟩ (h m)
  have hall : Format.all = .timestamp :: .duration :: .period :: lateFormats := rfl
  rw [hall, firstValue_cons_of_none (by simp) (hnone _),
    firstValue_cons_of_none (by simp) (hnone _), firstValue_period_cons]
  simp only [hnone]
  congr 1
  funext _
  refine firstValue_of_unread fun late hmem => ⟨?_, hnone late⟩
  rintro rfl
  exact absurd hmem (by decide)

/-- A time string is resolved at the reference time as the zone's clock shows it. -/
theorem resolve_of_inZone {time : String} {reference : Reference}
    (h : reference.inZone z = .ok now) :
    resolve time reference z = firstValue (Text.strip time.toList) now z Format.all := by
  rw [resolve, h, ok_bind]

/-- Once there is a week of now, a text with a late meaning stands for the meaning's value. -/
theorem resolve_of_late {time : String} {reference : Reference} (hnow : reference.inZone z = .ok now)
    (hweek : 7 ≤ now.wall.date.dayNumber) (h : Reads (Text.strip time.toList) m)
    (hlate : m.early = false) :
    resolve time reference z = m.resolve now z >>= answer (Text.strip time.toList) := by
  obtain ⟨sunday, hsunday, -⟩ := exists_sundayOf hweek
  rw [resolve_of_inZone hnow, firstValue_of_late h hlate, hsunday, ok_bind]

/-! ### Answers -/

/-- A text with an early meaning stands for what the meaning resolves to. -/
theorem firstValue_eq_ok_iff_of_early {spec : TimeSpec} (h : Reads text m)
    (hearly : m.early = true) :
    firstValue text now z Format.all = .ok spec ↔ m.resolve now z = .ok (some spec) := by
  rw [firstValue_of_early h hearly, bind_eq_ok_iff]
  constructor
  · rintro ⟨value, hvalue, hspec⟩
    cases value with
    | some found =>
        obtain rfl := Except.ok.inj hspec
        exact hvalue
    | none =>
        obtain ⟨_, -, hnone⟩ := bind_eq_ok_iff.mp hspec
        exact nomatch hnone
  · intro hvalue
    exact ⟨some spec, hvalue, rfl⟩

/-- **A time string stands for something when its meaning has a value**, and the week of now is
found unless the meaning answers before. -/
theorem exists_firstValue_iff :
    (∃ spec, firstValue text now z Format.all = .ok spec) ↔
      ∃ m spec, Reads text m ∧ m.resolve now z = .ok (some spec) ∧
        (m.early = true ∨ 7 ≤ now.wall.date.dayNumber) := by
  constructor
  · rintro ⟨spec, hspec⟩
    by_cases hreads : ∃ m, Reads text m
    · obtain ⟨m, hm⟩ := hreads
      cases hearly : m.early with
      | true =>
          exact ⟨m, spec, hm, (firstValue_eq_ok_iff_of_early hm hearly).mp hspec, Or.inl hearly⟩
      | false =>
          rw [firstValue_of_late hm hearly] at hspec
          obtain ⟨sunday, hsunday, hspec⟩ := bind_eq_ok_iff.mp hspec
          obtain ⟨value, hvalue, hspec⟩ := bind_eq_ok_iff.mp hspec
          cases value with
          | none => exact nomatch hspec
          | some spec =>
              refine ⟨m, spec, hm, hvalue, Or.inr ?_⟩
              by_contra hfirst
              rw [sundayOf_eq_error_iff.mpr ⟨by omega, rfl⟩] at hsunday
              exact nomatch hsunday
    · rw [firstValue_of_not_reads fun m hm => hreads ⟨m, hm⟩] at hspec
      obtain ⟨_, _, hspec⟩ := bind_eq_ok_iff.mp hspec
      exact nomatch hspec
  · rintro ⟨m, spec, hm, hvalue, hweek⟩
    cases hearly : m.early with
    | true => exact ⟨spec, (firstValue_eq_ok_iff_of_early hm hearly).mpr hvalue⟩
    | false =>
        rw [hearly] at hweek
        obtain ⟨sunday, hsunday, -⟩ := exists_sundayOf (hweek.resolve_left (by simp))
        exact ⟨spec, by rw [firstValue_of_late hm hearly, hsunday, hvalue]; rfl⟩

/-! ### Failures -/

/-- The ways in which a meaning fails in every zone, and how: it leaves the calendar, or it has a
number that is not read. -/
inductive Meaning.Fails (today : Date) : Meaning → Failure → Prop
  /-- Midnight at the end of the last day of the calendar. -/
  | endOfTime {s : Stamp} (ends : s.EndsTime) : Fails today (.stamp s) .outOfRange
  /-- A month further back than years can be counted. -/
  | farMonth {count : Nat} (far : (today.monthNumber - count) / 12 < -2147483648) :
      Fails today (.ago (.months count)) .outOfRange
  /-- A number of units with more digits than are read. -/
  | longAgo {digits : Nat} : Fails today (.longAgo digits) (.tooManyDigits digits)
  /-- A number of milliseconds with more digits than are read. -/
  | longMillis {digits : Nat} : Fails today (.longMillis digits) (.tooManyDigits digits)
  /-- The week before the first one. -/
  | noLastWeek (first : today.dayNumber < 14) : Fails today (.period .lastWeek) .outOfRange

/-- A meaning that is no span fails in every zone or in none. -/
theorem resolve_eq_error_iff_of_moment {f : Failure} (hmoment : m.isSpan = false) :
    m.resolve now z = .error f ↔ m.Fails now.wall.date f := by
  cases m with
  | stamp s =>
      rw [Meaning.resolve, bind_pure_eq_error_iff, Stamp.instant_eq_error_iff]
      constructor
      · rintro ⟨ends, rfl⟩
        exact .endOfTime ends
      · rintro ⟨ends⟩
        exact ⟨ends, rfl⟩
  | ago duration =>
      cases duration with
      | seconds count =>
          refine ⟨fun h => absurd h (before_seconds_ne_error (z := z)), ?_⟩
          rintro ⟨⟩
      | months count =>
          rw [Meaning.resolve, before_months_eq_error_iff]
          constructor
          · rintro ⟨far, rfl⟩
            exact .farMonth far
          · rintro (⟨⟩ | ⟨far⟩)
            exact ⟨far, rfl⟩
  | longAgo digits =>
      rw [Meaning.resolve, Except.error.injEq]
      constructor
      · rintro rfl
        exact .longAgo
      · rintro ⟨⟩
        rfl
  | millis value =>
      refine ⟨fun h => by simp [Meaning.resolve] at h, ?_⟩
      rintro ⟨⟩
  | longMillis digits =>
      rw [Meaning.resolve, Except.error.injEq]
      constructor
      · rintro rfl
        exact .longMillis
      · rintro ⟨⟩
        rfl
  | period _ | month _ | year _ | day _ _ _ => simp [Meaning.isSpan] at hmoment

/-- A span fails in every zone, or where its midnights are the wrong way round. -/
theorem resolve_eq_error_iff_of_isSpan {f : Failure} (hspan : m.isSpan = true)
    (hweek : 7 ≤ now.wall.date.dayNumber) :
    m.resolve now z = .error f ↔
      m.Fails now.wall.date f ∨
      ∃ start stop, Midnights z (m.bounds? now.wall.date) start stop ∧
        stop.toMillis ≤ start.toMillis ∧ f = .inverted start.toMillis (stop.toMillis - 1) := by
  rw [resolve_span hspan hweek]
  by_cases hlast : m = .period .lastWeek ∧ now.wall.date.dayNumber < 14
  · rw [if_pos hlast]
    obtain ⟨rfl, hfirst⟩ := hlast
    constructor
    · intro h
      obtain rfl := Except.error.inj h
      exact Or.inl (.noLastWeek hfirst)
    · rintro (hfails | ⟨start, stop, hmid, _⟩)
      · cases hfails
        rfl
      · exact absurd hmid (not_midnights_of_none (bounds?_lastWeek_eq_none hfirst))
  · rw [if_neg hlast, spanBetween_eq_error_iff]
    refine ⟨Or.inr, ?_⟩
    rintro (hfails | h)
    · cases hfails with
      | endOfTime _ | farMonth _ | longAgo | longMillis => simp [Meaning.isSpan] at hspan
      | noLastWeek first => exact absurd ⟨rfl, first⟩ hlast
    · exact h

/-- A meaning fails in every zone, or where its midnights are the wrong way round. -/
theorem resolve_eq_error_iff {f : Failure} (hweek : m.early = true ∨ 7 ≤ now.wall.date.dayNumber) :
    m.resolve now z = .error f ↔
      m.Fails now.wall.date f ∨
      ∃ start stop, Midnights z (m.bounds? now.wall.date) start stop ∧
        stop.toMillis ≤ start.toMillis ∧ f = .inverted start.toMillis (stop.toMillis - 1) := by
  cases hspan : m.isSpan with
  | true =>
      rw [early_of_isSpan hspan] at hweek
      exact resolve_eq_error_iff_of_isSpan hspan (hweek.resolve_left (by simp))
  | false =>
      rw [resolve_eq_error_iff_of_moment hspan]
      refine ⟨Or.inl, ?_⟩
      rintro (h | ⟨start, stop, hmid, _⟩)
      · exact h
      · exact absurd hmid (not_midnights_of_none (bounds?_eq_none_of_moment hspan))

/-- What needs the week of now fails in the first six days of year 1. -/
theorem sunday_bind_eq_error {α : Type} {k : Date → Except Failure α}
    (h : now.wall.date.dayNumber < 7) : sundayOf now >>= k = .error .outOfRange := by
  rw [sundayOf_eq_error_iff.mpr ⟨h, rfl⟩]
  rfl

/-- A text is unreadable when its meaning has no value. -/
theorem isUnreadable_of_answer {value : Option TimeSpec} {f : Failure}
    (h : answer text value = .error f) : f.isUnreadable = true := by
  cases value with
  | some spec => exact nomatch h
  | none =>
      obtain rfl := Except.error.inj h
      rfl

theorem firstValue_fails_of_early (h : Reads text m) (hearly : m.early = true) :
    (∃ f, firstValue text now z Format.all = .error f ∧ f.isUnreadable = false) ↔
      (m.resolve now z = .ok none ∧ now.wall.date.dayNumber < 7) ∨
        ∃ f, m.resolve now z = .error f := by
  rw [firstValue_of_early h hearly]
  constructor
  · rintro ⟨f, hf, hform⟩
    rcases bind_eq_error_iff.mp hf with hf | ⟨value, hvalue, hf⟩
    · exact Or.inr ⟨f, hf⟩
    · cases value with
      | some spec => exact nomatch hf
      | none =>
          rcases bind_eq_error_iff.mp hf with hf | ⟨_, _, hf⟩
          · exact Or.inl ⟨hvalue, (sundayOf_eq_error_iff.mp hf).1⟩
          · rw [isUnreadable_of_answer hf] at hform
            simp at hform
  · rintro (⟨hvalue, hfirst⟩ | ⟨f, hf⟩)
    · exact ⟨.outOfRange, by rw [hvalue]; exact sunday_bind_eq_error hfirst, rfl⟩
    · exact ⟨f, by rw [hf]; rfl, isUnreadable_of_resolve hf⟩

theorem firstValue_fails_of_late (h : Reads text m) (hlate : m.early = false) :
    (∃ f, firstValue text now z Format.all = .error f ∧ f.isUnreadable = false) ↔
      now.wall.date.dayNumber < 7 ∨ ∃ f, m.resolve now z = .error f := by
  rw [firstValue_of_late h hlate]
  constructor
  · rintro ⟨f, hf, hform⟩
    rcases bind_eq_error_iff.mp hf with hf | ⟨_, _, hf⟩
    · exact Or.inl (sundayOf_eq_error_iff.mp hf).1
    · rcases bind_eq_error_iff.mp hf with hf | ⟨value, _, hf⟩
      · exact Or.inr ⟨f, hf⟩
      · rw [isUnreadable_of_answer hf] at hform
        simp at hform
  · intro h
    by_cases hfirst : now.wall.date.dayNumber < 7
    · exact ⟨.outOfRange, sunday_bind_eq_error hfirst, rfl⟩
    · have hweek : 7 ≤ now.wall.date.dayNumber := by omega
      obtain ⟨f, hf⟩ := h.resolve_left hfirst
      obtain ⟨sunday, hsunday, -⟩ := exists_sundayOf hweek
      exact ⟨f, by rw [hsunday, hf]; rfl, isUnreadable_of_resolve hf⟩

theorem firstValue_fails_of_not_reads (h : ∀ m, ¬ Reads text m) :
    (∃ f, firstValue text now z Format.all = .error f ∧ f.isUnreadable = false) ↔
      now.wall.date.dayNumber < 7 := by
  rw [firstValue_of_not_reads h]
  constructor
  · rintro ⟨f, hf, hform⟩
    rcases bind_eq_error_iff.mp hf with hf | ⟨_, _, hf⟩
    · exact (sundayOf_eq_error_iff.mp hf).1
    · rw [isUnreadable_of_answer hf] at hform
      simp at hform
  · intro hfirst
    exact ⟨.outOfRange, sunday_bind_eq_error hfirst, rfl⟩

/-- **A time string fails for another reason than its form when its meaning fails**, or when there
is no week of now and nothing answers before it is looked up. -/
theorem firstValue_fails_iff :
    (∃ f, firstValue text now z Format.all = .error f ∧ f.isUnreadable = false) ↔
      (now.wall.date.dayNumber < 7 ∧
        ∀ m spec, Reads text m → m.early = true → m.resolve now z ≠ .ok (some spec)) ∨
      ∃ m f, Reads text m ∧ m.resolve now z = .error f := by
  by_cases hreads : ∃ m, Reads text m
  · -- The text has one meaning, so only that one can fail.
    obtain ⟨m, hm⟩ := hreads
    have hthe : (∃ m f, Reads text m ∧ m.resolve now z = .error f) ↔
        ∃ f, m.resolve now z = .error f := by
      constructor
      · rintro ⟨m', f, hm', hf⟩
        obtain rfl := hm.unique hm'
        exact ⟨f, hf⟩
      · rintro ⟨f, hf⟩
        exact ⟨m, f, hm, hf⟩
    rw [hthe]
    cases hearly : m.early with
    | true =>
        rw [firstValue_fails_of_early hm hearly]
        constructor
        · rintro (⟨hvalue, hfirst⟩ | h)
          · refine Or.inl ⟨hfirst, ?_⟩
            intro m' spec hm' _ hspec
            obtain rfl := hm.unique hm'
            rw [hvalue] at hspec
            simp at hspec
          · exact Or.inr h
        · rintro (⟨hfirst, hnone⟩ | h)
          · cases hvalue : m.resolve now z with
            | error f => exact Or.inr ⟨f, rfl⟩
            | ok value =>
                cases value with
                | some spec => exact absurd hvalue (hnone m spec hm hearly)
                | none => exact Or.inl ⟨rfl, hfirst⟩
          · exact Or.inr h
    | false =>
        rw [firstValue_fails_of_late hm hearly]
        refine or_congr_left ?_
        refine ⟨fun hfirst => ⟨hfirst, ?_⟩, And.left⟩
        intro m' spec hm' hearly' _
        obtain rfl := hm.unique hm'
        rw [hearly] at hearly'
        simp at hearly'
  · rw [firstValue_fails_of_not_reads fun m hm => hreads ⟨m, hm⟩]
    constructor
    · intro hfirst
      exact Or.inl ⟨hfirst, fun m _ hm => absurd ⟨m, hm⟩ hreads⟩
    · rintro (⟨hfirst, _⟩ | ⟨m, f, hm, _⟩)
      · exact hfirst
      · exact absurd ⟨m, hm⟩ hreads

end MediaSearch.TimeString
