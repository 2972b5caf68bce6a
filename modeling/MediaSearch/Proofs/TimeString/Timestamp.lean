/-
Timestamps are what they say.

A timestamp gives a date, a time of day, a fraction of a second and an offset from universal
time, and each of the four is read back as it is written (`readTimestamp_of_saysTime`).  What is
left is arithmetic: fields and offset make a number of microseconds, and rounding it down to whole
milliseconds, before 1970 too, leaves the first three digits of the fraction
(`Stamp.Shows.instant`).

What is shown of an instant is such a text (`saysTime_text`): the clock's fields are the parts of
the time of day that has passed, and the offset undoes what the zone added.  So it stands for the
instant that was shown.
-/
import MediaSearch.Calendar.Iso
import MediaSearch.Proofs.Calendar.Settled
import MediaSearch.Proofs.Text.Digits
import MediaSearch.Proofs.TimeString.Outcome

namespace MediaSearch.TimeString

open Calendar
open Text

/-! ### What a timestamp says -/

/-- A time of day on a date, with its offset from universal time, to the millisecond. -/
structure ClockTime where
  /-- The date. -/
  date : Date
  /-- The hour. -/
  hour : Nat
  /-- The minute. -/
  minute : Nat
  /-- The second. -/
  second : Nat
  /-- The millisecond. -/
  millis : Nat
  /-- The seconds east of universal time. -/
  east : Int

/-- The milliseconds since the start of 1970 in universal time. -/
def ClockTime.sinceEpoch (c : ClockTime) : Int :=
  1000 * ((c.date.dayNumber - epochDay) * 86400 + c.hour * 3600 + c.minute * 60 + c.second - c.east)
    + c.millis

/-- The offset at the end of a timestamp says so many seconds east of universal time. -/
inductive SaysOffset : List Char → Int → Prop
  /-- None. -/
  | utc {mark : Char} (utc : mark = 'Z' ∨ mark = 'z') : SaysOffset [mark] 0
  /-- Hours and minutes to the east or to the west, less than a day. -/
  | away {sign : Char} {side : Int} {hour minute : List Char}
      (signed : sign = '+' ∧ side = 1 ∨ sign = '-' ∧ side = -1) (hourRun : IsRun 2 2 hour)
      (minuteRun : IsRun 2 2 minute) (hours : digitsValue hour ≤ 23)
      (minutes : digitsValue minute ≤ 59) :
      SaysOffset (sign :: (hour ++ ':' :: minute))
        (side * (digitsValue hour * 60 + digitsValue minute) * 60)

/-- The fraction of a second says so many milliseconds: the first three digits, filled up with
zeros on the right. -/
inductive SaysFraction : List Char → Nat → Prop
  /-- There is no fraction. -/
  | none : SaysFraction [] 0
  /-- There are digits behind a point. -/
  | digits {digits : List Char} (nonempty : digits ≠ []) (run : ∀ c ∈ digits, c.isDigit = true) :
      SaysFraction ('.' :: digits) (digitsValue ((digits ++ ['0', '0', '0']).take 3))

/-- A timestamp says a time of day on a date that exists, with its offset. -/
inductive SaysTime : List Char → ClockTime → Prop
  /-- The date, a mark, the time of day, the fraction and the offset. -/
  | mk {year month day hour minute second fraction offset : List Char} {mark : Char} {date : Date}
      {millis : Nat} {east : Int} (yearRun : IsRun 4 4 year) (monthRun : IsRun 2 2 month)
      (dayRun : IsRun 2 2 day) (dated : date.year = digitsValue year ∧
        date.month = digitsValue month ∧ date.day = digitsValue day)
      (marked : mark = 'T' ∨ mark = 't' ∨ mark = ' ') (hourRun : IsRun 2 2 hour)
      (minuteRun : IsRun 2 2 minute) (secondRun : IsRun 2 2 second)
      (inDay : digitsValue hour ≤ 23 ∧ digitsValue minute ≤ 59 ∧ digitsValue second ≤ 59)
      (fractional : SaysFraction fraction millis) (away : SaysOffset offset east) :
      SaysTime (year ++ '-' :: (month ++ '-' :: (day ++ mark :: (hour ++ ':' :: (minute ++
          ':' :: (second ++ (fraction ++ offset)))))))
        ⟨date, digitsValue hour, digitsValue minute, digitsValue second, millis, east⟩

/-! ### Reading it -/

/-- The fields of a timestamp show a time. -/
structure Stamp.Shows (s : Stamp) (c : ClockTime) : Prop where
  /-- The date, -/
  date : Date.of? s.year s.month s.day = some c.date
  /-- the time of day, -/
  time : s.hour = c.hour ∧ s.minute = c.minute ∧ s.second = c.second
  /-- which is before midnight, -/
  inDay : s.hour ≤ 23 ∧ s.minute ≤ 59 ∧ s.second ≤ 59
  /-- the fraction of a second, finer than it is said, -/
  fraction : s.micro < 1000000 ∧ s.micro / 1000 = c.millis
  /-- and an offset that a timestamp can have. -/
  offset : s.offsetHour ≤ 23 ∧ s.offsetMinute ≤ 59 ∧
    (if s.west then -1 else 1) * ((s.offsetHour : Int) * 60 + s.offsetMinute) * 60 = c.east

variable {text : List Char} {east : Int} {millis : Nat} {c : ClockTime} {s : Stamp}

/-- An offset begins with its mark. -/
theorem SaysOffset.eq_cons (h : SaysOffset text east) :
    ∃ mark rest, text = mark :: rest ∧ mark.isDigit = false ∧ mark ≠ '.' := by
  cases h with
  | utc utc => exact ⟨_, _, rfl, by rcases utc with rfl | rfl <;> decide⟩
  | away signed => exact ⟨_, _, rfl, by rcases signed with ⟨rfl, -⟩ | ⟨rfl, -⟩ <;> decide⟩

/-- It ends with its mark or with a digit. -/
theorem SaysOffset.eq_concat (h : SaysOffset text east) :
    ∃ front last, text = front ++ [last] ∧ isBlank last = false := by
  cases h with
  | utc utc => exact ⟨[], _, rfl, by rcases utc with rfl | rfl <;> decide⟩
  | @away sign side hour minute signed hourRun minuteRun =>
      obtain ⟨front, last, rfl, hlast⟩ := IsRun.eq_concat minuteRun
      exact ⟨sign :: (hour ++ ':' :: front), last, by simp, not_isBlank_of_isDigit hlast⟩

theorem offset?_of_saysOffset (h : SaysOffset text east) :
    ∃ west hour minute, Format.offset? text = some (west, hour, minute) ∧ hour ≤ 23 ∧
      minute ≤ 59 ∧ (if west then -1 else 1) * ((hour : Int) * 60 + minute) * 60 = east := by
  cases h with
  | utc utc =>
      refine ⟨false, 0, 0, ?_, by decide, by decide, rfl⟩
      rcases utc with rfl | rfl <;> rfl
  | @away sign side hour minute signed hourRun minuteRun hours minutes =>
      have hcolon : NoDigitFirst (':' :: minute) := noDigitFirst_cons (by decide)
      refine ⟨sign == '-', digitsValue hour, digitsValue minute, ?_, hours, minutes, ?_⟩
      · rcases signed with ⟨rfl, -⟩ | ⟨rfl, -⟩ <;>
          simp [Format.offset?, oneOf?_cons, number?_append hourRun hcolon, char?_cons,
            number?_self minuteRun, done?]
      · rcases signed with ⟨rfl, rfl⟩ | ⟨rfl, rfl⟩ <;> rfl

/-- The digits that are kept of a fraction make less than a second in microseconds, and the first
three of them make its whole milliseconds. -/
theorem micros_of_digits {digits : List Char} (h : ∀ c ∈ digits, c.isDigit = true) :
    digitsValue (digits.take 6) * Nat.pow 10 (6 - (digits.take 6).length) < 1000000 ∧
      digitsValue (digits.take 6) * Nat.pow 10 (6 - (digits.take 6).length) / 1000
        = digitsValue ((digits ++ ['0', '0', '0']).take 3) := by
  -- Filled up with zeros, the digits that are kept are three and three.
  obtain ⟨filled, hfilled⟩ :
      ∃ q, q = digits.take 6 ++ List.replicate (6 - (digits.take 6).length) '0' := ⟨_, rfl⟩
  have hvalue : digitsValue (digits.take 6) * Nat.pow 10 (6 - (digits.take 6).length)
      = digitsValue filled := by
    rw [hfilled, digitsValue_append, digitsValue_replicate_zero, List.length_replicate,
      Nat.add_zero]
  have hrun : ∀ c ∈ filled, c.isDigit = true := by
    intro c hc
    rw [hfilled] at hc
    rcases List.mem_append.mp hc with hc | hc
    · exact h c (List.mem_of_mem_take hc)
    · rw [List.eq_of_mem_replicate hc]
      rfl
  have hlength : filled.length = 6 := by
    have := List.length_take_le 6 digits
    rw [hfilled, List.length_append, List.length_replicate]
    omega
  have hfront : filled.take 3 = (digits ++ ['0', '0', '0']).take 3 := by
    rw [hfilled]
    rcases digits with _ | ⟨a, _ | ⟨b, _ | ⟨c, rest⟩⟩⟩
    · rfl
    · rfl
    · rfl
    · simp only [List.take_succ_cons, List.cons_append, List.take_zero]
  have hless : digitsValue filled < 1000000 := by
    have hsix := digitsValue_lt hrun
    rwa [hlength] at hsix
  have hback : digitsValue (filled.drop 3) < 1000 := by
    have hthree := digitsValue_lt fun c hc => hrun c (List.mem_of_mem_drop (i := 3) hc)
    rwa [List.length_drop, hlength] at hthree
  have hsplit : digitsValue filled
      = digitsValue (filled.take 3) * 1000 + digitsValue (filled.drop 3) := by
    have happend := digitsValue_append (filled.take 3) (filled.drop 3)
    rwa [List.take_append_drop, List.length_drop, hlength] at happend
  rw [hvalue, ← hfront]
  omega

theorem fraction?_append {digits rest : List Char} (hne : digits ≠ [])
    (h : ∀ c ∈ digits, c.isDigit = true) (hrest : NoDigitFirst rest) :
    Format.fraction? (digits ++ rest)
      = some (digitsValue (digits.take 6) * Nat.pow 10 (6 - (digits.take 6).length), rest) := by
  unfold Format.fraction?
  rw [takeWhile_digits h hrest, dropWhile_digits h hrest]
  simp [hne]

/-- The fraction is read if there is one. -/
theorem fraction_of_saysFraction {rest : List Char} (h : SaysFraction text millis)
    (hrest : NoDigitFirst rest) (hpoint : ∀ more, rest ≠ '.' :: more) :
    ∃ micro, (micro < 1000000 ∧ micro / 1000 = millis) ∧
      ((char? '.' (text ++ rest) = none ∧ text = [] ∧ micro = 0) ∨
        ∃ digits, char? '.' (text ++ rest) = some digits ∧
          Format.fraction? digits = some (micro, rest)) := by
  cases h with
  | none =>
      refine ⟨0, ⟨Nat.zero_lt_succ _, rfl⟩, Or.inl ⟨?_, rfl, rfl⟩⟩
      rw [List.nil_append]
      cases hchar : char? '.' rest with
      | none => rfl
      | some more => exact absurd (char?_eq_some_iff.mp hchar) (hpoint more)
  | digits nonempty run =>
      exact ⟨_, micros_of_digits run,
        Or.inr ⟨_, char?_cons _ _, fraction?_append nonempty run hrest⟩⟩

/-- The text of a time is read as a timestamp that shows it. -/
theorem readTimestamp_of_saysTime (h : SaysTime text c) :
    ∃ s : Stamp, Format.readTimestamp text = some (.stamp s) ∧ s.Shows c := by
  cases h with
  | @mk year month day hour minute second fraction offset mark date millis east yearRun monthRun
      dayRun dated marked hourRun minuteRun secondRun inDay fractional away =>
      obtain ⟨west, offsetHour, offsetMinute, hoffset, hours, minutes, heast⟩ :=
        offset?_of_saysOffset away
      obtain ⟨sign, rest, rfl, hsign, hpoint⟩ := away.eq_cons
      obtain ⟨micro, hmicro, hfraction⟩ := fraction_of_saysFraction fractional
        (@noDigitFirst_cons _ rest hsign) fun more heq => hpoint (List.cons.inj heq).1
      have hmark : mark.isDigit = false ∧ (mark == 'T' || mark == 't' || mark == ' ') = true := by
        rcases marked with rfl | rfl | rfl <;> decide
      have hdash : ∀ text, NoDigitFirst ('-' :: text) := fun _ => noDigitFirst_cons (by decide)
      have hcolon : ∀ text, NoDigitFirst (':' :: text) := fun _ => noDigitFirst_cons (by decide)
      have hbehind : NoDigitFirst (fraction ++ sign :: rest) := by
        cases fractional with
        | none => exact noDigitFirst_cons hsign
        | digits => exact noDigitFirst_cons (by decide)
      refine ⟨⟨digitsValue year, digitsValue month, digitsValue day, digitsValue hour,
        digitsValue minute, digitsValue second, micro, west, offsetHour, offsetMinute⟩, ?_,
        Date.of?_eq_some_iff.mpr dated, ⟨rfl, rfl, rfl⟩, inDay, hmicro, hours, minutes, heast⟩
      -- The text is read from the front, piece by piece.
      unfold Format.readTimestamp
      refine Option.bind_eq_some_iff.mpr ⟨_, number?_append yearRun (hdash _), ?_⟩
      refine Option.bind_eq_some_iff.mpr ⟨_, char?_cons _ _, ?_⟩
      refine Option.bind_eq_some_iff.mpr ⟨_, number?_append monthRun (hdash _), ?_⟩
      refine Option.bind_eq_some_iff.mpr ⟨_, char?_cons _ _, ?_⟩
      refine Option.bind_eq_some_iff.mpr ⟨_, number?_append dayRun (noDigitFirst_cons hmark.1), ?_⟩
      refine Option.bind_eq_some_iff.mpr ⟨_, oneOf?_cons hmark.2 _, ?_⟩
      refine Option.bind_eq_some_iff.mpr ⟨_, number?_append hourRun (hcolon _), ?_⟩
      refine Option.bind_eq_some_iff.mpr ⟨_, char?_cons _ _, ?_⟩
      refine Option.bind_eq_some_iff.mpr ⟨_, number?_append minuteRun (hcolon _), ?_⟩
      refine Option.bind_eq_some_iff.mpr ⟨_, char?_cons _ _, ?_⟩
      refine Option.bind_eq_some_iff.mpr ⟨_, number?_append secondRun hbehind, ?_⟩
      dsimp only
      rcases hfraction with ⟨hnone, rfl, rfl⟩ | ⟨digits, hsome, hdigits⟩
      · rw [hnone]
        exact Option.bind_eq_some_iff.mpr ⟨_, rfl, Option.bind_eq_some_iff.mpr ⟨_, hoffset, rfl⟩⟩
      · rw [hsome]
        exact Option.bind_eq_some_iff.mpr
          ⟨_, hdigits, Option.bind_eq_some_iff.mpr ⟨_, hoffset, rfl⟩⟩

/-! ### The moment that it is -/

theorem Stamp.Shows.instant (h : s.Shows c) :
    ∃ t, s.instant = .ok (some t) ∧ t.toMillis = c.sinceEpoch := by
  obtain ⟨date, ⟨hhour, hminute, hsecond⟩, inDay, ⟨hmicro, hmillis⟩, hours, minutes, heast⟩ := h
  have hwall : ∃ w, WallTime.at? c.date s.hour s.minute s.second s.micro = some w ∧
      w.micros = (c.date.dayNumber - epochDay) * microsPerDay
        + (((s.hour * 60 + s.minute) * 60 + s.second) * microsPerSecond + s.micro) := by
    unfold WallTime.at? microsPerSecond
    exact ⟨_, dif_pos (by omega), rfl⟩
  obtain ⟨w, hw, hplace⟩ := hwall
  refine ⟨w.micros - c.east * microsPerSecond, ?_, ?_⟩
  · have haway : (decide (23 < s.offsetHour) || decide (59 < s.offsetMinute)) = false := by
      simp; omega
    have hnight : (s.hour == 24) = false := by
      simp; omega
    unfold Stamp.instant
    simp only [date, hw, haway, hnight, heast, Bool.false_eq_true, if_false, Option.map_some]
  · unfold Instant.toMillis ClockTime.sinceEpoch
    rw [hplace]
    unfold microsPerDay microsPerSecond
    omega

/-- The text of a time has no blank at its ends. -/
theorem SaysTime.strip_eq (h : SaysTime text c) : strip text = text := by
  cases h with
  | @mk year month day hour minute second fraction offset mark date millis east yearRun monthRun
      dayRun dated marked hourRun minuteRun secondRun inDay fractional away =>
      obtain ⟨d, more, rfl, hd⟩ := IsRun.eq_cons yearRun
      obtain ⟨front, last, rfl, hlast⟩ := away.eq_concat
      refine strip_eq_self ?_ ?_
      · rintro _ ⟨⟩
        exact not_isBlank_of_isDigit hd
      · intro e he
        simp only [← List.append_assoc, ← List.cons_append] at he
        rw [List.getLast?_concat] at he
        rwa [← Option.some.inj he]

/-- A text that says a time stands for that moment. -/
theorem resolve_of_saysTime {time : String} {reference : Reference} {now : LocalTime} {z : Zone}
    (h : SaysTime time.toList c) (hnow : reference.inZone z = .ok now) :
    resolve time reference z = .ok (.moment c.sinceEpoch) := by
  obtain ⟨s, hread, hshows⟩ := readTimestamp_of_saysTime h
  obtain ⟨t, ht, hmillis⟩ := hshows.instant
  have hreads : Reads time.toList (.stamp s) := ⟨.timestamp, hread⟩
  rw [resolve_of_inZone hnow, h.strip_eq, firstValue_eq_ok_iff_of_early hreads rfl,
    Meaning.resolve, ht, ← hmillis]
  rfl

/-! ### Instants as they are shown -/

theorem isRun_padded_two {n : Nat} (h : n < 100) : IsRun 2 2 (padded 2 n).toList :=
  isRun_padded (by decide) h

/-- An offset in whole minutes is written as hours and minutes. -/
theorem saysOffset_offsetText {offset : Int} (hminute : offset % 60 = 0)
    (hday : offset.natAbs < 86400) : SaysOffset (offsetText offset).toList offset := by
  have hwhole : (offset.natAbs % 60 == 0) = true := by
    rw [beq_iff_eq]
    omega
  obtain ⟨sign, side, hsign, htext, hside⟩ : ∃ (sign : Char) (side : Int),
      (sign = '+' ∧ side = 1 ∨ sign = '-' ∧ side = -1) ∧
        (if offset < 0 then "-" else "+").toList = [sign] ∧ side * offset.natAbs = offset := by
    by_cases hwest : offset < 0
    · exact ⟨'-', -1, Or.inr ⟨rfl, rfl⟩, by rw [if_pos hwest]; rfl, by omega⟩
    · exact ⟨'+', 1, Or.inl ⟨rfl, rfl⟩, by rw [if_neg hwest]; rfl, by omega⟩
  have haway := SaysOffset.away hsign
    (@isRun_padded_two (offset.natAbs / 3600) (by omega))
    (@isRun_padded_two (offset.natAbs / 60 % 60) (by omega))
    (by rw [digitsValue_padded]; omega) (by rw [digitsValue_padded]; omega)
  rw [digitsValue_padded, digitsValue_padded] at haway
  have hvalue : side * (((offset.natAbs / 3600 : Nat) : Int) * 60 + (offset.natAbs / 60 % 60 : Nat))
      * 60 = offset := by
    rcases hsign with ⟨-, rfl⟩ | ⟨-, rfl⟩ <;> omega
  rw [hvalue] at haway
  have hwritten : (offsetText offset).toList = sign :: ((padded 2 (offset.natAbs / 3600)).toList
      ++ ':' :: (padded 2 (offset.natAbs / 60 % 60)).toList) := by
    unfold offsetText
    simp [hwhole, htext]
  rwa [hwritten]

/-- A number of milliseconds in three digits is the fraction that says it. -/
theorem saysFraction_padded {millis : Nat} (h : millis < 1000) :
    SaysFraction ('.' :: (padded 3 millis).toList) millis := by
  have hrun := @isRun_padded 3 millis (by decide) h
  have hlength : (padded 3 millis).toList.length = 3 := le_antisymm hrun.le_most hrun.least_le
  have hfraction := SaysFraction.digits (List.ne_nil_of_length_pos (by omega)) hrun.digit
  rwa [List.take_left' hlength, digitsValue_padded] at hfraction

/-- The time that a clock on the wall shows, with its offset. -/
def clockTime (w : WallTime) (offset : Int) : ClockTime :=
  ⟨w.date, w.hour.toNat, w.minute.toNat, w.second.toNat, (w.micro / 1000 % 1000).toNat, offset⟩

variable {w : WallTime} {offset : Int}

/-- The parts of a time of day are those of the part of the day that has passed. -/
theorem clockTime_parts (w : WallTime) (offset : Int) :
    ((clockTime w offset).hour ≤ 23 ∧ (clockTime w offset).minute ≤ 59 ∧
      (clockTime w offset).second ≤ 59 ∧ (clockTime w offset).millis < 1000) ∧
      (((clockTime w offset).hour * 60 + (clockTime w offset).minute) * 60
        + (clockTime w offset).second) * 1000 + (clockTime w offset).millis = w.micro / 1000 := by
  obtain ⟨hlow, hhigh⟩ := w.inDay
  unfold clockTime WallTime.hour WallTime.minute WallTime.second
  unfold microsPerDay at hhigh
  unfold microsPerSecond at *
  dsimp only
  omega

/-- What a clock on the wall shows is written as a text that says it. -/
theorem saysTime_text (hminute : offset % 60 = 0) (hday : offset.natAbs < 86400) :
    SaysTime (w.text offset).toList (clockTime w offset) := by
  obtain ⟨⟨hhour, hminutes, hsecond, hmillis⟩, -⟩ := clockTime_parts w offset
  obtain ⟨hyear, hyear', hmonth, hmonth', hday, hday'⟩ := w.date.isDate
  have hlast : w.date.day ≤ 31 := by
    have : daysInMonth w.date.year w.date.month ≤ 31 := by
      unfold daysInMonth
      split <;> split <;> omega
    omega
  have hdate : w.date.year = digitsValue (padded 4 w.date.year.toNat).toList ∧
      w.date.month = digitsValue (padded 2 w.date.month.toNat).toList ∧
      w.date.day = digitsValue (padded 2 w.date.day.toNat).toList := by
    simp only [digitsValue_padded]
    omega
  have htime := SaysTime.mk
    (isRun_padded (by decide) (show w.date.year.toNat < 10000 by omega))
    (@isRun_padded_two w.date.month.toNat (by omega))
    (@isRun_padded_two w.date.day.toNat (by omega))
    hdate (Or.inl rfl)
    (@isRun_padded_two (clockTime w offset).hour (by omega))
    (@isRun_padded_two (clockTime w offset).minute (by omega))
    (@isRun_padded_two (clockTime w offset).second (by omega))
    (by simp only [digitsValue_padded]; omega) (saysFraction_padded hmillis)
    (saysOffset_offsetText hminute ‹_›)
  simp only [digitsValue_padded] at htime
  have hwritten : (w.text offset).toList = (padded 4 w.date.year.toNat).toList ++ '-' ::
      ((padded 2 w.date.month.toNat).toList ++ '-' :: ((padded 2 w.date.day.toNat).toList ++ 'T' ::
      ((padded 2 w.hour.toNat).toList ++ ':' :: ((padded 2 w.minute.toNat).toList ++ ':' ::
      ((padded 2 w.second.toNat).toList ++ ('.' :: (padded 3 (w.micro / 1000 % 1000).toNat).toList
      ++ (offsetText offset).toList)))))) := by
    simp [WallTime.text, Date.text]
  rw [hwritten]
  exact htime

/-- What a zone's clock shows at a whole millisecond says that millisecond, by the offset that leads
back to it. -/
theorem sinceEpoch_clockTime {z : Zone} {millis : Int} {l : LocalTime}
    (h : z.instantOf l = .ofMillis millis) :
    (clockTime l.wall (z.offsetOf l)).sinceEpoch = millis := by
  obtain ⟨-, hparts⟩ := clockTime_parts l.wall (z.offsetOf l)
  have hplace : (l.wall.date.dayNumber - epochDay) * 86400000000 + l.wall.micro
      - z.offsetOf l * 1000000 = millis * 1000 := h
  have hfields : (clockTime l.wall (z.offsetOf l)).date = l.wall.date ∧
      (clockTime l.wall (z.offsetOf l)).east = z.offsetOf l :=
    ⟨rfl, rfl⟩
  unfold ClockTime.sinceEpoch
  rw [hfields.1, hfields.2]
  omega

/-! ### Both ways -/

/--
**A timestamp stands for exactly the millisecond that it says, and what is shown of an instant
is a timestamp that stands for it.**  At any reference time that the zone can show, the text of a
time on a date that exists is resolved to the days since the start of 1970, the time of day and the
offset, counted in milliseconds, with the first three digits of the fraction.  So the text that any
zone shows for a whole millisecond is resolved to that millisecond, wherever and whenever it is
read, if the zone's offset is a whole number of minutes and its local time leads back to the
millisecond.
-/
theorem timestamp_resolves_exactly {reference : Reference} {z : Zone} {now : LocalTime}
    (hnow : reference.inZone z = .ok now) :
    (∀ time c, SaysTime time.toList c →
      resolve time reference z = .ok (.moment (1000 * ((c.date.dayNumber - epochDay) * 86400
        + c.hour * 3600 + c.minute * 60 + c.second - c.east) + c.millis))) ∧
    ∀ (shownIn : Zone) millis shown, shownIn.isoText? (.ofMillis millis) = some shown →
      shownIn.Returns (.ofMillis millis) → shownIn.offsetAt (.ofMillis millis) % 60 = 0 →
        resolve shown reference z = .ok (.moment millis) := by
  refine ⟨fun time c h => resolve_of_saysTime h hnow, ?_⟩
  intro shownIn millis shown hshown hreturns hminute
  obtain ⟨l, hl, rfl⟩ := Option.map_eq_some_iff.mp hshown
  rw [← hreturns.offsetOf_eq hl] at hminute
  rw [resolve_of_saysTime (saysTime_text hminute (shownIn.offsetOf_lt l)) hnow,
    sinceEpoch_clockTime (hreturns l hl)]

/-- The last second of a leap day before 1970, west of universal time, and the millisecond before
1970 as New York shows it. -/
theorem timestamp_resolves_exactly_before_1970 :
    resolve "1904-02-29t23:59:59.9876-03:30" (.instant 0) .newYork
        = .ok (.moment (-2077648200013)) ∧
      Zone.newYork.isoText? (.ofMillis (-1)) = some "1969-12-31T18:59:59.999-05:00" ∧
      resolve "1969-12-31T18:59:59.999-05:00" (.instant 0) .newYork = .ok (.moment (-1)) := by
  obtain ⟨now, hnow⟩ : ∃ now, (Reference.instant 0).inZone .newYork = .ok now := ⟨_, rfl⟩
  obtain ⟨hread, hshown⟩ := timestamp_resolves_exactly hnow
  have haway : SaysOffset "-03:30".toList (-12600) :=
    @SaysOffset.away '-' (-1) "03".toList "30".toList (.inr ⟨rfl, rfl⟩) (by decide) (by decide)
      (by decide) (by decide)
  have hfraction : SaysFraction ".9876".toList 987 :=
    @SaysFraction.digits "9876".toList (by decide)
      (List.all_eq_true.mp (show "9876".toList.all Char.isDigit = true by decide))
  have hleap : SaysTime "1904-02-29t23:59:59.9876-03:30".toList
      ⟨⟨1904, 2, 29, by decide⟩, 23, 59, 59, 987, -12600⟩ :=
    @SaysTime.mk "1904".toList "02".toList "29".toList "23".toList "59".toList "59".toList
      ".9876".toList "-03:30".toList 't' ⟨1904, 2, 29, by decide⟩ 987 (-12600) (by decide)
      (by decide) (by decide) (by decide) (by decide) (by decide) (by decide) (by decide)
      (by decide) hfraction haway
  have htext : Zone.newYork.isoText? (.ofMillis (-1)) = some "1969-12-31T18:59:59.999-05:00" := by
    decide +kernel
  exact ⟨hread _ _ hleap, htext,
    hshown .newYork _ _ htext (Zone.newYork_returns _) (by decide +kernel)⟩

end MediaSearch.TimeString
