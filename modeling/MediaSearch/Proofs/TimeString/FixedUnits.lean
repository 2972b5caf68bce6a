/-
Going back by units of a fixed length.

Up to the week, a unit is so many seconds of absolute time, whatever the clocks do meanwhile.  A
time string that goes back by one of them says a number of seconds (`SaysSeconds.reads`), and how
it puts the number, in digits with zeros in front, in weeks or in hours, is forgotten there.  So
what it stands for is the moment so much earlier, to the millisecond, or nothing if that moment is
before the first instant of year 1; it never fails in another way (`resolve_of_saysSeconds`).

The seconds are taken off the instant that the zone's local time leads back to, and so one thing is
asked of the zone: that this is the instant of the reference time (`Reference.Returns`).  It is so
in every zone that there is a table for (`ZoneSource.returns_of_find`).
-/
import MediaSearch.Proofs.Calendar.Settled
import MediaSearch.Proofs.TimeString.Ago

namespace MediaSearch.TimeString

open Calendar Format

/-! ### What is written -/

/-- The units of a fixed length, and how many seconds they have. -/
def fixedUnits : List (String × Nat) :=
  [("second", 1), ("minute", 60), ("hour", 60 * 60), ("day", 24 * 60 * 60),
    ("week", 7 * 24 * 60 * 60)]

/-- A text says how many seconds to go back: in any capitals, with blanks of any number and kind
between its words. -/
inductive SaysSeconds : List Char → Nat → Prop
  /-- A number in decimal digits, no more of them than are read, of one of the units, in the
  singular or the plural. -/
  | count {digits gap unit gap' last : List Char} {name : String} {seconds : Nat}
      (number : digits ≠ [] ∧ (∀ c ∈ digits, c.isDigit = true) ∧ digits.length ≤ Text.maxDigits)
      (blank : IsSpacing gap)
      (known : (name, seconds) ∈ fixedUnits)
      (named : unit.map Char.toLower = name.toList ∨
        unit.map Char.toLower = name.toList ++ ['s'])
      (blank' : IsSpacing gap') (back : last.map Char.toLower = "ago".toList) :
      SaysSeconds (spaced digits gap unit gap' last) (Nat.ofDigitChars 10 digits 0 * seconds)
  /-- The article, and one of the units. -/
  | one {article : Char} {gap unit gap' last : List Char} {name : String} {seconds : Nat}
      (article_eq : article = 'a' ∨ article = 'A') (blank : IsSpacing gap)
      (known : (name, seconds) ∈ fixedUnits) (named : unit.map Char.toLower = name.toList)
      (blank' : IsSpacing gap') (back : last.map Char.toLower = "ago".toList) :
      SaysSeconds (spaced [article] gap unit gap' last) seconds

/-- The units have this length in the singular and the plural. -/
theorem unit?_of_mem_fixedUnits : ∀ entry ∈ fixedUnits,
    unit? false entry.1.toList = some (.seconds entry.2) ∧
      unit? true entry.1.toList = some (.seconds entry.2) ∧
      unit? true (entry.1.toList ++ ['s']) = some (.seconds entry.2) := by
  decide

/-- What says so many seconds is read as that. -/
theorem SaysSeconds.reads {text : List Char} {n : Nat} (h : SaysSeconds text n) :
    Reads text (.ago (.seconds n)) := by
  cases h with
  | @count digits gap unit gap' last name seconds number blank known named blank' back =>
      obtain ⟨-, hsingular, hplural⟩ := unit?_of_mem_fixedUnits _ known
      have hunit : unit? true (unit.map Char.toLower) = some (.seconds seconds) := by
        rcases named with h | h <;> rwa [h]
      rw [← Text.digitsValue_eq_ofDigitChars]
      have hread := readDuration_count number.1 number.2.1 blank hunit blank' back
      rw [countAgo_of_le number.2.2] at hread
      exact ⟨.duration, hread⟩
  | @one article gap unit gap' last name seconds article_eq blank known named blank' back =>
      obtain ⟨hsingular, -, -⟩ := unit?_of_mem_fixedUnits _ known
      have hunit : unit? false (unit.map Char.toLower) = some (.seconds n) := by rwa [named]
      have harticle : article.toLower = 'a' := by rcases article_eq with rfl | rfl <;> rfl
      exact ⟨.duration, readDuration_one harticle blank hunit blank' back⟩

/-- It begins and ends with a word. -/
theorem SaysSeconds.strip_eq {text : List Char} {n : Nat} (h : SaysSeconds text n) :
    Text.strip text = text := by
  cases h with
  | count number blank known named blank' back =>
      exact strip_spaced (isWord_of_isDigit number.1 number.2.1) (isWord_of_ago back)
  | one article_eq blank known named blank' back =>
      refine strip_spaced ?_ (isWord_of_ago back)
      rcases article_eq with rfl | rfl <;> decide

/-! ### The moment -/

/-- The first instant of year 1, in universal time. -/
def firstInstant : Instant :=
  (WallTime.midnight ⟨1, 1, 1, by decide⟩).micros

variable {z : Zone} {reference : Reference} {now : LocalTime} {time time' : String} {n : Nat}

/-- An instant that is not after a representable one is representable from year 1 on. -/
theorem representable_earlier_iff {t earlier : Int} (h : Instant.representable t = true)
    (hle : earlier ≤ t) : Instant.representable earlier = true ↔ firstInstant ≤ earlier := by
  simp only [Instant.representable, Bool.and_eq_true, decide_eq_true_eq] at h ⊢
  exact ⟨fun hstart => hstart.1, fun hstart => ⟨hstart, Int.lt_of_le_of_lt hle h.2⟩⟩

/-- Whole seconds earlier, an instant is as many thousand milliseconds earlier. -/
theorem toMillis_sub_seconds (t : Instant) (n : Nat) :
    Instant.toMillis (t - n * microsPerSecond) = t.toMillis - 1000 * n := by
  unfold Instant.toMillis microsPerSecond
  omega

theorem before_seconds_eq :
    before now z (.seconds n)
      = .ok (if (z.instantOf now).representable = true ∧
            firstInstant ≤ z.instantOf now - n * microsPerSecond then
          some (.moment ((z.instantOf now).toMillis - 1000 * n)) else none) := by
  have hle : z.instantOf now - n * microsPerSecond ≤ z.instantOf now :=
    Int.sub_le_self _ (Int.mul_nonneg (Int.natCast_nonneg n) (by decide))
  unfold before
  by_cases hrep : (z.instantOf now).representable = true
  · simp only [hrep, Bool.true_and, true_and, representable_earlier_iff hrep hle, momentAt,
      toMillis_sub_seconds]
  · simp only [hrep, Bool.false_and]
    rfl

/-- A time string that goes back by so many seconds stands for the moment that far before the
instant that the local time leads back to, or is unreadable. -/
theorem resolve_of_saysSeconds (hnow : reference.inZone z = .ok now)
    (hweek : 7 ≤ now.wall.date.dayNumber) (h : SaysSeconds time.toList n) :
    resolve time reference z =
      if (z.instantOf now).representable = true ∧
          firstInstant ≤ z.instantOf now - n * microsPerSecond then
        .ok (.moment ((z.instantOf now).toMillis - 1000 * n))
      else .error (.unreadable time) := by
  obtain ⟨sunday, hsunday, -⟩ := exists_sundayOf hweek
  rw [resolve_of_inZone hnow, h.strip_eq, firstValue_of_early h.reads rfl, Meaning.resolve,
    before_seconds_eq, ok_bind]
  by_cases hpossible : (z.instantOf now).representable = true ∧
      firstInstant ≤ z.instantOf now - n * microsPerSecond
  · rw [if_pos hpossible, if_pos hpossible]
  · rw [if_neg hpossible, if_neg hpossible, hsunday, ok_bind]
    show Except.error (Failure.unreadable (String.ofList time.toList)) = _
    rw [String.ofList_toList]

/-! ### Reference times -/

/-- Taking a reference time to the zone keeps its instant; one that is given as a local time of the
zone stays what it is. -/
def Reference.Returns (reference : Reference) (z : Zone) : Prop :=
  ∀ t, reference = .instant t → z.Returns t

theorem Reference.Returns.instantOf_eq {t : Instant} (h : reference.Returns z)
    (hnow : reference.inZone z = .ok now) (hinstant : reference.instant? z = some t) :
    z.instantOf now = t := by
  cases reference with
  | floating => exact nomatch hinstant
  | instant t' =>
      obtain rfl := Option.some.inj hinstant
      cases hshown : z.shown? t' with
      | none =>
          simp only [Reference.inZone, hshown] at hnow
          exact nomatch hnow
      | some l =>
          simp only [Reference.inZone, hshown] at hnow
          obtain rfl := Except.ok.inj hnow
          exact h t' rfl l hshown
  | wall l =>
      obtain rfl := Except.ok.inj hnow
      exact Option.some.inj hinstant

/-- A minute past the end of the sixth day of year 1, by universal time. -/
def earlyInstant : Instant :=
  firstInstant + 6 * microsPerDay + 60 * microsPerSecond

/-- What a clock at universal time shows then. -/
def earlyNow : LocalTime :=
  ⟨⟨⟨1, 1, 7, by decide⟩, 60 * microsPerSecond, by decide⟩, false⟩

theorem earlyInstant_inZone : (Reference.instant earlyInstant).inZone .utc = .ok earlyNow := by
  rfl

theorem earlyInstant_returns : (Reference.instant earlyInstant).Returns .utc :=
  fun t _ => Zone.utc_returns t

end MediaSearch.TimeString
