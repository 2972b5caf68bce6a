/-
Time strings in capitals and in small letters.

Each of the nine formats reads the same from a text and from the text in small letters
(`read_map_toLower`), but not all for one reason.  Durations, periods and the names of months are
looked up in small letters of all scripts; the marks of a timestamp are accepted in both cases; a
long date puts its words in small letters of ASCII; and the other formats have no letters at all.

So what two texts stand for is the same when they become the same in small letters
(`firstValue_alike`).  Only a text that stands for nothing is reported as it was written.
-/
import MediaSearch.Calendar.ZoneNames
import MediaSearch.Proofs.Text.LetterCase
import MediaSearch.Proofs.TimeString.Outcome

namespace MediaSearch.TimeString

open Calendar
open Text

variable {text text' : List Char} {z : Zone} {now : LocalTime}

namespace Format

/-! ### Formats with letters -/

theorem fraction?_map_toLower (text : List Char) :
    fraction? (text.map Char.toLower) = (fraction? text).map restToLower := by
  unfold fraction?
  simp only [takeWhile_isDigit_map_toLower, dropWhile_map_toLower ignoresCase_isDigit]
  split <;> rfl

theorem offset?_map_toLower (text : List Char) :
    offset? (text.map Char.toLower) = offset? text := by
  have hmark : IgnoresCase fun c => c == 'Z' || c == 'z' || c == '+' || c == '-' :=
    ignoresCase_of_ascii (by decide)
  have hplus : IgnoresCase (· == '+') := ignoresCase_of_ascii (by decide)
  have hminus : IgnoresCase (· == '-') := ignoresCase_of_ascii (by decide)
  have hcolon : IgnoresCase (· == ':') := ignoresCase_of_ascii (by decide)
  unfold offset?
  refine bind_eq_of_map (oneOf?_map_toLower hmark text) fun (mark, rest) => ?_
  simp only [hplus mark, hminus mark]
  split
  · refine bind_eq_of_map (number?_map_toLower 2 2 rest) fun (hour, rest) => ?_
    refine bind_eq_of_map (char?_map_toLower hcolon rest) fun rest => ?_
    refine bind_eq_of_map (number?_map_toLower 2 2 rest) fun (minute, rest) => ?_
    simp only [restToLower, done?_map_toLower]
  · rw [done?_map_toLower]

theorem readTimestamp_map_toLower (text : List Char) :
    readTimestamp (text.map Char.toLower) = readTimestamp text := by
  have hdash : IgnoresCase (· == '-') := ignoresCase_of_ascii (by decide)
  have hcolon : IgnoresCase (· == ':') := ignoresCase_of_ascii (by decide)
  have hpoint : IgnoresCase (· == '.') := ignoresCase_of_ascii (by decide)
  have hmark : IgnoresCase fun c => c == 'T' || c == 't' || c == ' ' :=
    ignoresCase_of_ascii (by decide)
  unfold readTimestamp
  refine bind_eq_of_map (number?_map_toLower 4 4 text) fun (year, rest) => ?_
  refine bind_eq_of_map (char?_map_toLower hdash rest) fun rest => ?_
  refine bind_eq_of_map (number?_map_toLower 2 2 rest) fun (month, rest) => ?_
  refine bind_eq_of_map (char?_map_toLower hdash rest) fun rest => ?_
  refine bind_eq_of_map (number?_map_toLower 2 2 rest) fun (day, rest) => ?_
  refine bind_eq_of_map (oneOf?_map_toLower hmark rest) fun (mark, rest) => ?_
  refine bind_eq_of_map (number?_map_toLower 2 2 rest) fun (hour, rest) => ?_
  refine bind_eq_of_map (char?_map_toLower hcolon rest) fun rest => ?_
  refine bind_eq_of_map (number?_map_toLower 2 2 rest) fun (minute, rest) => ?_
  refine bind_eq_of_map (char?_map_toLower hcolon rest) fun rest => ?_
  refine bind_eq_of_map (number?_map_toLower 2 2 rest) fun (second, rest) => ?_
  simp only [restToLower, char?_map_toLower hpoint]
  cases char? '.' rest with
  | some digits =>
      refine bind_eq_of_map (fraction?_map_toLower digits) fun (micro, rest) => ?_
      simp only [restToLower, offset?_map_toLower]
  | none => simp only [Option.map_none, Option.bind_eq_bind, Option.bind_some, offset?_map_toLower]

theorem readLongDate_map_toLower (text : List Char) :
    readLongDate (text.map Char.toLower) = readLongDate text := by
  have hcomma : ∀ text : List Char,
      (char? ',' (text.map Char.toLower)).getD (text.map Char.toLower)
        = ((char? ',' text).getD text).map Char.toLower := by
    intro text
    rw [char?_map_toLower (ignoresCase_of_ascii (by decide))]
    cases char? ',' text <;> rfl
  unfold readLongDate
  simp only [takeWhile_map_toLower ignoresCase_isAlpha,
    dropWhile_map_toLower ignoresCase_isAlpha, map_toLower_map_toLower]
  refine congrArg _ (funext fun month => ?_)
  refine bind_eq_of_map (blanks?_map_toLower ignoresCase_isPlainBlank _) fun rest => ?_
  refine bind_eq_of_map (number?_map_toLower 1 2 rest) fun (day, rest) => ?_
  simp only [restToLower, takeWhile_map_toLower ignoresCase_isAlpha,
    dropWhile_map_toLower ignoresCase_isAlpha, map_toLower_map_toLower, hcomma]
  split
  · rfl
  · refine bind_eq_of_map (blanks?_map_toLower ignoresCase_isPlainBlank _) fun rest => ?_
    refine bind_eq_of_map (number?_map_toLower 4 4 rest) fun (year, rest) => ?_
    simp only [restToLower, done?_map_toLower]

theorem readDuration_map_toLower (text : List Char) :
    readDuration (text.map Char.toLower) = readDuration text := by
  rw [readDuration, readDuration, lower_map_toLower]

theorem readPeriod_map_toLower (text : List Char) :
    readPeriod (text.map Char.toLower) = readPeriod text := by
  rw [readPeriod, readPeriod, lower_map_toLower]

theorem readMonthName_map_toLower (text : List Char) :
    readMonthName (text.map Char.toLower) = readMonthName text := by
  rw [readMonthName, readMonthName, lower_map_toLower]

/-! ### Formats without letters -/

/-- A run of digits has no letters. -/
theorem letterless_of_isRun {least most : Nat} {digits : List Char} (h : IsRun least most digits) :
    ∀ c ∈ digits, c.isAlpha = false :=
  fun c hc => isAlpha_of_isDigit (h.digit c hc)

/-- The formats that consist of digits and marks between them. -/
def isNumeric : Format → Bool
  | yearNumber | millis | slashDate | dashDate => true
  | _ => false

theorem letterless_of_read {format : Format} (hnumeric : format.isNumeric = true) {m : Meaning}
    (h : format.read text = some m) : ∀ c ∈ text, c.isAlpha = false := by
  cases format with
  | yearNumber => exact letterless_of_isRun (readYear_eq_some h).1
  | millis =>
      obtain ⟨sign, digits, _, rfl, hsign, -, hdigits, -, -⟩ := readMillis_eq_some h
      refine List.forall_mem_append.mpr ⟨?_, fun c hc => isAlpha_of_isDigit (hdigits c hc)⟩
      rcases hsign with rfl | rfl | rfl
      · exact List.forall_mem_nil _
      · exact List.forall_mem_singleton.mpr (by decide)
      · exact List.forall_mem_singleton.mpr (by decide)
  | slashDate =>
      obtain ⟨month, day, year, rfl, hmonth, hday, hyear, -⟩ := readSlashDate_eq_some h
      simp only [List.forall_mem_append, List.forall_mem_cons]
      exact ⟨letterless_of_isRun hmonth, by decide, letterless_of_isRun hday, by decide,
        letterless_of_isRun hyear⟩
  | dashDate =>
      obtain ⟨year, month, day, rfl, hyear, hmonth, hday, -⟩ := readDashDate_eq_some h
      simp only [List.forall_mem_append, List.forall_mem_cons]
      exact ⟨letterless_of_isRun hyear, by decide, letterless_of_isRun hmonth, by decide,
        letterless_of_isRun hday⟩
  | timestamp => exact nomatch hnumeric
  | duration => exact nomatch hnumeric
  | period => exact nomatch hnumeric
  | monthName => exact nomatch hnumeric
  | longDate => exact nomatch hnumeric

/-- **Each format reads the same in small letters.** -/
theorem read_map_toLower (format : Format) (text : List Char) :
    format.read (text.map Char.toLower) = format.read text := by
  cases format with
  | timestamp => exact readTimestamp_map_toLower text
  | duration => exact readDuration_map_toLower text
  | period => exact readPeriod_map_toLower text
  | monthName => exact readMonthName_map_toLower text
  | longDate => exact readLongDate_map_toLower text
  | yearNumber => exact read_map_toLower_of_letterless (letterless_of_read rfl) text
  | millis => exact read_map_toLower_of_letterless (letterless_of_read rfl) text
  | slashDate => exact read_map_toLower_of_letterless (letterless_of_read rfl) text
  | dashDate => exact read_map_toLower_of_letterless (letterless_of_read rfl) text

theorem read_alike (h : text.map Char.toLower = text'.map Char.toLower) (format : Format) :
    format.read text = format.read text' := by
  rw [← read_map_toLower, h, read_map_toLower]

theorem value_alike (h : text.map Char.toLower = text'.map Char.toLower) (format : Format) :
    format.value text now z = format.value text' now z := by
  rw [value, value, read_alike h]

end Format

/-! ### What a text stands for -/

/-- **Behind texts that become the same in small letters there is one answer.** -/
theorem firstValue_alike (h : text.map Char.toLower = text'.map Char.toLower)
    (formats : List Format) : ∃ result : Except Failure (Option TimeSpec),
      firstValue text now z formats = result >>= answer text ∧
        firstValue text' now z formats = result >>= answer text' := by
  induction formats with
  | nil => exact ⟨.ok none, rfl, rfl⟩
  | cons format rest ih =>
      obtain ⟨result, hresult, hresult'⟩ := ih
      rw [firstValue, firstValue, hresult, hresult', Format.value_alike h]
      cases format.value text' now z with
      | error f => exact ⟨.error f, rfl, rfl⟩
      | ok value =>
          cases value with
          | some spec => exact ⟨.ok (some spec), rfl, rfl⟩
          | none => exact ⟨result, rfl, rfl⟩

/-- **Time strings ignore the case of ASCII letters, and the blanks around them.**  Strings that
become the same when they are stripped and put in small letters of ASCII stand for the same moment
or range, or fail alike, whenever and wherever they are read; a failure differs only in that an
unreadable string is reported as it was written. -/
theorem letter_case_ignored {s t : String}
    (h : (strip s.toList).map Char.toLower = (strip t.toList).map Char.toLower)
    (reference : Reference) (z : Zone) :
    resolve s reference z = resolve t reference z ∨
      (resolve s reference z = .error (.unreadable (stripped s)) ∧
        resolve t reference z = .error (.unreadable (stripped t))) := by
  cases hnow : reference.inZone z with
  | error f => exact Or.inl (by rw [resolve, resolve, hnow]; rfl)
  | ok now =>
      rw [resolve_of_inZone hnow, resolve_of_inZone hnow]
      obtain ⟨result, hs, ht⟩ := firstValue_alike h Format.all
      rw [hs, ht]
      cases result with
      | error f => exact Or.inl rfl
      | ok value =>
          cases value with
          | some spec => exact Or.inl rfl
          | none => exact Or.inr ⟨rfl, rfl⟩

/-- Two weeks before 1970 in two ways, both with a kelvin sign: it is no letter of ASCII, but its
small letter is one. -/
theorem letter_case_ignored_at_epoch :
    (strip "\u3000 2 WEE\u212as Ago\n".toList).map Char.toLower
        = (strip "2 wee\u212aS aGO\u00a0".toList).map Char.toLower ∧
      resolve "\u3000 2 WEE\u212as Ago\n" (.instant 0) .utc = .ok (.moment (-1209600000)) ∧
      resolve "2 wee\u212aS aGO\u00a0" (.instant 0) .utc = .ok (.moment (-1209600000)) := by
  have hsame : (strip "\u3000 2 WEE\u212as Ago\n".toList).map Char.toLower
      = (strip "2 wee\u212aS aGO\u00a0".toList).map Char.toLower := by decide +kernel
  have hvalue : resolve "\u3000 2 WEE\u212as Ago\n" (.instant 0) .utc
      = .ok (.moment (-1209600000)) := by decide +kernel
  refine ⟨hsame, hvalue, ?_⟩
  rcases letter_case_ignored hsame (.instant 0) .utc with heq | ⟨hunreadable, -⟩
  · exact heq.symm.trans hvalue
  · exact nomatch hunreadable.symm.trans hvalue

end MediaSearch.TimeString
