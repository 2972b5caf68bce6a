/-
A text has at most one format.

The nine formats are tried in order, but the order never decides: what a text in small
letters looks like already says which format it can have (`Format.shape`).  A duration
ends with the word `ago`; what else begins with a letter ends with a digit, or is the
name of a period, or of a month; and what does not begin with a letter is told apart by
its separators and its length.  Each reader is shown to accept texts of its own shape
only (`shape_of_read`), and so no two accept the same text.
-/
import MediaSearch.Proofs.Text.LowerAscii
import MediaSearch.Proofs.Text.Readers
import MediaSearch.TimeString.Format

namespace MediaSearch.TimeString

open Text

/-! ### What the readers accept -/

namespace Format

theorem readYear_eq_some {text : List Char} {m : Meaning} (h : readYear text = some m) :
    IsRun 4 4 text ∧ m = .year (digitsValue text) := by
  simp only [readYear, Option.bind_eq_bind, Option.bind_eq_some_iff, Option.pure_def,
    Option.some.injEq, Prod.exists] at h
  obtain ⟨year, rest, hyear, _, hdone, rfl⟩ := h
  obtain ⟨digits, rfl, hrun, _, rfl⟩ := number?_eq_some_iff.mp hyear
  rw [done?_eq_some_iff.mp hdone, List.append_nil]
  exact ⟨hrun, rfl⟩

/-- A sign, or none. -/
def IsSign (sign : List Char) : Prop :=
  sign = [] ∨ sign = ['-'] ∨ sign = ['+']

/-- What is checked of the digits before they are a number of milliseconds. -/
private theorem digits_of_checks {length : Nat} {digits : List Char} {tooLarge : Bool}
    {k k' : Unit → Option Meaning} {value : Int} {m : Meaning}
    (h : (if (length ≤ 4 || digits.isEmpty || !digits.all Char.isDigit) = true then none.bind k
      else if maxDigits < digits.length then some (.longMillis digits.length)
      else if tooLarge = true then none.bind k' else some (.millis value)) = some m) :
    digits ≠ [] ∧ (∀ c ∈ digits, c.isDigit = true) ∧ 4 < length ∧
      (m = .millis value ∨ m = .longMillis digits.length) := by
  split at h
  · simp at h
  · rename_i hform
    simp only [Bool.not_eq_true, Bool.or_eq_false_iff, decide_eq_false_iff_not, Bool.not_eq_false',
      List.isEmpty_eq_false_iff, List.all_eq_true] at hform
    refine ⟨hform.1.2, hform.2, by omega, ?_⟩
    split at h
    · exact Or.inr (Option.some.inj h).symm
    · split at h
      · simp at h
      · exact Or.inl (Option.some.inj h).symm

theorem readMillis_eq_some {text : List Char} {m : Meaning} (h : readMillis text = some m) :
    ∃ sign digits value, text = sign ++ digits ∧ IsSign sign ∧ digits ≠ [] ∧
      (∀ c ∈ digits, c.isDigit = true) ∧ 4 < text.length ∧
      (m = .millis value ∨ m = .longMillis digits.length) := by
  unfold readMillis at h
  split at h
  rename_i hsign
  obtain ⟨hne, hdigits, hlen, hm⟩ := digits_of_checks h
  split at hsign
  · obtain ⟨rfl, rfl⟩ := Prod.mk.inj hsign
    exact ⟨['-'], _, _, rfl, Or.inr (Or.inl rfl), hne, hdigits, hlen, hm⟩
  · obtain ⟨rfl, rfl⟩ := Prod.mk.inj hsign
    exact ⟨['+'], _, _, rfl, Or.inr (Or.inr rfl), hne, hdigits, hlen, hm⟩
  · obtain ⟨rfl, rfl⟩ := Prod.mk.inj hsign
    exact ⟨[], _, _, rfl, Or.inl rfl, hne, hdigits, hlen, hm⟩

theorem readSlashDate_eq_some {text : List Char} {m : Meaning} (h : readSlashDate text = some m) :
    ∃ month day year, text = month ++ '/' :: (day ++ '/' :: year) ∧ IsRun 1 2 month ∧
      IsRun 1 2 day ∧ IsRun 4 4 year ∧
      m = .day (digitsValue year) (digitsValue month) (digitsValue day) := by
  simp only [readSlashDate, Option.bind_eq_bind, Option.bind_eq_some_iff, Option.pure_def,
    Option.some.injEq, Prod.exists] at h
  obtain ⟨month, r₁, hmonth, r₂, hslash, day, r₃, hday, r₄, hslash', year, r₅, hyear, _, hdone,
    rfl⟩ := h
  obtain ⟨monthDigits, rfl, hmonthRun, _, rfl⟩ := number?_eq_some_iff.mp hmonth
  obtain rfl := char?_eq_some_iff.mp hslash
  obtain ⟨dayDigits, rfl, hdayRun, _, rfl⟩ := number?_eq_some_iff.mp hday
  obtain rfl := char?_eq_some_iff.mp hslash'
  obtain ⟨yearDigits, rfl, hyearRun, _, rfl⟩ := number?_eq_some_iff.mp hyear
  rw [done?_eq_some_iff.mp hdone, List.append_nil]
  exact ⟨monthDigits, dayDigits, yearDigits, rfl, hmonthRun, hdayRun, hyearRun, rfl⟩

theorem readDashDate_eq_some {text : List Char} {m : Meaning} (h : readDashDate text = some m) :
    ∃ year month day, text = year ++ '-' :: (month ++ '-' :: day) ∧ IsRun 4 4 year ∧
      IsRun 1 2 month ∧ IsRun 1 2 day ∧
      m = .day (digitsValue year) (digitsValue month) (digitsValue day) := by
  simp only [readDashDate, Option.bind_eq_bind, Option.bind_eq_some_iff, Option.pure_def,
    Option.some.injEq, Prod.exists] at h
  obtain ⟨year, r₁, hyear, r₂, hdash, month, r₃, hmonth, r₄, hdash', day, r₅, hday, _, hdone,
    rfl⟩ := h
  obtain ⟨yearDigits, rfl, hyearRun, _, rfl⟩ := number?_eq_some_iff.mp hyear
  obtain rfl := char?_eq_some_iff.mp hdash
  obtain ⟨monthDigits, rfl, hmonthRun, _, rfl⟩ := number?_eq_some_iff.mp hmonth
  obtain rfl := char?_eq_some_iff.mp hdash'
  obtain ⟨dayDigits, rfl, hdayRun, _, rfl⟩ := number?_eq_some_iff.mp hday
  rw [done?_eq_some_iff.mp hdone, List.append_nil]
  exact ⟨yearDigits, monthDigits, dayDigits, rfl, hyearRun, hmonthRun, hdayRun, rfl⟩

/-- A fraction of a second is followed by the rest of the text. -/
theorem suffix_of_fraction? {text rest : List Char} {micro : Nat}
    (h : fraction? text = some (micro, rest)) : rest <:+ text := by
  simp only [fraction?, Option.bind_eq_bind, Option.pure_def] at h
  split at h
  · simp at h
  · simp only [Option.some.injEq, Prod.mk.injEq] at h
    rw [← h.2]
    exact List.dropWhile_suffix _

/-- The last character of a text passes a test. -/
def EndsIn (test : Char → Bool) (text : List Char) : Prop :=
  ∃ front c, text = front ++ [c] ∧ test c = true

theorem EndsIn.of_suffix {test : Char → Bool} {text rest : List Char} (h : EndsIn test rest)
    (hsuffix : rest <:+ text) : EndsIn test text := by
  obtain ⟨front, c, rfl, hc⟩ := h
  obtain ⟨before, rfl⟩ := hsuffix
  exact ⟨before ++ front, c, (List.append_assoc _ _ _).symm, hc⟩

theorem endsIn_of_number? {least most value : Nat} {text : List Char}
    (h : number? (least + 1) most text = some (value, [])) : EndsIn Char.isDigit text := by
  obtain ⟨digits, rfl, hrun, _, _⟩ := number?_eq_some_iff.mp h
  obtain ⟨front, c, rfl, hc⟩ := hrun.eq_concat
  exact ⟨front, c, List.append_nil _, hc⟩

theorem suffix_of_number? {least most value : Nat} {text rest : List Char}
    (h : number? least most text = some (value, rest)) : rest <:+ text := by
  obtain ⟨digits, rfl, _⟩ := number?_eq_some_iff.mp h
  exact List.suffix_append digits rest

theorem suffix_of_char? {c : Char} {text rest : List Char} (h : char? c text = some rest) :
    rest <:+ text := by
  rw [char?_eq_some_iff.mp h]
  exact List.suffix_cons c rest

theorem suffix_of_blanks? {blank : Char → Bool} {text rest : List Char}
    (h : blanks? blank text = some rest) : rest <:+ text := by
  obtain ⟨c, more, rfl, _⟩ := eq_of_blanks?_eq_some h
  exact List.suffix_append (c :: more) rest

/-- Whether a character can end an offset: its mark for universal time, or a digit. -/
def isOffsetEnd (c : Char) : Bool :=
  c == 'Z' || c == 'z' || c.isDigit

theorem endsIn_of_offset? {text : List Char} {west : Bool} {hour minute : Nat}
    (h : offset? text = some (west, hour, minute)) : EndsIn isOffsetEnd text := by
  simp only [offset?, Option.bind_eq_bind, Option.bind_eq_some_iff, Option.pure_def,
    Prod.exists] at h
  obtain ⟨mark, rest, hone, h⟩ := h
  obtain ⟨rfl, hmark⟩ := oneOf?_eq_some_iff.mp hone
  split at h
  · simp only [Option.bind_eq_some_iff, Prod.exists] at h
    obtain ⟨hour, r₁, hhour, r₂, hcolon, minute, r₃, hminute, _, hdone, _⟩ := h
    obtain rfl := done?_eq_some_iff.mp hdone
    obtain ⟨front, c, hr₂, hc⟩ := ((endsIn_of_number? hminute).of_suffix (suffix_of_char? hcolon)
      |>.of_suffix (suffix_of_number? hhour)).of_suffix (List.suffix_cons mark rest)
    exact ⟨front, c, hr₂, by simp [isOffsetEnd, hc]⟩
  · rename_i hutc
    simp only [Option.bind_eq_some_iff] at h
    obtain ⟨_, hdone, _⟩ := h
    obtain rfl := done?_eq_some_iff.mp hdone
    refine ⟨[], mark, rfl, ?_⟩
    simp only [Bool.or_eq_true, beq_iff_eq, isOffsetEnd] at hmark hutc ⊢
    rcases hmark with ((hmark | hmark) | hmark) | hmark
    · exact Or.inl (Or.inl hmark)
    · exact Or.inl (Or.inr hmark)
    · exact absurd (Or.inl hmark) hutc
    · exact absurd (Or.inr hmark) hutc

theorem readLongDate_eq_some {text : List Char} {m : Meaning} (h : readLongDate text = some m) :
    (∃ c rest, text = c :: rest ∧ c.isAlpha = true) ∧ EndsIn Char.isDigit text ∧
      ∃ year month day, m = .day year month day := by
  simp only [readLongDate, Option.bind_eq_bind, Option.bind_eq_some_iff, Option.pure_def,
    Prod.exists] at h
  obtain ⟨month, hmonth, r₁, hblanks, day, r₂, hday, h⟩ := h
  split at h
  · simp at h
  · simp only [Option.bind_eq_some_iff, Prod.exists, Option.some.injEq] at h
    obtain ⟨r₃, hblanks', year, r₄, hyear, _, hdone, rfl⟩ := h
    obtain rfl := done?_eq_some_iff.mp hdone
    refine ⟨?_, ?_, _, _, _, rfl⟩
    · have hunnamed : months.lookup (String.ofList []) = none := by decide
      cases text with
      | nil => exact absurd (hunnamed.symm.trans hmonth) (by simp)
      | cons c rest =>
          refine ⟨c, rest, rfl, ?_⟩
          by_contra hc
          rw [List.takeWhile_cons_of_neg hc, List.map_nil, hunnamed] at hmonth
          simp at hmonth
    · have hcomma : (char? ',' (r₂.dropWhile Char.isAlpha)).getD (r₂.dropWhile Char.isAlpha)
          <:+ r₂.dropWhile Char.isAlpha := by
        cases hc : char? ',' (r₂.dropWhile Char.isAlpha) with
        | none => exact List.suffix_refl _
        | some rest => exact suffix_of_char? hc
      exact (endsIn_of_number? hyear).of_suffix <| (suffix_of_blanks? hblanks').trans <|
        hcomma.trans <| (List.dropWhile_suffix _).trans <| (suffix_of_number? hday).trans <|
        (suffix_of_blanks? hblanks).trans (List.dropWhile_suffix _)

theorem readTimestamp_eq_some {text : List Char} {m : Meaning} (h : readTimestamp text = some m) :
    (∃ c rest, text = c :: rest ∧ c.isDigit = true) ∧ ':' ∈ text ∧ EndsIn isOffsetEnd text ∧
      ∃ fields, m = .stamp fields := by
  unfold readTimestamp at h
  obtain ⟨⟨year, r₁⟩, hyear, h⟩ := Option.bind_eq_some_iff.mp h
  obtain ⟨r₂, hdash, h⟩ := Option.bind_eq_some_iff.mp h
  obtain ⟨⟨month, r₃⟩, hmonth, h⟩ := Option.bind_eq_some_iff.mp h
  obtain ⟨r₄, hdash', h⟩ := Option.bind_eq_some_iff.mp h
  obtain ⟨⟨day, r₅⟩, hday, h⟩ := Option.bind_eq_some_iff.mp h
  obtain ⟨⟨sep, r₆⟩, hsep, h⟩ := Option.bind_eq_some_iff.mp h
  obtain ⟨⟨hour, r₇⟩, hhour, h⟩ := Option.bind_eq_some_iff.mp h
  obtain ⟨r₈, hcolon, h⟩ := Option.bind_eq_some_iff.mp h
  obtain ⟨⟨minute, r₉⟩, hminute, h⟩ := Option.bind_eq_some_iff.mp h
  obtain ⟨r₁₀, hcolon', h⟩ := Option.bind_eq_some_iff.mp h
  obtain ⟨⟨second, r₁₁⟩, hsecond, h⟩ := Option.bind_eq_some_iff.mp h
  have hprefix : ':' :: r₈ <:+ text := by
    rw [← char?_eq_some_iff.mp hcolon]
    have hsepSuffix : r₆ <:+ r₅ := by
      rw [(oneOf?_eq_some_iff.mp hsep).1]
      exact List.suffix_cons sep r₆
    exact (suffix_of_number? hhour).trans <| hsepSuffix.trans <| (suffix_of_number? hday).trans <|
      (suffix_of_char? hdash').trans <| (suffix_of_number? hmonth).trans <|
      (suffix_of_char? hdash).trans (suffix_of_number? hyear)
  have hsuffix : r₁₁ <:+ text :=
    (suffix_of_number? hsecond).trans <| (suffix_of_char? hcolon').trans <|
      (suffix_of_number? hminute).trans <| (List.suffix_cons _ _).trans hprefix
  have hend : EndsIn isOffsetEnd r₁₁ ∧ ∃ fields, m = .stamp fields := by
    dsimp only at h
    split at h
    · rename_i digits hpoint
      obtain ⟨⟨micro, r₁₂⟩, hfraction, h⟩ := Option.bind_eq_some_iff.mp h
      obtain ⟨⟨west, offsetHour, offsetMinute⟩, hoffset, h⟩ := Option.bind_eq_some_iff.mp h
      exact ⟨(endsIn_of_offset? hoffset).of_suffix <|
        (suffix_of_fraction? hfraction).trans (suffix_of_char? hpoint), _, (Option.some.inj h).symm⟩
    · obtain ⟨⟨micro, r₁₂⟩, hnone, h⟩ := Option.bind_eq_some_iff.mp h
      obtain ⟨⟨west, offsetHour, offsetMinute⟩, hoffset, h⟩ := Option.bind_eq_some_iff.mp h
      obtain ⟨rfl, rfl⟩ := Prod.mk.inj (Option.some.inj hnone)
      exact ⟨endsIn_of_offset? hoffset, _, (Option.some.inj h).symm⟩
  obtain ⟨digits, rfl, hrun, _⟩ := number?_eq_some_iff.mp hyear
  obtain ⟨c, more, rfl, hc⟩ := hrun.eq_cons
  exact ⟨⟨c, more ++ r₁, rfl, hc⟩, hprefix.subset (by simp), hend.1.of_suffix hsuffix, hend.2⟩

/-! ### Shapes -/

/-- The format that a text in small letters looks like. -/
def shape (small : List Char) : Format :=
  if (words small).getLast? = some "ago".toList then duration
  else if small.head?.any Char.isAlpha then
    if small.getLast?.any Char.isDigit then longDate
    else if (periods.lookup (String.ofList small)).isSome then period
    else monthName
  else if ':' ∈ small then timestamp
  else if '/' ∈ small then slashDate
  else if '-' ∈ small.tail then dashDate
  else if small.length = 4 then yearNumber
  else millis

/-- The last word of a text that does not end with a blank ends as the text does. -/
theorem wordsAfter_append_singleton {c : Char} (hc : isBlank c = false) :
    ∀ (front taken : List Char), ∃ before word,
      wordsAfter taken (front ++ [c]) = before ++ [word ++ [c]] := by
  intro front
  induction front with
  | nil =>
      intro taken
      exact ⟨[], taken, by simp [wordsAfter, hc]⟩
  | cons d rest ih =>
      intro taken
      rw [List.cons_append, wordsAfter]
      split
      · obtain ⟨before, word, h⟩ := ih []
        exact ⟨_ ++ before, word, by rw [h, List.append_assoc]⟩
      · exact ih _

/-- What ends with an offset or with a digit still does in small letters, where it neither is a
blank nor ends the word of a duration. -/
theorem EndsIn.lower {text : List Char} (h : EndsIn isOffsetEnd text) :
    ∃ front c, lower text = front ++ [c] ∧ isOffsetEnd c = true ∧ isBlank c = false ∧ c ≠ 'o' := by
  obtain ⟨front, c, rfl, hc⟩ := h
  have hall : ∀ n : Fin 128, isOffsetEnd (Char.ofNat n) = true →
      isOffsetEnd (Char.ofNat n).toLower = true ∧ isBlank (Char.ofNat n).toLower = false ∧
        (Char.ofNat n).toLower ≠ 'o' := by decide
  have hascii : IsAscii c := by
    simp only [isOffsetEnd, Bool.or_eq_true, beq_iff_eq] at hc
    rcases hc with (rfl | rfl) | hc
    · decide
    · decide
    · exact isAscii_of_isDigit hc
  obtain ⟨front', after, hlower⟩ := lower_append_cons hascii front []
  refine ⟨front', c.toLower, by rw [hlower, lowerAfter], ?_⟩
  have := hall ⟨c.toNat, hascii⟩
  rw [Char.ofNat_toNat] at this
  exact this hc

/-- What ends with an offset or with a digit does not end with the word of a duration. -/
theorem not_ago_of_endsIn {text : List Char} (h : EndsIn isOffsetEnd text) :
    (words (lower text)).getLast? ≠ some "ago".toList := by
  obtain ⟨front, c, hlower, -, hblank, hletter⟩ := h.lower
  obtain ⟨before, word, hwords⟩ := wordsAfter_append_singleton hblank front []
  intro hlast
  rw [hlower, words, hwords, List.getLast?_concat, Option.some.injEq] at hlast
  have hend := congrArg List.getLast? hlast
  rw [List.getLast?_concat] at hend
  exact hletter (Option.some.inj hend)

/-- What ends with a run of digits ends with a digit. -/
theorem endsIn_append_digits {front digits : List Char} (hne : digits ≠ [])
    (hdigits : ∀ c ∈ digits, c.isDigit = true) : EndsIn Char.isDigit (front ++ digits) := by
  rcases List.eq_nil_or_concat digits with rfl | ⟨before, c, rfl⟩
  · exact absurd rfl hne
  · exact ⟨front ++ before, c, by simp, hdigits c (by simp)⟩

theorem EndsIn.offsetEnd {text : List Char} (h : EndsIn Char.isDigit text) :
    EndsIn isOffsetEnd text := by
  obtain ⟨front, c, htext, hc⟩ := h
  exact ⟨front, c, htext, by simp [isOffsetEnd, hc]⟩

/-- A text of digits and the marks of dates and signs. -/
def IsNumeric (text : List Char) : Prop :=
  ∀ c ∈ text, c.isDigit = true ∨ c = '/' ∨ c = '-' ∨ c = '+'

/-- Such a text has the same shape in small letters, and it is told by its marks and its length. -/
theorem shape_of_numeric {text : List Char} (hnum : IsNumeric text)
    (hend : EndsIn Char.isDigit text) :
    shape (lower text) =
      if '/' ∈ text then slashDate
      else if '-' ∈ text.tail then dashDate
      else if text.length = 4 then yearNumber
      else millis := by
  have hplain : ∀ c ∈ text, IsAscii c ∧ c.isAlpha = false ∧ c ≠ ':' := by
    intro c hc
    rcases hnum c hc with hdigit | rfl | rfl | rfl
    · refine ⟨isAscii_of_isDigit hdigit, isAlpha_of_isDigit hdigit, ?_⟩
      rintro rfl
      exact absurd hdigit (by decide)
    all_goals decide
  have hsmall : lower text = text :=
    lower_eq_self fun c hc => ⟨(hplain c hc).1, toLower_of_not_isAlpha (hplain c hc).2.1⟩
  have hhead : text.head?.any Char.isAlpha = false := by
    cases text with
    | nil => rfl
    | cons c rest => exact (hplain c (by simp)).2.1
  have hcolon : ':' ∉ text := fun hin => (hplain ':' hin).2.2 rfl
  have hago := not_ago_of_endsIn hend.offsetEnd
  rw [hsmall] at hago ⊢
  rw [shape, if_neg hago, if_neg (by simp [hhead]), if_neg hcolon]

theorem not_mem_of_digits {digits : List Char} (h : ∀ c ∈ digits, c.isDigit = true) (mark : Char)
    (hmark : mark.isDigit = false) : mark ∉ digits := by
  intro hin
  rw [h mark hin] at hmark
  simp at hmark

theorem shape_of_readYear {text : List Char} {m : Meaning} (h : readYear text = some m) :
    shape (lower text) = yearNumber := by
  obtain ⟨hrun, -⟩ := readYear_eq_some h
  rw [shape_of_numeric (fun c hc => Or.inl (hrun.digit c hc)) ?_,
    if_neg (not_mem_of_digits hrun.digit _ (by decide)),
    if_neg fun hin => not_mem_of_digits hrun.digit _ (by decide) (List.mem_of_mem_tail hin),
    if_pos (by have := hrun.least_le; have := hrun.le_most; omega)]
  obtain ⟨front, c, rfl, hc⟩ := hrun.eq_concat
  exact ⟨front, c, rfl, hc⟩

/-- A sign, or none, and digits, in more than four characters, look like milliseconds. -/
theorem shape_of_signed {sign digits : List Char} (hsign : IsSign sign) (hne : digits ≠ [])
    (hdigits : ∀ c ∈ digits, c.isDigit = true) (hlen : 4 < (sign ++ digits).length) :
    shape (lower (sign ++ digits)) = millis := by
  have hslash := not_mem_of_digits hdigits '/' (by decide)
  have hdash := not_mem_of_digits hdigits '-' (by decide)
  have hmark : IsNumeric (sign ++ digits) ∧ '/' ∉ sign ++ digits ∧ '-' ∉ (sign ++ digits).tail := by
    rcases hsign with rfl | rfl | rfl
    · exact ⟨fun c hc => Or.inl (hdigits c hc), hslash, fun hin => hdash (List.mem_of_mem_tail hin)⟩
    all_goals
      refine ⟨?_, by simp [hslash], hdash⟩
      intro c hc
      rcases List.mem_cons.mp hc with rfl | hc
      · simp
      · exact Or.inl (hdigits c hc)
  rw [shape_of_numeric hmark.1 (endsIn_append_digits hne hdigits), if_neg hmark.2.1, if_neg hmark.2.2,
    if_neg (by omega)]

theorem shape_of_readMillis {text : List Char} {m : Meaning} (h : readMillis text = some m) :
    shape (lower text) = millis := by
  obtain ⟨sign, digits, value, rfl, hsign, hne, hdigits, hlen, -⟩ := readMillis_eq_some h
  exact shape_of_signed hsign hne hdigits hlen

theorem shape_of_readSlashDate {text : List Char} {m : Meaning} (h : readSlashDate text = some m) :
    shape (lower text) = slashDate := by
  obtain ⟨month, day, year, rfl, hmonth, hday, hyear, -⟩ := readSlashDate_eq_some h
  rw [shape_of_numeric ?_ ?_, if_pos (by simp)]
  · intro c hc
    simp only [List.mem_append, List.mem_cons] at hc
    rcases hc with hc | rfl | hc | rfl | hc
    · exact Or.inl (hmonth.digit c hc)
    · simp
    · exact Or.inl (hday.digit c hc)
    · simp
    · exact Or.inl (hyear.digit c hc)
  · obtain ⟨front, c, rfl, hc⟩ := hyear.eq_concat
    exact ⟨month ++ '/' :: (day ++ '/' :: front), c, by simp, hc⟩

theorem shape_of_readDashDate {text : List Char} {m : Meaning} (h : readDashDate text = some m) :
    shape (lower text) = dashDate := by
  obtain ⟨year, month, day, rfl, hyear, hmonth, hday, -⟩ := readDashDate_eq_some h
  have hslash : '/' ∉ year ++ '-' :: (month ++ '-' :: day) := by
    simp [not_mem_of_digits hyear.digit '/' (by decide),
      not_mem_of_digits hmonth.digit '/' (by decide),
      not_mem_of_digits hday.digit '/' (by decide)]
  have hdash : '-' ∈ (year ++ '-' :: (month ++ '-' :: day)).tail := by
    obtain ⟨c, rest, rfl, -⟩ := hyear.eq_cons
    simp
  rw [shape_of_numeric ?_ ?_, if_neg hslash, if_pos hdash]
  · intro c hc
    simp only [List.mem_append, List.mem_cons] at hc
    rcases hc with hc | rfl | hc | rfl | hc
    · exact Or.inl (hyear.digit c hc)
    · simp
    · exact Or.inl (hmonth.digit c hc)
    · simp
    · exact Or.inl (hday.digit c hc)
  · obtain ⟨front, c, rfl, hc⟩ := hday.eq_concat
    exact ⟨year ++ '-' :: (month ++ '-' :: front), c, by simp, hc⟩

/-- What begins with a digit, ends with an offset and has a colon looks like a timestamp. -/
theorem shape_of_clockTime {text : List Char}
    (hfirst : ∃ c rest, text = c :: rest ∧ c.isDigit = true) (hcolon : ':' ∈ text)
    (hend : EndsIn isOffsetEnd text) : shape (lower text) = timestamp := by
  obtain ⟨c, rest, htext, hc⟩ := hfirst
  have hhead : (lower text).head?.any Char.isAlpha = false := by
    obtain ⟨after, hlower⟩ := lowerAfter_cons false (isAscii_of_isDigit hc) rest
    have hsame := toLower_of_not_isAlpha (isAlpha_of_isDigit hc)
    rw [htext, lower, hlower, hsame]
    exact isAlpha_of_isDigit hc
  have hsmallColon : ':' ∈ lower text := mem_lower (c := ':') (by decide) hcolon
  rw [shape, if_neg (not_ago_of_endsIn hend), if_neg (by simp [hhead]), if_pos hsmallColon]

theorem shape_of_readTimestamp {text : List Char} {m : Meaning} (h : readTimestamp text = some m) :
    shape (lower text) = timestamp := by
  obtain ⟨hfirst, hcolon, hend, -⟩ := readTimestamp_eq_some h
  exact shape_of_clockTime hfirst hcolon hend

theorem shape_of_readLongDate {text : List Char} {m : Meaning} (h : readLongDate text = some m) :
    shape (lower text) = longDate := by
  obtain ⟨⟨c, rest, htext, hc⟩, hend, -⟩ := readLongDate_eq_some h
  have hhead : (lower text).head?.any Char.isAlpha = true := by
    obtain ⟨after, hlower⟩ := lowerAfter_cons false (isAscii_of_isAlpha hc) rest
    rw [htext, lower, hlower]
    exact isAlpha_toLower hc
  have hlast : (lower text).getLast?.any Char.isDigit = true := by
    obtain ⟨front, d, rfl, hd⟩ := hend
    obtain ⟨front', after, hlower⟩ := lower_append_cons (isAscii_of_isDigit hd) front []
    have hsame := toLower_of_not_isAlpha (isAlpha_of_isDigit hd)
    rw [hlower, lowerAfter, List.getLast?_concat, hsame]
    exact hd
  rw [shape, if_neg (not_ago_of_endsIn hend.offsetEnd), if_pos hhead, if_pos hlast]

theorem readDuration_eq_some {text : List Char} {m : Meaning} (h : readDuration text = some m) :
    (words (lower text)).getLast? = some "ago".toList ∧
      ((∃ duration, m = .ago duration) ∨ ∃ digits, m = .longAgo digits) := by
  unfold readDuration at h
  split at h
  · rename_i count unit last hwords
    split at h
    · rename_i hago
      refine ⟨by rw [hwords, beq_iff_eq.mp hago]; rfl, ?_⟩
      split at h
      · obtain ⟨length, -, rfl⟩ := Option.map_eq_some_iff.mp h
        exact Or.inl ⟨_, rfl⟩
      · split at h
        · obtain ⟨length, -, rfl⟩ := Option.map_eq_some_iff.mp h
          split
          · exact Or.inr ⟨_, rfl⟩
          · exact Or.inl ⟨_, rfl⟩
        · simp at h
    · simp at h
  · simp at h

theorem shape_of_readDuration {text : List Char} {m : Meaning} (h : readDuration text = some m) :
    shape (lower text) = duration := by
  rw [shape, if_pos (readDuration_eq_some h).1]

theorem shape_of_readPeriod {text : List Char} {m : Meaning} (h : readPeriod text = some m) :
    shape (lower text) = period := by
  have hall : ∀ entry ∈ periods, shape entry.1.toList = period := by decide
  obtain ⟨name, hname, -⟩ := Option.map_eq_some_iff.mp h
  obtain ⟨before, behind, htable, -⟩ := List.lookup_eq_some_iff.mp hname
  have := hall (String.ofList (lower text), name) (by rw [htable]; simp)
  rwa [String.toList_ofList] at this

theorem shape_of_readMonthName {text : List Char} {m : Meaning} (h : readMonthName text = some m) :
    shape (lower text) = monthName := by
  have hall : ∀ entry ∈ months, shape entry.1.toList = monthName := by decide
  obtain ⟨number, hnumber, -⟩ := Option.map_eq_some_iff.mp h
  obtain ⟨before, behind, htable, -⟩ := List.lookup_eq_some_iff.mp hnumber
  have := hall (String.ofList (lower text), number) (by rw [htable]; simp)
  rwa [String.toList_ofList] at this

/-- What a format reads has the shape of that format. -/
theorem shape_of_read {format : Format} {text : List Char} {m : Meaning}
    (h : format.read text = some m) : shape (lower text) = format := by
  cases format with
  | timestamp => exact shape_of_readTimestamp h
  | duration => exact shape_of_readDuration h
  | period => exact shape_of_readPeriod h
  | monthName => exact shape_of_readMonthName h
  | yearNumber => exact shape_of_readYear h
  | millis => exact shape_of_readMillis h
  | slashDate => exact shape_of_readSlashDate h
  | longDate => exact shape_of_readLongDate h
  | dashDate => exact shape_of_readDashDate h

/-- The kind of meaning that a format has. -/
inductive Says : Format → Meaning → Prop
  | timestamp (fields : Stamp) : Says .timestamp (.stamp fields)
  | duration (length : Duration) : Says .duration (.ago length)
  | longDuration (digits : Nat) : Says .duration (.longAgo digits)
  | period (name : Period) : Says .period (.period name)
  | monthName (number : Int) : Says .monthName (.month number)
  | yearNumber (number : Int) : Says .yearNumber (.year number)
  | millis (value : Int) : Says .millis (.millis value)
  | longMillis (digits : Nat) : Says .millis (.longMillis digits)
  | slashDate (year month day : Int) : Says .slashDate (.day year month day)
  | longDate (year month day : Int) : Says .longDate (.day year month day)
  | dashDate (year month day : Int) : Says .dashDate (.day year month day)

theorem says_of_read {format : Format} {text : List Char} {m : Meaning}
    (h : format.read text = some m) : Says format m := by
  cases format with
  | timestamp =>
      obtain ⟨-, -, -, fields, rfl⟩ := readTimestamp_eq_some h
      exact .timestamp fields
  | duration =>
      obtain ⟨-, ⟨length, rfl⟩ | ⟨digits, rfl⟩⟩ := readDuration_eq_some h
      · exact .duration length
      · exact .longDuration digits
  | period =>
      obtain ⟨name, -, rfl⟩ := Option.map_eq_some_iff.mp h
      exact .period name
  | monthName =>
      obtain ⟨number, -, rfl⟩ := Option.map_eq_some_iff.mp h
      exact .monthName number
  | yearNumber =>
      obtain ⟨-, rfl⟩ := readYear_eq_some h
      exact .yearNumber _
  | millis =>
      obtain ⟨_, _, value, -, -, -, -, -, rfl | rfl⟩ := readMillis_eq_some h
      · exact .millis value
      · exact .longMillis _
  | slashDate =>
      obtain ⟨_, _, _, -, -, -, -, rfl⟩ := readSlashDate_eq_some h
      exact .slashDate _ _ _
  | longDate =>
      obtain ⟨-, -, _, _, _, rfl⟩ := readLongDate_eq_some h
      exact .longDate _ _ _
  | dashDate =>
      obtain ⟨_, _, _, -, -, -, -, rfl⟩ := readDashDate_eq_some h
      exact .dashDate _ _ _

end Format

/-- The text says `m` in one of the formats. -/
def Reads (text : List Char) (m : Meaning) : Prop :=
  ∃ format : Format, format.read text = some m

/-- **A text is of one format at most, and says one thing at most.** -/
theorem read_unique {format format' : Format} {text : List Char} {m m' : Meaning}
    (h : format.read text = some m) (h' : format'.read text = some m') :
    format = format' ∧ m = m' := by
  obtain rfl : format = format' := (Format.shape_of_read h).symm.trans (Format.shape_of_read h')
  exact ⟨rfl, Option.some.inj (h.symm.trans h')⟩

theorem Reads.unique {text : List Char} {m m' : Meaning} (h : Reads text m) (h' : Reads text m') :
    m = m' := by
  obtain ⟨format, h⟩ := h
  obtain ⟨format', h'⟩ := h'
  exact (read_unique h h').2

end MediaSearch.TimeString
