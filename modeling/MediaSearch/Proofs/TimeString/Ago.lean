/-
Durations as they are written.

A text is cut into words at its blanks, however many stand in a row (`words_append_spacing`).  So
digits, the name of a unit and the word `ago`, with blanks between them, are the three words of a
duration whatever their capitals, and what it says is so many of the unit (`readDuration_count`);
`a` stands for one (`readDuration_one`).  A natural number is written in digits that give the
number back.
-/
import MediaSearch.Proofs.Text.Digits
import MediaSearch.Proofs.TimeString.Outcome

namespace MediaSearch.TimeString

open Text

namespace Format

/-! ### Words -/

theorem wordsAfter_append {word rest : List Char} (hword : ∀ c ∈ word, isBlank c = false) :
    ∀ taken, wordsAfter taken (word ++ rest) = wordsAfter (taken ++ word) rest := by
  induction word with
  | nil => simp
  | cons c word ih =>
      intro taken
      obtain ⟨hc, hrest⟩ := List.forall_mem_cons.mp hword
      rw [List.cons_append, wordsAfter, if_neg (by simp [hc]), ih hrest, List.append_assoc,
        List.singleton_append]

/-- Blanks in front of a text are not part of any word. -/
theorem words_spacing_append {gap rest : List Char} (hgap : ∀ c ∈ gap, isBlank c = true) :
    words (gap ++ rest) = words rest := by
  induction gap with
  | nil => rfl
  | cons c gap ih =>
      obtain ⟨hc, hrest⟩ := List.forall_mem_cons.mp hgap
      rw [← ih hrest, List.cons_append, words, wordsAfter, if_pos hc]
      rfl

/-- The first word of a text ends at a blank, and the next one begins behind it and all the blanks
that follow. -/
theorem words_append_spacing {word gap rest : List Char} (hword : ∀ c ∈ word, isBlank c = false)
    (hne : word ≠ []) (hgap : ∀ c ∈ gap, isBlank c = true) (hne' : gap ≠ []) :
    words (word ++ gap ++ rest) = word :: words rest := by
  obtain ⟨c, more, rfl⟩ := List.exists_cons_of_ne_nil hne'
  obtain ⟨hc, hmore⟩ := List.forall_mem_cons.mp hgap
  have hafter : words (word ++ c :: (more ++ rest)) = word :: words (more ++ rest) := by
    rw [words, wordsAfter_append hword, wordsAfter, if_pos hc, List.nil_append,
      if_neg (by simpa using hne)]
    rfl
  calc words (word ++ c :: more ++ rest)
    _ = words (word ++ c :: (more ++ rest)) := by rw [List.append_assoc, List.cons_append]
    _ = word :: words rest := by rw [hafter, words_spacing_append hmore]

/-- A text without a blank is one word. -/
theorem words_eq_singleton {word : List Char} (hword : ∀ c ∈ word, isBlank c = false)
    (hne : word ≠ []) : words word = [word] := by
  have htaken := @wordsAfter_append _ [] hword []
  rw [List.append_nil, List.nil_append] at htaken
  rw [words, htaken, wordsAfter, if_neg (by simpa using hne)]

/-! ### Three words -/

/-- A word of ASCII letters and digits. -/
def IsWord (word : List Char) : Prop :=
  word ≠ [] ∧ ∀ c ∈ word, c.isAlphanum = true

instance (word : List Char) : Decidable (IsWord word) :=
  @instDecidableAnd _ _ _ (List.decidableBAll _ word)

/-- What stands between two words: blanks, and at least one. -/
def IsSpacing (gap : List Char) : Prop :=
  gap ≠ [] ∧ ∀ c ∈ gap, isBlank c = true

instance (gap : List Char) : Decidable (IsSpacing gap) :=
  @instDecidableAnd _ _ _ (List.decidableBAll _ gap)

variable {word gap gap' count digits unit last : List Char} {article : Char} {length : Duration}

theorem IsWord.not_isBlank (h : IsWord word) : ∀ c ∈ word, isBlank c = false :=
  fun c hc => not_isBlank_of_isAlphanum (h.2 c hc)

theorem IsWord.lowersAlone (h : IsWord word) : ∀ c ∈ word, LowersAlone c := by
  intro c hc
  refine lowersAlone_of_isAscii ?_
  rcases Bool.or_eq_true_iff.mp (h.2 c hc) with hletter | hdigit
  · exact isAscii_of_isAlpha hletter
  · exact isAscii_of_isDigit hdigit

theorem isAlphanum_toLower_iff {c : Char} : c.toLower.isAlphanum = true ↔ c.isAlphanum = true := by
  cases hletter : c.isAlpha with
  | true =>
      have hsmall := isAlpha_toLower hletter
      simp [Char.isAlphanum, hletter, hsmall]
  | false => rw [toLower_of_not_isAlpha hletter]

/-- A word stays one in small letters, and is one if it becomes one. -/
theorem isWord_map_toLower_iff : IsWord (word.map Char.toLower) ↔ IsWord word := by
  simp [IsWord, isAlphanum_toLower_iff]

theorem isWord_of_isDigit (hne : digits ≠ []) (hdigits : ∀ c ∈ digits, c.isDigit = true) :
    IsWord digits :=
  ⟨hne, fun c hc => Bool.or_eq_true_iff.mpr (.inr (hdigits c hc))⟩

/-- Digits have no small letters. -/
theorem map_toLower_digits (hdigits : ∀ c ∈ digits, c.isDigit = true) :
    digits.map Char.toLower = digits :=
  map_toLower_eq_self fun c hc => toLower_of_not_isAlpha (isAlpha_of_isDigit (hdigits c hc))

theorem IsSpacing.map_toLower (h : IsSpacing gap) : gap.map Char.toLower = gap :=
  map_toLower_eq_self fun c hc => toLower_of_isBlank (h.2 c hc)

/-- Three words with blanks between them. -/
def spaced (count gap unit gap' last : List Char) : List Char :=
  count ++ gap ++ (unit ++ gap' ++ last)

/-- In small letters they are the three words in small letters. -/
theorem words_lower_spaced (hcount : IsWord count) (hgap : IsSpacing gap) (hunit : IsWord unit)
    (hgap' : IsSpacing gap') (hlast : IsWord last) :
    words (lower (spaced count gap unit gap' last))
      = [count.map Char.toLower, unit.map Char.toLower, last.map Char.toLower] := by
  have hlower : lower (spaced count gap unit gap' last)
      = spaced (count.map Char.toLower) gap (unit.map Char.toLower) gap' (last.map Char.toLower) := by
    rw [lower_eq_map]
    · simp only [spaced, List.map_append, hgap.map_toLower, hgap'.map_toLower]
    · intro c hc
      simp only [spaced, List.mem_append] at hc
      rcases hc with (hc | hc) | (hc | hc) | hc
      · exact hcount.lowersAlone c hc
      · exact lowersAlone_of_isBlank (hgap.2 c hc)
      · exact hunit.lowersAlone c hc
      · exact lowersAlone_of_isBlank (hgap'.2 c hc)
      · exact hlast.lowersAlone c hc
  have hcount' := isWord_map_toLower_iff.mpr hcount
  have hunit' := isWord_map_toLower_iff.mpr hunit
  have hlast' := isWord_map_toLower_iff.mpr hlast
  rw [hlower, spaced, words_append_spacing hcount'.not_isBlank hcount'.1 hgap.2 hgap.1,
    words_append_spacing hunit'.not_isBlank hunit'.1 hgap'.2 hgap'.1,
    words_eq_singleton hlast'.not_isBlank hlast'.1]

/-- They have no blanks at their ends. -/
theorem strip_spaced (hcount : IsWord count) (hlast : IsWord last) :
    strip (spaced count gap unit gap' last) = spaced count gap unit gap' last := by
  refine strip_eq_self (fun c hc => ?_) (fun c hc => ?_)
  · obtain ⟨d, more, rfl⟩ := List.exists_cons_of_ne_nil hcount.1
    rw [← Option.some.inj hc]
    exact hcount.not_isBlank d List.mem_cons_self
  · rw [spaced, ← List.append_assoc, List.getLast?_append,
      List.getLast?_eq_some_getLast hlast.1, Option.some_or] at hc
    rw [← Option.some.inj hc]
    exact hlast.not_isBlank _ (List.getLast_mem hlast.1)

/-! ### Counts of units -/

theorem isWord_of_ago (hlast : last.map Char.toLower = "ago".toList) : IsWord last := by
  rw [← isWord_map_toLower_iff, hlast]
  decide

/-- The name of a unit is a word. -/
theorem isWord_of_unit? {plural : Bool} (h : unit? plural (word.map Char.toLower) = some length) :
    IsWord word := by
  have hall : ∀ entry ∈ units, IsWord entry.1.toList ∧ IsWord (entry.1.toList ++ ['s']) := by
    decide
  obtain ⟨⟨name, seconds⟩, hmem, hnamed⟩ := List.exists_of_findSome?_eq_some h
  obtain ⟨hsingular, hplural⟩ := hall _ hmem
  rw [← isWord_map_toLower_iff]
  dsimp only at hsingular hplural hnamed
  split at hnamed
  · rename_i hword
    rw [Bool.or_eq_true, Bool.and_eq_true, beq_iff_eq, beq_iff_eq] at hword
    rcases hword with hword | ⟨-, hword⟩
    · rwa [hword]
    · rwa [hword]
  · exact nomatch hnamed

/-- What a count of units says: so many of them, unless it has more digits than are read. -/
def countAgo (digits : List Char) (length : Duration) : Meaning :=
  if maxDigits < digits.length then .longAgo digits.length
  else .ago (length.times (digitsValue digits))

theorem countAgo_of_le (h : digits.length ≤ maxDigits) :
    countAgo digits length = .ago (length.times (digitsValue digits)) :=
  if_neg (Nat.not_lt.mpr h)

theorem countAgo_of_lt (h : maxDigits < digits.length) :
    countAgo digits length = .longAgo digits.length :=
  if_pos h

/-- A count of units is read as so many of them. -/
theorem readDuration_count (hne : digits ≠ []) (hdigits : ∀ c ∈ digits, c.isDigit = true)
    (hgap : IsSpacing gap) (hunit : unit? true (unit.map Char.toLower) = some length)
    (hgap' : IsSpacing gap') (hlast : last.map Char.toLower = "ago".toList) :
    readDuration (spaced digits gap unit gap' last) = some (countAgo digits length) := by
  have hcount : ¬ (digits == ['a']) = true := by
    rw [beq_iff_eq]
    rintro rfl
    exact absurd (hdigits 'a' (by simp)) (by decide)
  have hall : digits.all Char.isDigit = true := List.all_eq_true.mpr hdigits
  rw [readDuration, words_lower_spaced (isWord_of_isDigit hne hdigits) hgap
    (isWord_of_unit? hunit) hgap' (isWord_of_ago hlast), map_toLower_digits hdigits, hlast]
  dsimp only
  rw [if_pos (by decide), if_neg hcount, if_pos hall, hunit]
  rfl

/-- The article is read as one unit. -/
theorem readDuration_one (harticle : article.toLower = 'a') (hgap : IsSpacing gap)
    (hunit : unit? false (unit.map Char.toLower) = some length) (hgap' : IsSpacing gap')
    (hlast : last.map Char.toLower = "ago".toList) :
    readDuration (spaced [article] gap unit gap' last) = some (.ago length) := by
  have hcount : [article].map Char.toLower = ['a'] := by rw [List.map_singleton, harticle]
  have hcountWord : IsWord [article] := by
    rw [← isWord_map_toLower_iff, hcount]
    decide
  rw [readDuration, words_lower_spaced hcountWord hgap (isWord_of_unit? hunit) hgap'
    (isWord_of_ago hlast), hcount, hlast]
  dsimp only
  rw [if_pos (by decide), if_pos (by decide), hunit]
  rfl

end Format

/-- So many of a unit before now is what a number, the unit and `ago` say. -/
theorem reads_countAgo {count : Nat} {tail : String} {unit : List Char} {length : Duration}
    (htail : tail.toList = ' ' :: (unit ++ ' ' :: "ago".toList))
    (hunit : Format.unit? true (unit.map Char.toLower) = some length) :
    Reads (strip (toString count ++ tail).toList)
      (Format.countAgo (Nat.toDigits 10 count) length) := by
  have hdigits : ∀ c ∈ Nat.toDigits 10 count, c.isDigit = true :=
    fun c hc => Nat.isDigit_of_mem_toDigits (by decide) (by decide) hc
  have hgap : Format.IsSpacing [' '] := by decide
  have htext : (toString count ++ tail).toList
      = Format.spaced (Nat.toDigits 10 count) [' '] unit [' '] "ago".toList := by
    rw [String.toList_append, Nat.toString_eq_repr, Nat.toList_repr, htail, Format.spaced]
    simp
  have hlast : "ago".toList.map Char.toLower = "ago".toList := by decide
  have hread := Format.readDuration_count Nat.toDigits_ne_nil hdigits hgap hunit hgap hlast
  refine ⟨.duration, ?_⟩
  rw [htext, Format.strip_spaced (Format.isWord_of_isDigit Nat.toDigits_ne_nil hdigits)
    (Format.isWord_of_ago hlast)]
  exact hread

end MediaSearch.TimeString
