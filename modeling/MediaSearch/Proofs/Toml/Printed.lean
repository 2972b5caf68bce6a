/-
Texts and lists of texts are read as they were written.

Every character of a text is written as itself or as an escape, and reading takes off the one
or the other again (`basic_escaped`).  No escape has an illegal character in it, and an illegal
character is always escaped, so what is written of a text stays on one line whatever is in the
text (`legal_quoted`).
-/
import Mathlib.Data.List.Basic
import MediaSearch.Toml.Printer
import MediaSearch.Toml.Reader

namespace MediaSearch.Toml

variable {rest : List Char} {c : Char}

/-! ### Legal texts -/

/-- Every character of a text can stand on a line. -/
def Legal (text : List Char) : Prop :=
  ∀ c ∈ text, isIllegal c = false

instance (text : List Char) : Decidable (Legal text) :=
  decidable_of_iff (text.all (fun c => !isIllegal c) = true) (by simp [Legal])

theorem Legal.not_mem {text : List Char} (h : Legal text) (hc : isIllegal c = true) :
    c ∉ text := by
  intro hmem
  rw [h c hmem] at hc
  exact nomatch hc

/-! ### One character -/

/-- What is written of a character. -/
def escaped (c : Char) : List Char :=
  (escapeOf? c).getD [c]

/-- The escape of a control character in four digits stands for it and is legal. -/
theorem hexDigits_of_control :
    ∀ n < 128, (Text.hexDigits 4 n).length = 4 ∧
      hexChar? (Text.hexDigits 4 n) = some (Char.ofNat n) ∧
      Legal (Text.hexDigits 4 n) := by
  decide +kernel

/-- The ways in which a character is written. -/
inductive Escaped (c : Char) : Prop
  /-- An escape of one letter. -/
  | letter (e : Char) (written : escaped c = ['\\', e]) (stands : escape? e = some c)
      (legal : isIllegal e = false)
  /-- An escape of four digits. -/
  | digits (p q r s : Char) (written : escaped c = ['\\', 'u', p, q, r, s])
      (stands : hexChar? [p, q, r, s] = some c) (legal : Legal [p, q, r, s])
  /-- Itself. -/
  | itself (written : escaped c = [c]) (notQuote : c ≠ '"') (notSlash : c ≠ '\\')
      (legal : isIllegal c = false)

theorem escaped_cases (c : Char) : Escaped c := by
  by_cases hquote : c = '"'
  · exact hquote ▸ .letter '"' rfl rfl rfl
  by_cases hslash : c = '\\'
  · exact hslash ▸ .letter '\\' rfl rfl rfl
  by_cases hback : c = '\x08'
  · exact hback ▸ .letter 'b' rfl rfl rfl
  by_cases htab : c = '\t'
  · exact htab ▸ .letter 't' rfl rfl rfl
  by_cases hfeed : c = '\n'
  · exact hfeed ▸ .letter 'n' rfl rfl rfl
  by_cases hform : c = '\x0c'
  · exact hform ▸ .letter 'f' rfl rfl rfl
  by_cases hreturn : c = '\r'
  · exact hreturn ▸ .letter 'r' rfl rfl rfl
  by_cases hcontrol : c.toNat < 32 ∨ c.toNat = 127
  · obtain ⟨hlength, hstands, hlegal⟩ := hexDigits_of_control c.toNat (by omega)
    have hwritten : escaped c = '\\' :: 'u' :: Text.hexDigits 4 c.toNat := by
      simp [escaped, escapeOf?, hquote, hslash, hback, htab, hfeed, hform, hreturn, hcontrol]
    obtain ⟨p, q, r, s, hdigits⟩ := List.length_eq_four.mp hlength
    rw [hdigits] at hwritten hstands hlegal
    rw [Char.ofNat_toNat] at hstands
    exact .digits p q r s hwritten hstands hlegal
  · refine .itself ?_ hquote hslash ?_
    · simp [escaped, escapeOf?, hquote, hslash, hback, htab, hfeed, hform, hreturn, hcontrol]
    · simp only [not_or] at hcontrol
      simp [isIllegal, hcontrol]

/-- What is written of a character is legal. -/
theorem legal_escaped (c : Char) : Legal (escaped c) := by
  intro d h
  cases escaped_cases c with
  | letter e written stands legal =>
      rw [written] at h
      rcases List.mem_cons.mp h with rfl | h
      · rfl
      · exact List.mem_singleton.mp h ▸ legal
  | digits p q r s written stands legal =>
      rw [written] at h
      rcases List.mem_cons.mp h with rfl | h
      · rfl
      · rcases List.mem_cons.mp h with rfl | h
        · rfl
        · exact legal d h
  | itself written notQuote notSlash legal =>
      rw [written] at h
      exact List.mem_singleton.mp h ▸ legal

/-- Reading takes off what is written of a character. -/
theorem basic_escaped : basic (escaped c ++ rest) = (basic rest).cons c := by
  cases escaped_cases c with
  | letter e written stands legal =>
      rw [written]
      show basic ('\\' :: e :: rest) = _
      rw [basic, stands]
      · rfl
      · rintro _ _ _ _ _ rfl
        exact nomatch stands
      · rintro _ _ _ _ _ _ _ _ _ rfl
        exact nomatch stands
  | digits p q r s written stands legal =>
      rw [written]
      show basic ('\\' :: 'u' :: p :: q :: r :: s :: rest) = _
      rw [basic, stands]
      rfl
  | itself written notQuote notSlash legal =>
      rw [written]
      show basic (c :: rest) = _
      rw [basic]
      · simp [notSlash, legal]
      · exact notQuote
      · exact fun _ _ _ _ _ h => absurd h notSlash
      · exact fun _ _ _ _ _ _ _ _ _ h => absurd h notSlash
      · exact fun _ _ h => absurd h notSlash

/-! ### Whole texts -/

theorem toList_quoted (text : String) :
    (quoted text).toList = '"' :: text.toList.flatMap escaped ++ ['"'] :=
  String.toList_ofList

/-- What is written of a text is legal, so there is no end of a line in it. -/
theorem legal_quoted (text : String) : Legal (quoted text).toList := by
  intro d h
  rw [toList_quoted] at h
  rcases List.mem_append.mp h with h | h
  · rcases List.mem_cons.mp h with rfl | h
    · rfl
    · obtain ⟨c, -, hd⟩ := List.mem_flatMap.mp h
      exact legal_escaped c d hd
  · exact List.mem_singleton.mp h ▸ rfl

theorem basic_flatMap_escaped (text : List Char) :
    basic (text.flatMap escaped ++ '"' :: rest) = some (text, rest) := by
  induction text with
  | nil => rfl
  | cons c text ih =>
      rw [List.flatMap_cons, List.append_assoc, basic_escaped, ih]
      rfl

/-- What is written of a text does not go on with two more quotes, which would begin a text of
several lines. -/
theorem text?_of_not_quotes {text : List Char} (h : ∀ behind, text ≠ '"' :: '"' :: behind) :
    text? ('"' :: text) = basic text := by
  rw [text?]
  intro behind hquotes
  exact h behind hquotes

/-- A text that has been written is read. -/
theorem text?_quoted (text : String) (hrest : rest.head? ≠ some '"') :
    text? ((quoted text).toList ++ rest) = some (text.toList, rest) := by
  have hwritten : (quoted text).toList ++ rest
      = '"' :: (text.toList.flatMap escaped ++ '"' :: rest) := by
    rw [toList_quoted]
    simp only [List.cons_append, List.append_assoc, List.nil_append]
  rw [hwritten, text?_of_not_quotes, basic_flatMap_escaped]
  intro behind h
  cases hcs : text.toList with
  | nil =>
      rw [hcs] at h
      obtain ⟨-, rfl⟩ := List.cons.inj h
      exact hrest rfl
  | cons c cs =>
      rw [hcs, List.flatMap_cons] at h
      cases escaped_cases c with
      | letter e written _ _ => simp [written] at h
      | digits p q r s written _ _ => simp [written] at h
      | itself written notQuote _ _ => simp [written, notQuote] at h

/-! ### Values -/

/-- Something is read off the front of a text. -/
def Reads {α : Type} {text : List Char} (reading : Except Flaw (Taken α text)) (value : α)
    (rest : List Char) : Prop :=
  ∃ found, reading = .ok found ∧ found.value = value ∧ found.rest = rest

theorem reads_shortened {α : Type} {text : List Char} {value : α}
    (h : rest.length < text.length) : Reads (shortened text (value, rest)) value rest :=
  ⟨⟨value, rest, h⟩, dif_pos h, rfl, rfl⟩

/-- A text that has been written is read as a value. -/
theorem readValue_quoted (text : String) (hrest : rest.head? ≠ some '"') :
    Reads (readValue ((quoted text).toList ++ rest)) (.string text) rest := by
  have htext := text?_quoted text hrest
  have hlength : rest.length < ((quoted text).toList ++ rest).length := by
    rw [toList_quoted, List.length_append, List.length_append]
    simp only [List.length_cons]
    omega
  rw [toList_quoted, List.append_assoc, List.cons_append] at htext hlength ⊢
  rw [readValue]
  · simp only [htext, String.ofList_toList]
    exact reads_shortened hlength
  · intro _ h
    cases h
  · intro _ h
    cases h

/-- The lines of a list of texts. -/
def itemLines (texts : List String) : List Char :=
  texts.flatMap fun text => "    ".toList ++ (quoted text).toList ++ ",\n".toList

theorem return_not_mem_itemLines (texts : List String) : '\r' ∉ itemLines texts := by
  intro h
  obtain ⟨text, -, h⟩ := List.mem_flatMap.mp h
  rcases List.mem_append.mp h with h | h
  · rcases List.mem_append.mp h with h | h
    · exact absurd h (by decide)
    · exact (legal_quoted text).not_mem rfl h
  · exact absurd h (by decide)

/-- An array ends where no item is left. -/
theorem readItems_nil {text : List Char} (hskip : skipLines false text = some (']' :: rest))
    (hlength : rest.length < text.length) : Reads (readItems text) [] rest := by
  rw [readItems]
  simp only [hskip]
  exact reads_shortened hlength

/-- An item is read off the front of the items of an array, and the others behind its comma. -/
theorem readItems_cons {text start behind : List Char} {value : Value} {others : List Value}
    (hskip : skipLines false text = some start) (hitem : start.head? ≠ some ']')
    (hlength : start.length ≤ text.length) (hfirst : Reads (readValue start) value (',' :: behind))
    (hothers : Reads (readItems behind) others rest) :
    Reads (readItems text) (value :: others) rest := by
  obtain ⟨first, hfirst, rfl, hcomma⟩ := hfirst
  obtain ⟨found, hfound, rfl, rfl⟩ := hothers
  have hbehind : behind.length < text.length := by
    have := first.shorter
    rw [hcomma, List.length_cons] at this
    omega
  have hagain : skipLines false first.rest = some (',' :: behind) := by
    rw [hcomma]
    rfl
  rw [readItems]
  split
  · rename_i hnone
    rw [hskip] at hnone
    cases hnone
  · rename_i behind' hclosing
    rw [hskip] at hclosing
    obtain rfl := Option.some.inj hclosing
    exact absurd rfl hitem
  · rename_i start' hnot hstart
    rw [hskip] at hstart
    obtain rfl := Option.some.inj hstart
    simp only [dif_pos hlength, hfirst, hagain, dif_pos hbehind, hfound]
    exact ⟨_, rfl, rfl, rfl⟩

theorem itemLines_cons (text : String) (texts : List String) :
    '\n' :: itemLines (text :: texts) ++ rest
      = "\n    ".toList ++ ((quoted text).toList ++ ',' :: ('\n' :: itemLines texts ++ rest)) := by
  simp [itemLines]

/-- The items of a list of texts that has been written are read. -/
theorem readItems_itemLines (texts : List String) :
    Reads (readItems ('\n' :: itemLines texts ++ ']' :: rest)) (texts.map .string) rest := by
  induction texts with
  | nil =>
      show Reads (readItems ('\n' :: ']' :: rest)) [] rest
      refine readItems_nil rfl ?_
      simp only [List.length_cons]
      omega
  | cons text texts ih =>
      rw [itemLines_cons]
      refine readItems_cons ?_ ?_ ?_ (readValue_quoted text ?_) ih
      · rw [toList_quoted]
        rfl
      · rw [toList_quoted]
        simp
      · exact (List.suffix_append _ _).length_le
      · exact nofun

theorem readValue_items {text : List Char} {items : List Value}
    (h : Reads (readItems text) items rest) :
    Reads (readValue ('[' :: text)) (.array items) rest := by
  obtain ⟨found, hfound, hvalue, hrest⟩ := h
  rw [readValue, hfound]
  exact ⟨_, rfl, congrArg Value.array hvalue, hrest⟩

/-- A list of texts that has been written is read as a value. -/
theorem readValue_itemLines (texts : List String) :
    Reads (readValue ('[' :: '\n' :: itemLines texts ++ ']' :: rest)) (.array (texts.map .string))
      rest :=
  readValue_items (readItems_itemLines texts)

/-- A value that is neither a text nor holds others is read. -/
theorem readValue_scalar {c : Char} {text : List Char} {value : Value}
    (hc : c ≠ '[' ∧ c ≠ '\x7b' ∧ c ≠ '"' ∧ c ≠ '\'')
    (hscalar : readScalar (c :: text) = .ok (value, rest)) (hlength : rest.length ≤ text.length) :
    Reads (readValue (c :: text)) value rest := by
  obtain ⟨harray, htable, hbasic, hliteral⟩ := hc
  have htext : text? (c :: text) = none := by
    rw [text?]
    · exact fun _ h => hbasic (List.cons.inj h).1
    · exact fun _ h => hliteral (List.cons.inj h).1
    · exact fun _ h => hbasic (List.cons.inj h).1
    · exact fun _ h => hliteral (List.cons.inj h).1
  rw [readValue]
  · simp only [htext, hscalar]
    exact reads_shortened (Nat.lt_succ_of_le hlength)
  · exact fun _ h => harray (List.cons.inj h).1
  · exact fun _ h => htable (List.cons.inj h).1

end MediaSearch.Toml
