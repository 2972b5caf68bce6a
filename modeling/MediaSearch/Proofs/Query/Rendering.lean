/-
Tokens and the texts that render them.

A token can be written in a query in more than one way: as it prints, or, if it is a word,
as it stands, and with blanks around it.  `Renders tokens query` says that the query is one
of the texts that the tokens can be written as; it says nothing of how a query is read.
Reading gives the tokens back (`tokenize?_of_renders`).

The proof goes from the front of the text to its end.  A gap is passed over, a printed token
is read whatever follows it, and a word is read when what follows cannot be part of it.
The last is the only place where a rendering looks at its neighbours, and it is why two
words in a row have to be kept apart (`RendersBehind.noWordFirst`).
-/
import MediaSearch.Query.Lexer

namespace MediaSearch.Query

open Text

/-! ### Renderings -/

/-- A run of blanks; there need not be any. -/
def IsGap (gap : List Char) : Prop :=
  ∀ c ∈ gap, isBlank c = true

/-- A text that can stand in a query without quotes. -/
structure IsWord (word : List Char) : Prop where
  /-- There is something to read. -/
  nonempty : word ≠ []
  /-- Nothing in it separates tokens. -/
  unbroken : ∀ c ∈ word, isBlank c = false
  /-- Nothing in it opens or closes a form or a text. -/
  unmarked : ∀ c ∈ word, c ≠ '(' ∧ c ≠ ')' ∧ c ≠ '"'

/-- The characters write the token, as a bare word or not. -/
inductive Writes : Token → Bool → List Char → Prop
  /-- Every token can be written as it prints. -/
  | printed (t : Token) : Writes t false t.print.toList
  /-- A text that is a word can be written as it stands. -/
  | bare {value : String} (word : IsWord value.toList) : Writes (.text value) true value.toList

/-- The characters render the tokens, behind a bare word or not.  Before, between and behind the
tokens there may be blanks, and there have to be some between two bare words. -/
inductive RendersBehind : Bool → List Token → List Char → Prop
  /-- No tokens, and a gap. -/
  | done {afterWord : Bool} {gap : List Char} (blank : IsGap gap) :
      RendersBehind afterWord [] gap
  /-- A gap and a token, and then the others. -/
  | token {afterWord bare : Bool} {gap spelt rest : List Char} {t : Token} {ts : List Token}
      (blank : IsGap gap) (apart : afterWord = true → bare = true → gap ≠ [])
      (writes : Writes t bare spelt) (others : RendersBehind bare ts rest) :
      RendersBehind afterWord (t :: ts) (gap ++ (spelt ++ rest))

/-- The query is one of the texts that the tokens can be written as. -/
def Renders (tokens : List Token) (query : String) : Prop :=
  RendersBehind false tokens query.toList

/-! ### Texts in quotes -/

/-- A backslash makes the next character literal, whatever it is. -/
theorem untilQuote?_backslash (c : Char) (rest : List Char) :
    untilQuote? ('\\' :: c :: rest)
      = (untilQuote? rest).map fun (text, rest) => (c :: text, rest) := by
  rw [untilQuote?]

/-- Any other character stands for itself. -/
theorem untilQuote?_plain {c : Char} (hquote : c ≠ '"') (hbackslash : c ≠ '\\')
    (rest : List Char) :
    untilQuote? (c :: rest) = (untilQuote? rest).map fun (text, rest) => (c :: text, rest) := by
  rw [untilQuote?]
  · exact hquote
  · intro h _
    exact hbackslash h
  · intro d more h _
    exact hbackslash h

/-- A text in which a closing quote is looked for, by what it begins with. -/
@[elab_as_elim]
theorem untilQuote?_induction {P : List Char → Prop} (nil : P [])
    (quote : ∀ rest, P ('"' :: rest)) (pending : P ['\\'])
    (escape : ∀ c rest, P rest → P ('\\' :: c :: rest))
    (plain : ∀ c rest, c ≠ '"' → c ≠ '\\' → P rest → P (c :: rest)) (text : List Char) :
    P text := by
  induction text using untilQuote?.induct with
  | case1 => exact nil
  | case2 rest => exact quote rest
  | case3 => exact pending
  | case4 c rest ih => exact escape c rest ih
  | case5 c rest hquote hpending hescape ih =>
      refine plain c rest hquote ?_ ih
      intro hbackslash
      cases rest with
      | nil => exact hpending hbackslash rfl
      | cons d more => exact hescape d more hbackslash rfl

/-- What is printed between quotes is read up to the closing one: every quote inside has its
backslash, and every backslash its own. -/
theorem untilQuote?_quoted (value rest : List Char) :
    untilQuote? (value.flatMap quotedChar ++ '"' :: rest) = some (value, rest) := by
  induction value with
  | nil => rw [List.flatMap_nil, List.nil_append, untilQuote?]
  | cons c value ih =>
      rw [List.flatMap_cons, List.append_assoc]
      by_cases hescaped : c = '\\' ∨ c = '"'
      · have hchar : quotedChar c = ['\\', c] := by
          unfold quotedChar
          exact if_pos (by simpa using hescaped)
        rw [hchar, List.cons_append, List.cons_append, List.nil_append, untilQuote?_backslash, ih]
        rfl
      · have hchar : quotedChar c = [c] := by
          unfold quotedChar
          exact if_neg (by simpa using hescaped)
        rw [hchar, List.cons_append, List.nil_append,
          untilQuote?_plain (fun h => hescaped (Or.inr h)) (fun h => hescaped (Or.inl h)), ih]
        rfl

/-! ### What is read at the front -/

/-- A character that is none of the three marks is a blank, which is passed over, or the start of a
word. -/
theorem tokens?_unmarked {c : Char} (h : c ≠ '(' ∧ c ≠ ')' ∧ c ≠ '"') (rest : List Char) :
    tokens? (c :: rest) =
      if isBlank c then tokens? rest
      else (tokens? (rest.dropWhile isBare)).map
        (.text (String.ofList (c :: rest.takeWhile isBare)) :: ·) := by
  rw [tokens?.eq_def]
  split
  · rename_i hnil
    cases hnil
  · rename_i hopening
    exact absurd (List.cons.inj hopening).1 h.1
  · rename_i hclosing
    exact absurd (List.cons.inj hclosing).1 h.2.1
  · rename_i hquote
    exact absurd (List.cons.inj hquote).1 h.2.2
  · rename_i hcons
    obtain ⟨rfl, rfl⟩ := List.cons.inj hcons
    rfl

/-- Behind a quote, what stands before the next one is a token, and there has to be a next one. -/
theorem tokens?_quote_eq (text : List Char) :
    tokens? ('"' :: text) = (untilQuote? text).bind fun (value, behind) =>
      (tokens? behind).map (.text (String.ofList value) :: ·) := by
  rw [tokens?.eq_def]
  split
  · rename_i hnil
    cases hnil
  · rename_i hopening
    exact absurd (List.cons.inj hopening).1 (by decide)
  · rename_i hclosing
    exact absurd (List.cons.inj hclosing).1 (by decide)
  · rename_i hquote
    obtain rfl := (List.cons.inj hquote).2
    split
    · rename_i hnone
      rw [hnone]
      rfl
    · rename_i hsome
      rw [hsome]
      rfl
  · rename_i hother hcons
    exact absurd (List.cons.inj hcons).1.symm hother

theorem tokens?_quote {text value behind : List Char}
    (h : untilQuote? text = some (value, behind)) :
    tokens? ('"' :: text) = (tokens? behind).map (.text (String.ofList value) :: ·) := by
  rw [tokens?_quote_eq, h]
  rfl

/-- Behind a quote that is never closed there is no token. -/
theorem tokens?_unclosed {text : List Char} (h : untilQuote? text = none) :
    tokens? ('"' :: text) = none := by
  rw [tokens?_quote_eq, h]
  rfl

/-- A blank is none of the three marks. -/
theorem unmarked_of_isBlank {c : Char} (h : isBlank c = true) :
    c ≠ '(' ∧ c ≠ ')' ∧ c ≠ '"' := by
  refine ⟨?_, ?_, ?_⟩
  all_goals
    rintro rfl
    exact absurd h (by decide)

theorem tokens?_gap_append {gap : List Char} (h : IsGap gap) (rest : List Char) :
    tokens? (gap ++ rest) = tokens? rest := by
  induction gap with
  | nil => rfl
  | cons c gap ih =>
      have hc : isBlank c = true := h c (by simp)
      rw [List.cons_append, tokens?_unmarked (unmarked_of_isBlank hc), if_pos hc]
      exact ih fun d hd => h d (by simp [hd])

/-- A printed token is read whatever follows it. -/
theorem tokens?_print_append (t : Token) (rest : List Char) :
    tokens? (t.print.toList ++ rest) = (tokens? rest).map (t :: ·) := by
  cases t with
  | opening =>
      show tokens? ('(' :: rest) = _
      exact tokens?.eq_def _
  | closing =>
      show tokens? (')' :: rest) = _
      exact tokens?.eq_def _
  | text value =>
      have hprint : (Token.text value).print.toList ++ rest
          = '"' :: (value.toList.flatMap quotedChar ++ '"' :: rest) := by
        rw [Token.print, String.toList_ofList, inQuotes, List.append_assoc]
        rfl
      rw [hprint, tokens?_quote (untilQuote?_quoted value.toList rest), String.ofList_toList]

/-- A text that does not begin with a character of a word. -/
def NoWordFirst (text : List Char) : Prop :=
  ∀ c rest, text = c :: rest → isBare c = false

/-- A character of a word is no blank and none of the three marks. -/
theorem isBare_iff {c : Char} :
    isBare c = true ↔ isBlank c = false ∧ c ≠ '(' ∧ c ≠ ')' ∧ c ≠ '"' := by
  simp [isBare, and_assoc]

/-- Whether characters are a word can be told from each of them alone. -/
theorem isWord_of_all {word : List Char} (hnonempty : word ≠ [])
    (hall : word.all (fun c => !isBlank c && c != '(' && c != ')' && c != '"') = true) :
    IsWord word := by
  have heach : ∀ c ∈ word, isBlank c = false ∧ c ≠ '(' ∧ c ≠ ')' ∧ c ≠ '"' := by
    intro c hc
    simpa [and_assoc] using List.all_eq_true.mp hall c hc
  exact ⟨hnonempty, fun c hc => (heach c hc).1, fun c hc => (heach c hc).2⟩

theorem IsWord.isBare {word : List Char} (h : IsWord word) {c : Char} (hc : c ∈ word) :
    isBare c = true := by
  obtain ⟨hopening, hclosing, hquote⟩ := h.unmarked c hc
  simp [Query.isBare, h.unbroken c hc, hopening, hclosing, hquote]

/-- A word is read as a whole when what follows cannot be part of it. -/
theorem tokens?_word_append {word rest : List Char} (h : IsWord word) (hrest : NoWordFirst rest) :
    tokens? (word ++ rest) = (tokens? rest).map (.text (String.ofList word) :: ·) := by
  have htake : rest.takeWhile isBare = [] := by
    cases rest with
    | nil => rfl
    | cons c more => exact List.takeWhile_cons_of_neg (by simp [hrest c more rfl])
  have hdrop : rest.dropWhile isBare = rest := by
    cases rest with
    | nil => rfl
    | cons c more => exact List.dropWhile_cons_of_neg (by simp [hrest c more rfl])
  cases word with
  | nil => exact absurd rfl h.nonempty
  | cons c more =>
      have hmore : ∀ d ∈ more, isBare d = true := fun d hd => h.isBare (by simp [hd])
      have hc : isBlank c = false := h.unbroken c (by simp)
      rw [List.cons_append, tokens?_unmarked (h.unmarked c (by simp)), if_neg (by simp [hc]),
        List.takeWhile_append_of_pos hmore, List.dropWhile_append_of_pos hmore, htake, hdrop,
        List.append_nil]

/-! ### Reading a rendering -/

theorem not_isBare_of_isBlank {c : Char} (h : isBlank c = true) : isBare c = false := by
  simp [isBare, h]

/-- A printed token begins with a mark. -/
theorem noWordFirst_print_append (t : Token) (rest : List Char) :
    NoWordFirst (t.print.toList ++ rest) := by
  intro c more h
  cases t with
  | opening =>
      obtain ⟨rfl, -⟩ := List.cons.inj (show '(' :: rest = c :: more from h)
      decide
  | closing =>
      obtain ⟨rfl, -⟩ := List.cons.inj (show ')' :: rest = c :: more from h)
      decide
  | text value =>
      rw [Token.print, String.toList_ofList, inQuotes] at h
      obtain ⟨rfl, -⟩ := List.cons.inj h
      decide

/-- Behind a bare word a rendering goes on with a blank or a mark, if it goes on at all. -/
theorem RendersBehind.noWordFirst {ts : List Token} {text : List Char}
    (h : RendersBehind true ts text) : NoWordFirst text := by
  cases h with
  | done blank =>
      intro c rest htext
      exact not_isBare_of_isBlank (blank c (by simp [htext]))
  | token blank apart writes others =>
      rename_i bare gap spelt rest t ts
      cases gap with
      | cons c gap =>
          intro d more htext
          obtain ⟨rfl, -⟩ := List.cons.inj htext
          exact not_isBare_of_isBlank (blank c (by simp))
      | nil =>
          cases writes with
          | printed => exact noWordFirst_print_append t rest
          | bare word => exact absurd rfl (apart rfl rfl)

theorem RendersBehind.tokens?_eq {afterWord : Bool} {ts : List Token} {text : List Char}
    (h : RendersBehind afterWord ts text) : tokens? text = some ts := by
  induction h with
  | done blank =>
      have hend := tokens?_gap_append blank []
      rw [List.append_nil] at hend
      exact hend.trans (tokens?.eq_def [])
  | token blank apart writes others ih =>
      rw [tokens?_gap_append blank]
      cases writes with
      | printed t => rw [tokens?_print_append, ih, Option.map_some]
      | bare word =>
          rw [tokens?_word_append word others.noWordFirst, ih, Option.map_some,
            String.ofList_toList]

/--
**Reading a rendering gives the tokens back.**  The texts among the tokens may be anything, quotes,
backslashes and parentheses included.
-/
theorem tokenize?_of_renders {tokens : List Token} {query : String} (h : Renders tokens query) :
    tokenize? query = some tokens :=
  RendersBehind.tokens?_eq h

/-- A quote behind a word, a quote and a backslash inside quotes, nothing inside quotes, and a
backslash in a word. -/
theorem tokenize?_of_renders_marks :
    Renders [.opening, .text "tag", .text "a\"b\\", .text "", .text "c\\d", .closing]
        " (tag\"a\\\"b\\\\\"\"\"c\\d\t)" ∧
      tokenize? " (tag\"a\\\"b\\\\\"\"\"c\\d\t)"
        = some [.opening, .text "tag", .text "a\"b\\", .text "", .text "c\\d", .closing] := by
  have htag : IsWord "tag".toList := isWord_of_all (by decide +kernel) (by decide +kernel)
  have hslash : IsWord "c\\d".toList := isWord_of_all (by decide +kernel) (by decide +kernel)
  have hnone : IsGap [] := fun c hc => absurd hc (by simp)
  have hspace : IsGap [' '] := fun c hc => by rw [List.mem_singleton.mp hc]; decide
  have htab : IsGap ['\t'] := fun c hc => by rw [List.mem_singleton.mp hc]; decide
  have hquery : " (tag\"a\\\"b\\\\\"\"\"c\\d\t)".toList
      = [' '] ++ (Token.opening.print.toList ++ ([] ++ ("tag".toList ++
        ([] ++ ((Token.text "a\"b\\").print.toList ++ ([] ++ ((Token.text "").print.toList ++
        ([] ++ ("c\\d".toList ++ (['\t'] ++ (Token.closing.print.toList ++ []))))))))))) := by
    decide +kernel
  have hrenders : Renders [.opening, .text "tag", .text "a\"b\\", .text "", .text "c\\d", .closing]
      " (tag\"a\\\"b\\\\\"\"\"c\\d\t)" := by
    unfold Renders
    rw [hquery]
    exact .token hspace (by simp) (.printed _) <|
      .token hnone (by simp) (.bare htag) <|
      .token hnone (by simp) (.printed _) <|
      .token hnone (by simp) (.printed _) <|
      .token hnone (by simp) (.bare hslash) <|
      .token htab (by simp) (.printed _) <|
      .done hnone
  exact ⟨hrenders, tokenize?_of_renders hrenders⟩

end MediaSearch.Query
