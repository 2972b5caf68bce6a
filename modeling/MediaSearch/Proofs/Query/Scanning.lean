/-
A query character by character.

A scan goes through a query once, from left to right.  All that it knows at a character is
where it is: outside, in a word, in quotes, or behind a backslash in quotes.  Outside
quotes a parenthesis is a token, a blank separates, and a quote begins a text, also right
behind a word; in quotes a backslash makes the next character literal, whatever it is.

A scan finds the tokens that are read, and there are none when it ends in quotes
(`tokens?_run`).  It is in quotes for as long as a closing quote is looked for, so the proof
follows that search (`tokens?_run_inQuotes`); it is in a word for as long as the characters
can stand in one (`tokens?_run_inWord`).
-/
import MediaSearch.Proofs.Query.Terminals

namespace MediaSearch.Query

open Text

/-- Where a scan is. -/
inductive Place
  /-- In nothing. -/
  | outside
  /-- In a word, of which it has seen this much. -/
  | inWord (word : List Char)
  /-- In quotes, behind the text seen so far. -/
  | inQuotes (text : List Char)
  /-- In quotes, and behind a backslash. -/
  | behindBackslash (text : List Char)

/-- A scan: the tokens that are complete, and where it is. -/
structure Scan where
  /-- The complete tokens. -/
  tokens : List Token
  /-- The place. -/
  place : Place

namespace Scan

/-- The beginning of a query. -/
def start : Scan := ⟨[], .outside⟩

/-- A character behind complete tokens. -/
def begin (tokens : List Token) (c : Char) : Scan :=
  if c == '(' then ⟨tokens ++ [.opening], .outside⟩
  else if c == ')' then ⟨tokens ++ [.closing], .outside⟩
  else if c == '"' then ⟨tokens, .inQuotes []⟩
  else if isBlank c then ⟨tokens, .outside⟩
  else ⟨tokens, .inWord [c]⟩

/-- A character further. -/
def next (s : Scan) (c : Char) : Scan :=
  match s.place with
  | .outside => begin s.tokens c
  | .inWord word =>
    if isBare c then ⟨s.tokens, .inWord (word ++ [c])⟩
    else begin (s.tokens ++ [.text (String.ofList word)]) c
  | .inQuotes text =>
    if c == '"' then ⟨s.tokens ++ [.text (String.ofList text)], .outside⟩
    else if c == '\\' then ⟨s.tokens, .behindBackslash text⟩
    else ⟨s.tokens, .inQuotes (text ++ [c])⟩
  | .behindBackslash text => ⟨s.tokens, .inQuotes (text ++ [c])⟩

/-- All the characters of a text further. -/
def run (s : Scan) (text : List Char) : Scan :=
  text.foldl next s

/-- The tokens of a query that ends here; in quotes it cannot end. -/
def tokens? (s : Scan) : Option (List Token) :=
  match s.place with
  | .outside => some s.tokens
  | .inWord word => some (s.tokens ++ [.text (String.ofList word)])
  | .inQuotes _ => none
  | .behindBackslash _ => none

/-- The scan is in quotes, perhaps behind a backslash. -/
def IsQuoting (s : Scan) : Prop :=
  ∃ text, s.place = .inQuotes text ∨ s.place = .behindBackslash text

theorem tokens?_eq_none_iff {s : Scan} : s.tokens? = none ↔ s.IsQuoting := by
  obtain ⟨tokens, place⟩ := s
  cases place <;> simp [tokens?, IsQuoting]

/-! ### From one place to the next -/

theorem run_cons (s : Scan) (c : Char) (text : List Char) :
    s.run (c :: text) = (s.next c).run text := rfl

/-- A word goes on as far as its characters do. -/
theorem tokens?_run_inWord (tokens : List Token) (text : List Char) :
    ∀ word : List Char, (run ⟨tokens, .inWord word⟩ text).tokens?
      = (run ⟨tokens ++ [.text (String.ofList (word ++ text.takeWhile isBare))], .outside⟩
          (text.dropWhile isBare)).tokens? := by
  induction text with
  | nil =>
      intro word
      rw [List.takeWhile_nil, List.append_nil]
      rfl
  | cons c text ih =>
      intro word
      by_cases hc : isBare c = true
      · have hnext : next ⟨tokens, .inWord word⟩ c = ⟨tokens, .inWord (word ++ [c])⟩ := if_pos hc
        rw [run_cons, hnext, ih, List.takeWhile_cons_of_pos hc, List.dropWhile_cons_of_pos hc,
          List.append_assoc]
        rfl
      · have hnext : next ⟨tokens, .inWord word⟩ c
            = begin (tokens ++ [.text (String.ofList word)]) c := if_neg hc
        rw [run_cons, hnext, List.takeWhile_cons_of_neg hc, List.dropWhile_cons_of_neg hc,
          List.append_nil]
        rfl

/-- A text in quotes goes on to the closing quote, and without one the scan stays in quotes. -/
theorem tokens?_run_inQuotes (tokens : List Token) (text : List Char) :
    ∀ seen : List Char, (run ⟨tokens, .inQuotes seen⟩ text).tokens?
      = (untilQuote? text).bind fun found =>
          (run ⟨tokens ++ [.text (String.ofList (seen ++ found.1))], .outside⟩ found.2).tokens? := by
  induction text using untilQuote?_induction with
  | nil => exact fun _ => rfl
  | quote rest =>
      intro seen
      rw [untilQuote?, Option.bind_some, List.append_nil]
      rfl
  | pending => exact fun _ => rfl
  | escape c rest ih =>
      intro seen
      have hnext : run ⟨tokens, .inQuotes seen⟩ ('\\' :: c :: rest)
          = run ⟨tokens, .inQuotes (seen ++ [c])⟩ rest := rfl
      rw [hnext, ih, untilQuote?_backslash, Option.bind_map]
      congr 1
      funext found
      simp only [Function.comp_apply, List.append_assoc, List.singleton_append]
  | plain c rest hquote hbackslash ih =>
      intro seen
      have hnext : next ⟨tokens, .inQuotes seen⟩ c = ⟨tokens, .inQuotes (seen ++ [c])⟩ := by
        simp [next, hquote, hbackslash]
      rw [run_cons, hnext, ih, untilQuote?_plain hquote hbackslash, Option.bind_map]
      congr 1
      funext found
      simp only [Function.comp_apply, List.append_assoc, List.singleton_append]

/-- A token that has been found is put behind those found before. -/
theorem map_append_cons (tokens : List Token) (t : Token) (found : Option (List Token)) :
    found.map (tokens ++ [t] ++ ·) = (found.map (t :: ·)).map (tokens ++ ·) := by
  rw [Option.map_map]
  congr 1
  funext others
  rw [List.append_assoc]
  rfl

/-- **From the outside, a scan finds the tokens that are read.** -/
theorem tokens?_run_outside (tokens : List Token) (text : List Char) :
    (run ⟨tokens, .outside⟩ text).tokens? = (Query.tokens? text).map (tokens ++ ·) := by
  cases text with
  | nil =>
      rw [Query.tokens?.eq_def, Option.map_some, List.append_nil]
      rfl
  | cons c text =>
      have hnext : next ⟨tokens, .outside⟩ c = begin tokens c := rfl
      rw [run_cons, hnext, begin]
      by_cases hopening : c = '('
      · subst hopening
        have hread : Query.tokens? ('(' :: text) = (Query.tokens? text).map (.opening :: ·) :=
          tokens?_print_append .opening text
        rw [if_pos (by decide), tokens?_run_outside, hread, map_append_cons]
      by_cases hclosing : c = ')'
      · subst hclosing
        have hread : Query.tokens? (')' :: text) = (Query.tokens? text).map (.closing :: ·) :=
          tokens?_print_append .closing text
        rw [if_neg (by decide), if_pos (by decide), tokens?_run_outside, hread, map_append_cons]
      by_cases hquote : c = '"'
      · subst hquote
        rw [if_neg (by decide), if_neg (by decide), if_pos (by decide), tokens?_run_inQuotes,
          tokens?_quote_eq]
        cases huntil : untilQuote? text with
        | none => rfl
        | some found =>
            obtain ⟨value, behind⟩ := found
            have := length_lt_of_untilQuote? huntil
            simp only [Option.bind_some, List.nil_append]
            rw [tokens?_run_outside, map_append_cons]
      rw [if_neg (by simpa using hopening), if_neg (by simpa using hclosing),
        if_neg (by simpa using hquote), tokens?_unmarked ⟨hopening, hclosing, hquote⟩]
      by_cases hblank : isBlank c = true
      · rw [if_pos hblank, if_pos hblank, tokens?_run_outside]
      · have := (List.dropWhile_sublist isBare (l := text)).length_le
        rw [if_neg hblank, if_neg hblank, tokens?_run_inWord, tokens?_run_outside, map_append_cons]
        rfl
termination_by text.length
decreasing_by all_goals (simp only [List.length_cons]; omega)

theorem tokens?_run (text : List Char) : (run start text).tokens? = Query.tokens? text := by
  rw [start, tokens?_run_outside]
  exact Option.map_id'

end Scan

/--
**The lexer of the grammar and the scan find the same tokens.**  The tokens of a query are those that
the scan has found when it ends outside quotes; a query has none exactly when the scan ends in
quotes, behind a backslash or not.  A lexer that goes by the terminals of the grammar comes to an end
of every query, and whichever terminal it tries first, it finds these tokens.  Where there are none it
reports that the query ends too early, and never that a character is unexpected.
-/
theorem tokens_of_scan (query : String) :
    tokenize? query = (Scan.start.run query.toList).tokens? ∧
    (tokenize? query = none ↔ (Scan.start.run query.toList).IsQuoting) ∧
    (∃ lexemes left, Lexes query.toList lexemes left) ∧
    ∀ lexemes left, Lexes query.toList lexemes left →
      (∀ tokens, lexed lexemes left = .ok tokens ↔
        (Scan.start.run query.toList).tokens? = some tokens) ∧
      (lexed lexemes left = .error .unexpectedEnd ↔
        (Scan.start.run query.toList).IsQuoting) ∧
      ∀ c, lexed lexemes left ≠ .error (.unexpectedCharacter c) := by
  have hscan : tokenize? query = (Scan.start.run query.toList).tokens? :=
    (Scan.tokens?_run query.toList).symm
  refine ⟨hscan, by rw [hscan, Scan.tokens?_eq_none_iff], exists_lexes _, ?_⟩
  intro lexemes left hlexes
  rw [lexed_of_lexes hlexes, ← Scan.tokens?_run, ← Scan.tokens?_eq_none_iff]
  cases (Scan.start.run query.toList).tokens? <;> simp

/-- A quote begins a text right behind a word, and the text goes on behind an escaped quote; where it
is not closed, the lexer stops at its beginning. -/
theorem tokens_of_scan_marks :
    (Lexes "a\"b\\\"\"".toList [(.bare, ['a']), (.quoted, "\"b\\\"\"".toList)] [] ∧
      lexed [(.bare, ['a']), (.quoted, "\"b\\\"\"".toList)] [] = .ok [.text "a", .text "b\""]) ∧
    Lexes "a\"b\\".toList [(.bare, ['a'])] "\"b\\".toList ∧
      lexed [(.bare, ['a'])] "\"b\\".toList = .error .unexpectedEnd := by
  have hword : ∀ rest : List Char, Terminal.bare.Takes ('a' :: '"' :: rest) ['a'] ('"' :: rest) :=
    fun rest => ⟨Pattern.match?_run_eq_some_iff.mpr
      ⟨'a', '"' :: rest, rfl, by decide, by rw [List.dropWhile_cons_of_neg (by decide)]⟩, rfl⟩
  have hquoted : Terminal.quoted.Takes "\"b\\\"\"".toList "\"b\\\"\"".toList [] :=
    ⟨match?_quoted_eq_some_iff.mpr ⟨"b\\\"\"".toList, "b\"".toList, by decide +kernel,
      by decide +kernel⟩, by decide +kernel⟩
  have hclosed : Lexes "a\"b\\\"\"".toList [(.bare, ['a']), (.quoted, "\"b\\\"\"".toList)] [] :=
    .takes (hword _) (.takes hquoted .ends)
  have hopen : Lexes "a\"b\\".toList [(.bare, ['a'])] "\"b\\".toList :=
    .takes (hword _) (.stops (by decide +kernel) (stuck_iff.mpr ⟨rfl, by decide +kernel⟩))
  exact ⟨⟨hclosed, (((tokens_of_scan _).2.2.2 _ _ hclosed).1 _).mpr (by decide +kernel)⟩, hopen,
    ((tokens_of_scan _).2.2.2 _ _ hopen).2.1.mpr ⟨['b'], Or.inr rfl⟩⟩

end MediaSearch.Query
