/-
From the text of a query to its tokens.

Blanks separate tokens and are dropped.  A double quote opens a text that goes on to
the next double quote that no backslash stands before; everything else up to a
blank, a parenthesis or a quote is a text as it stands.  The one thing that can go
wrong is that a quote is never closed.
-/
import MediaSearch.Text.Blank
import MediaSearch.Query.Token

namespace MediaSearch.Query

open Text

/-- Whether a character can stand in a text without quotes. -/
def isBare (c : Char) : Bool :=
  !isBlank c && c != '(' && c != ')' && c != '"'

/-- The text up to the closing quote, and what follows that quote. -/
def untilQuote? : List Char → Option (List Char × List Char)
  | [] => none
  | '"' :: rest => some ([], rest)
  | ['\\'] => none
  | '\\' :: c :: rest => (untilQuote? rest).map fun (text, rest) => (c :: text, rest)
  | c :: rest => (untilQuote? rest).map fun (text, rest) => (c :: text, rest)

/-- What follows the closing quote is shorter than the text that it was looked for in. -/
theorem length_lt_of_untilQuote? {text value rest : List Char}
    (h : untilQuote? text = some (value, rest)) : rest.length < text.length := by
  induction text using untilQuote?.induct generalizing value rest with
  | case1 => simp [untilQuote?] at h
  | case2 tail => simp only [untilQuote?, Option.some.injEq, Prod.mk.injEq] at h; simp [← h.2]
  | case3 => simp [untilQuote?] at h
  | case4 c tail ih =>
    simp only [untilQuote?, Option.map_eq_some_iff] at h
    obtain ⟨⟨v, r⟩, hr, he⟩ := h
    simp only [Prod.mk.injEq] at he
    have := ih hr
    simp only [List.length_cons, ← he.2]
    omega
  | case5 c tail h1 h2 h3 ih =>
    rw [untilQuote?] at h
    · simp only [Option.map_eq_some_iff] at h
      obtain ⟨⟨v, r⟩, hr, he⟩ := h
      simp only [Prod.mk.injEq] at he
      have := ih hr
      simp only [List.length_cons, ← he.2]
      omega
    all_goals assumption

/-- The tokens of a text, unless a quote in it is never closed. -/
def tokens? (text : List Char) : Option (List Token) :=
  match text with
  | [] => some []
  | '(' :: rest => (tokens? rest).map (.opening :: ·)
  | ')' :: rest => (tokens? rest).map (.closing :: ·)
  | '"' :: rest =>
    match _h : untilQuote? rest with
    | none => none
    | some (value, behind) => (tokens? behind).map (.text (String.ofList value) :: ·)
  | c :: rest =>
    if isBlank c then tokens? rest
    else
      (tokens? (rest.dropWhile isBare)).map
        (.text (String.ofList (c :: rest.takeWhile isBare)) :: ·)
termination_by text.length
decreasing_by
  all_goals simp only [List.length_cons]
  · omega
  · omega
  · have := length_lt_of_untilQuote? ‹_›; omega
  · omega
  · have := (List.dropWhile_sublist isBare (l := rest)).length_le; omega

/-- The tokens of a query, unless a quote in it is never closed. -/
def tokenize? (query : String) : Option (List Token) :=
  tokens? query.toList

end MediaSearch.Query
