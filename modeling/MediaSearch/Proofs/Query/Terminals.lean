/-
The terminals of the query grammar.

The grammar gives each terminal a pattern.  A lexer that goes by it takes a terminal that
matches where it is, and goes on behind the match; where none matches it stops.  `Lexes`
says what such a lexer can take from a text and where it ends, and leaves open which
terminal it tries first.  What the matches stand for is settled afterwards: a quoted one
loses its quotes and its backslashes, and a gap stands for nothing (`lexed`).

Reading the tokens of a text comes to the same (`lexed_of_lexes`).  A closing quote is
looked for by a repetition that may give rounds up again, but no shorter match is ever
found that way: each round begins with something else than a quote, so a repetition that
ends one round earlier has no quote before it (`rests_toQuote`).
-/
import MediaSearch.Proofs.Query.Rendering
import MediaSearch.Proofs.Text.Pattern

namespace MediaSearch.Query

open Text

/-! ### Terminals -/

/-- The terminals of the grammar. -/
inductive Terminal
  /-- `(` -/
  | opening
  /-- `)` -/
  | closing
  /-- A text in quotes. -/
  | quoted
  /-- A text without quotes. -/
  | bare
  /-- Blanks, which are ignored. -/
  | gap

/-- A backslash with any character behind it, or a character that is neither a backslash nor a
quote. -/
def quotedUnit : Pattern :=
  .either (.seq (.one (· == '\\')) (.one fun _ => true)) (.one fun c => c != '"' && c != '\\')

/-- What stands between quotes, and the closing quote. -/
def toQuote : Pattern :=
  .seq (.many quotedUnit) (.one (· == '"'))

/-- The pattern of a terminal. -/
def Terminal.pattern : Terminal → Pattern
  | opening => .one (· == '(')
  | closing => .one (· == ')')
  | quoted => .seq (.one (· == '"')) toQuote
  | bare => .run isBare
  | gap => .run isBlank

/-- The terminal matches at the front of the text, takes the lexeme, and leaves the rest. -/
structure Terminal.Takes (t : Terminal) (text lexeme rest : List Char) : Prop where
  /-- What its pattern leaves. -/
  leaves : t.pattern.match? text = some rest
  /-- The lexeme is what stands before that. -/
  split : text = lexeme ++ rest

/-- A lexer takes these terminals with their lexemes from the text, one behind the other, and ends
before what is left. -/
inductive Lexes : List Char → List (Terminal × List Char) → List Char → Prop
  /-- At the end of the text there is nothing left. -/
  | ends : Lexes [] [] []
  /-- Where no terminal matches it stops. -/
  | stops {text : List Char} (more : text ≠ []) (stuck : ∀ t : Terminal, t.pattern.match? text = none) :
      Lexes text [] text
  /-- Where one matches it is taken, and the lexer goes on behind it. -/
  | takes {t : Terminal} {text lexeme rest left : List Char} {lexemes : List (Terminal × List Char)}
      (first : t.Takes text lexeme rest) (others : Lexes rest lexemes left) :
      Lexes text ((t, lexeme) :: lexemes) left

/-! ### What a lexer's lexemes stand for -/

/-- A text without its escapes: a backslash is dropped and the character behind it kept. -/
def unescaped : List Char → List Char
  | [] => []
  | '\\' :: c :: rest => c :: unescaped rest
  | c :: rest => c :: unescaped rest

/-- The token that a lexeme stands for; a gap stands for none. -/
def Terminal.token? (lexeme : List Char) : Terminal → Option Token
  | opening => some .opening
  | closing => some .closing
  | quoted => some (.text (String.ofList (unescaped lexeme.tail.dropLast)))
  | bare => some (.text (String.ofList lexeme))
  | gap => none

/-- Why a query has no tokens. -/
inductive LexError
  /-- It ends too early. -/
  | unexpectedEnd
  /-- No terminal begins with a character. -/
  | unexpectedCharacter (c : Char)
  deriving DecidableEq

/-- The tokens that the lexemes stand for, if nothing is left.  A quote that is left is one that is
never closed. -/
def lexed (lexemes : List (Terminal × List Char)) (left : List Char) :
    Except LexError (List Token) :=
  match left with
  | [] => .ok (lexemes.filterMap fun (t, lexeme) => t.token? lexeme)
  | '"' :: _ => .error .unexpectedEnd
  | c :: _ => .error (.unexpectedCharacter c)

theorem lexed_cons (t : Terminal) (lexeme : List Char) (lexemes : List (Terminal × List Char))
    (left : List Char) :
    lexed ((t, lexeme) :: lexemes) left
      = (lexed lexemes left).map ((t.token? lexeme).toList ++ ·) := by
  unfold lexed
  split
  · rw [List.filterMap_cons]
    dsimp only
    cases t.token? lexeme <;> rfl
  · rfl
  · rfl

/-! ### Up to the closing quote -/

/-- No round begins with a quote. -/
theorem rests_quotedUnit_quote (text : List Char) : quotedUnit.rests ('"' :: text) = [] := by
  simp [quotedUnit, Pattern.rests_one_cons_of_neg]

theorem rests_quotedUnit_backslash (text : List Char) :
    quotedUnit.rests ('\\' :: text) = (Pattern.one fun _ => true).rests text := by
  simp [quotedUnit, Pattern.rests_one_cons_of_pos, Pattern.rests_one_cons_of_neg]

theorem rests_quotedUnit_plain {c : Char} (hquote : c ≠ '"') (hbackslash : c ≠ '\\')
    (text : List Char) : quotedUnit.rests (c :: text) = [text] := by
  simp [quotedUnit, Pattern.rests_one_cons_of_pos, Pattern.rests_one_cons_of_neg, hquote,
    hbackslash]

/-- No quote is found before a round that can be done in one way only. -/
theorem rests_toQuote_of_unit {c : Char} {text rest : List Char} (hquote : c ≠ '"')
    (hunit : quotedUnit.rests (c :: text) = [rest]) (hlt : rest.length < (c :: text).length) :
    toQuote.rests (c :: text) = toQuote.rests rest := by
  rw [toQuote, Pattern.rests_seq, Pattern.rests_many_of_singleton hunit hlt, List.flatMap_append,
    List.flatMap_singleton, Pattern.rests_one_cons_of_neg (by simpa using hquote), List.append_nil,
    ← Pattern.rests_seq]

/-- **There is one match up to the closing quote or none**, however many rounds are given up. -/
theorem rests_toQuote (text : List Char) :
    toQuote.rests text = ((untilQuote? text).map (·.2)).toList := by
  induction text using untilQuote?_induction with
  | nil =>
      rw [toQuote, Pattern.rests_seq, Pattern.rests_many_of_nil]
      · simp [untilQuote?, Pattern.rests]
      · simp [quotedUnit, Pattern.rests]
  | quote rest =>
      rw [toQuote, Pattern.rests_seq, Pattern.rests_many_of_nil (rests_quotedUnit_quote rest),
        List.flatMap_singleton, Pattern.rests_one_cons_of_pos (by decide), untilQuote?]
      rfl
  | pending =>
      have hunit : quotedUnit.rests ['\\'] = [] := by
        rw [rests_quotedUnit_backslash, Pattern.rests]
      rw [toQuote, Pattern.rests_seq, Pattern.rests_many_of_nil hunit, List.flatMap_singleton,
        Pattern.rests_one_cons_of_neg (by decide), untilQuote?]
      rfl
  | escape c rest ih =>
      have hunit : quotedUnit.rests ('\\' :: c :: rest) = [rest] := by
        rw [rests_quotedUnit_backslash, Pattern.rests_one_cons_of_pos rfl]
      rw [rests_toQuote_of_unit (by decide) hunit (by simp only [List.length_cons]; omega), ih,
        untilQuote?_backslash, Option.map_map]
      rfl
  | plain c rest hquote hbackslash ih =>
      rw [rests_toQuote_of_unit hquote (rests_quotedUnit_plain hquote hbackslash rest) (by simp),
        ih, untilQuote?_plain hquote hbackslash, Option.map_map]
      rfl

/-- What is read up to the closing quote is what stands there without its escapes. -/
theorem unescaped_of_untilQuote? {text value behind : List Char}
    (h : untilQuote? text = some (value, behind)) :
    ∃ inner, text = inner ++ '"' :: behind ∧ unescaped inner = value := by
  induction text using untilQuote?_induction generalizing value behind with
  | nil => cases h
  | quote rest =>
      rw [untilQuote?, Option.some.injEq, Prod.mk.injEq] at h
      obtain ⟨rfl, rfl⟩ := h
      exact ⟨[], rfl, rfl⟩
  | pending => cases h
  | escape c rest ih =>
      rw [untilQuote?_backslash] at h
      obtain ⟨⟨text, behind⟩, hrest, heq⟩ := Option.map_eq_some_iff.mp h
      obtain ⟨rfl, rfl⟩ := Prod.mk.inj heq
      obtain ⟨inner, rfl, rfl⟩ := ih hrest
      exact ⟨'\\' :: c :: inner, rfl, by rw [unescaped]⟩
  | plain c rest hquote hbackslash ih =>
      rw [untilQuote?_plain hquote hbackslash] at h
      obtain ⟨⟨text, behind⟩, hrest, heq⟩ := Option.map_eq_some_iff.mp h
      obtain ⟨rfl, rfl⟩ := Prod.mk.inj heq
      obtain ⟨inner, rfl, rfl⟩ := ih hrest
      refine ⟨c :: inner, rfl, ?_⟩
      rw [unescaped]
      exact fun _ _ hc _ => hbackslash hc

/-! ### What a terminal takes -/

theorem match?_quoted_eq_some_iff {text rest : List Char} :
    Terminal.quoted.pattern.match? text = some rest ↔
      ∃ body value, text = '"' :: body ∧ untilQuote? body = some (value, rest) := by
  rw [Terminal.pattern, Pattern.match?, Pattern.rests_seq]
  constructor
  · intro h
    obtain ⟨middle, hmiddle, hrest⟩ := List.mem_flatMap.mp (List.mem_of_head? h)
    obtain ⟨c, rfl, hc⟩ := Pattern.mem_rests_one.mp hmiddle
    rw [rests_toQuote, Option.mem_toList, Option.map_eq_some_iff] at hrest
    obtain ⟨⟨value, behind⟩, huntil, rfl⟩ := hrest
    exact ⟨middle, value, by rw [beq_iff_eq.mp hc], huntil⟩
  · rintro ⟨body, value, rfl, huntil⟩
    rw [Pattern.rests_one_cons_of_pos (by decide), List.flatMap_singleton, rests_toQuote, huntil]
    rfl

/-- What a terminal takes is not empty. -/
theorem Terminal.length_lt_of_match? {t : Terminal} {text rest : List Char}
    (h : t.pattern.match? text = some rest) : rest.length < text.length := by
  cases t with
  | opening =>
      obtain ⟨c, rfl, -⟩ := Pattern.match?_one_eq_some_iff.mp h
      simp
  | closing =>
      obtain ⟨c, rfl, -⟩ := Pattern.match?_one_eq_some_iff.mp h
      simp
  | quoted =>
      obtain ⟨body, value, rfl, huntil⟩ := match?_quoted_eq_some_iff.mp h
      exact Nat.lt_succ_of_lt (length_lt_of_untilQuote? huntil)
  | bare =>
      obtain ⟨c, more, rfl, -, rfl⟩ := Pattern.match?_run_eq_some_iff.mp h
      exact Nat.lt_succ_of_le (List.dropWhile_sublist isBare).length_le
  | gap =>
      obtain ⟨c, more, rfl, -, rfl⟩ := Pattern.match?_run_eq_some_iff.mp h
      exact Nat.lt_succ_of_le (List.dropWhile_sublist isBlank).length_le

/-- Whatever the text is, a lexer comes to an end of it. -/
theorem exists_lexes (text : List Char) : ∃ lexemes left, Lexes text lexemes left := by
  by_cases hnil : text = []
  · exact ⟨[], [], hnil ▸ .ends⟩
  · by_cases hstuck : ∀ t : Terminal, t.pattern.match? text = none
    · exact ⟨[], text, .stops hnil hstuck⟩
    · obtain ⟨t, ht⟩ := not_forall.mp hstuck
      obtain ⟨rest, hrest⟩ := Option.ne_none_iff_exists'.mp ht
      obtain ⟨lexeme, hsplit⟩ := Pattern.suffix_of_match? hrest
      have := Terminal.length_lt_of_match? hrest
      obtain ⟨lexemes, left, hlexes⟩ := exists_lexes rest
      exact ⟨_, left, .takes ⟨hrest, hsplit.symm⟩ hlexes⟩
termination_by text.length

/-- **A terminal at the front of a text is read as the token that it stands for.** -/
theorem Terminal.Takes.tokens?_eq {t : Terminal} {text lexeme rest : List Char}
    (h : t.Takes text lexeme rest) :
    tokens? text = (tokens? rest).map ((t.token? lexeme).toList ++ ·) := by
  obtain ⟨hmatch, hsplit⟩ := h
  cases t with
  | opening =>
      obtain ⟨c, rfl, hc⟩ := Pattern.match?_one_eq_some_iff.mp hmatch
      rw [beq_iff_eq.mp hc]
      exact tokens?_print_append .opening rest
  | closing =>
      obtain ⟨c, rfl, hc⟩ := Pattern.match?_one_eq_some_iff.mp hmatch
      rw [beq_iff_eq.mp hc]
      exact tokens?_print_append .closing rest
  | quoted =>
      obtain ⟨body, value, rfl, huntil⟩ := match?_quoted_eq_some_iff.mp hmatch
      obtain ⟨inner, rfl, rfl⟩ := unescaped_of_untilQuote? huntil
      obtain rfl : lexeme = '"' :: (inner ++ ['"']) :=
        List.append_cancel_right (by rw [← hsplit]; simp)
      rw [tokens?_quote huntil, Terminal.token?, List.tail_cons, List.dropLast_concat]
      rfl
  | bare =>
      obtain ⟨c, more, rfl, hc, rfl⟩ := Pattern.match?_run_eq_some_iff.mp hmatch
      obtain rfl : lexeme = c :: more.takeWhile isBare :=
        List.append_cancel_right (by rw [← hsplit, List.cons_append, List.takeWhile_append_dropWhile])
      obtain ⟨hblank, hmarks⟩ := isBare_iff.mp hc
      rw [tokens?_unmarked hmarks, if_neg (by simp [hblank])]
      rfl
  | gap =>
      obtain ⟨c, more, rfl, hc, rfl⟩ := Pattern.match?_run_eq_some_iff.mp hmatch
      have hgap : IsGap lexeme := by
        obtain rfl : lexeme = c :: more.takeWhile isBlank :=
          List.append_cancel_right
            (by rw [← hsplit, List.cons_append, List.takeWhile_append_dropWhile])
        exact List.forall_mem_cons.mpr ⟨hc, fun d hd => List.mem_takeWhile_imp hd⟩
      rw [hsplit, tokens?_gap_append hgap]
      cases tokens? (more.dropWhile isBlank) <;> rfl

/-- **No terminal matches at a quote that is never closed, and nowhere else.** -/
theorem stuck_iff {c : Char} {text : List Char} :
    (∀ t : Terminal, t.pattern.match? (c :: text) = none) ↔ c = '"' ∧ untilQuote? text = none := by
  constructor
  · intro h
    have hone : ∀ {test : Char → Bool}, (Pattern.one test).match? (c :: text) = none →
        test c = false := by
      intro test hnone
      by_contra hc
      rw [Pattern.match?_one_eq_some_iff.mpr ⟨c, rfl, by simpa using hc⟩] at hnone
      exact nomatch hnone
    have hrun : ∀ {test : Char → Bool}, (Pattern.run test).match? (c :: text) = none →
        test c = false := by
      intro test hnone
      by_contra hc
      rw [Pattern.match?_run_eq_some_iff.mpr ⟨c, text, rfl, by simpa using hc, rfl⟩] at hnone
      exact nomatch hnone
    have hopening : c ≠ '(' := by simpa using hone (h .opening)
    have hclosing : c ≠ ')' := by simpa using hone (h .closing)
    have hblank : isBlank c = false := hrun (h .gap)
    have hbare : isBare c = false := hrun (h .bare)
    obtain rfl : c = '"' := by
      by_contra hquote
      rw [isBare_iff.mpr ⟨hblank, hopening, hclosing, hquote⟩] at hbare
      exact nomatch hbare
    refine ⟨rfl, ?_⟩
    cases huntil : untilQuote? text with
    | none => rfl
    | some found =>
        have hquoted := h .quoted
        rw [match?_quoted_eq_some_iff.mpr ⟨text, found.1, rfl, huntil⟩] at hquoted
        exact nomatch hquoted
  · rintro ⟨rfl, hnone⟩ t
    rw [Option.eq_none_iff_forall_ne_some]
    intro rest hrest
    cases t with
    | opening =>
        obtain ⟨c, hcons, hc⟩ := Pattern.match?_one_eq_some_iff.mp hrest
        rw [← (List.cons.inj hcons).1] at hc
        exact absurd hc (by decide)
    | closing =>
        obtain ⟨c, hcons, hc⟩ := Pattern.match?_one_eq_some_iff.mp hrest
        rw [← (List.cons.inj hcons).1] at hc
        exact absurd hc (by decide)
    | quoted =>
        obtain ⟨body, value, hcons, huntil⟩ := match?_quoted_eq_some_iff.mp hrest
        rw [← (List.cons.inj hcons).2, hnone] at huntil
        exact nomatch huntil
    | bare =>
        obtain ⟨c, more, hcons, hc, -⟩ := Pattern.match?_run_eq_some_iff.mp hrest
        rw [← (List.cons.inj hcons).1] at hc
        exact absurd hc (by decide)
    | gap =>
        obtain ⟨c, more, hcons, hc, -⟩ := Pattern.match?_run_eq_some_iff.mp hrest
        rw [← (List.cons.inj hcons).1] at hc
        exact absurd hc (by decide)

/-- **A lexer that goes by the grammar finds the tokens that are read**, and where there are none, it
stops at a quote. -/
theorem lexed_of_lexes {text left : List Char} {lexemes : List (Terminal × List Char)}
    (h : Lexes text lexemes left) :
    lexed lexemes left = (tokens? text).elim (.error .unexpectedEnd) .ok := by
  induction h with
  | ends => rw [tokens?.eq_def]; rfl
  | @stops text more stuck =>
      cases text with
      | nil => exact absurd rfl more
      | cons c text =>
          obtain ⟨rfl, hnone⟩ := stuck_iff.mp stuck
          rw [tokens?_unclosed hnone]
          rfl
  | takes first others ih =>
      rw [lexed_cons, ih, first.tokens?_eq]
      cases tokens? _ <;> rfl

end MediaSearch.Query
