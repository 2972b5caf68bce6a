/-
Queries that come in parts.

A part whose tokens are read has been scanned to a place outside quotes, and a blank ends whatever
is there (`Scan.next_blank`).  So behind a gap a scan goes on as it does at the beginning of a
query, and the tokens of the parts are read one after the other (`tokens?_append_gap`).  A quote
that is not closed in the last part is not closed at all.

A query may be cut at any boundary between tokens: outside quotes, and not between two characters
of a word.  There the scan would have gone on in the same way without a gap
(`tokens?_append_of_boundary`), so putting the parts together with gaps gives the same tokens.
-/
import Mathlib.Data.List.Forall2
import MediaSearch.Cli.Command
import MediaSearch.Proofs.Query.Scanning

namespace MediaSearch.Query

open Text

variable {text front behind gap : List Char} {parts : List (List Char)} {ts : List Token} {c : Char}

/-! ### Past a gap -/

namespace Scan

variable {s : Scan}

theorem run_append (s : Scan) (text more : List Char) :
    s.run (text ++ more) = (s.run text).run more :=
  List.foldl_append

/-- Outside quotes a blank ends whatever is there. -/
theorem next_blank (hs : s.tokens? = some ts) (hc : isBlank c = true) :
    s.next c = ⟨ts, .outside⟩ := by
  obtain ⟨tokens, place⟩ := s
  have hbegin : ∀ tokens, begin tokens c = ⟨tokens, .outside⟩ := by
    intro tokens
    obtain ⟨hopening, hclosing, hquote⟩ := unmarked_of_isBlank hc
    rw [begin, if_neg (by simpa using hopening), if_neg (by simpa using hclosing),
      if_neg (by simpa using hquote), if_pos hc]
  cases place with
  | outside =>
      obtain rfl := Option.some.inj hs
      exact hbegin tokens
  | inWord word =>
      obtain rfl := Option.some.inj hs
      rw [next]
      dsimp only
      rw [if_neg (by simp [not_isBare_of_isBlank hc]), hbegin]
  | inQuotes text => cases hs
  | behindBackslash text => cases hs

/-- Behind a gap the scan is outside, with all the tokens before the gap. -/
theorem run_gap (hs : s.tokens? = some ts) (hne : gap ≠ []) (hgap : IsGap gap) :
    s.run gap = ⟨ts, .outside⟩ := by
  have hrest : ∀ gap, IsGap gap → run ⟨ts, .outside⟩ gap = ⟨ts, .outside⟩ := by
    intro gap
    induction gap with
    | nil => exact fun _ => rfl
    | cons c rest ih =>
        intro hgap
        obtain ⟨hc, hrest⟩ := List.forall_mem_cons.mp hgap
        rw [run_cons, next_blank rfl hc, ih hrest]
  obtain ⟨c, rest, rfl⟩ := List.exists_cons_of_ne_nil hne
  obtain ⟨hc, hmore⟩ := List.forall_mem_cons.mp hgap
  rw [run_cons, next_blank hs hc, hrest rest hmore]

end Scan

/-- **Behind a gap the tokens are read as if nothing stood before it.** -/
theorem tokens?_append_gap (hfront : tokens? front = some ts) (hne : gap ≠ []) (hgap : IsGap gap)
    (behind : List Char) : tokens? (front ++ (gap ++ behind)) = (tokens? behind).map (ts ++ ·) := by
  rw [← Scan.tokens?_run] at hfront ⊢
  rw [Scan.run_append, Scan.run_append, Scan.run_gap hfront hne hgap, Scan.tokens?_run_outside]

/-! ### Parts with gaps between them -/

/-- The text is the parts in order, with a gap between any two of them. -/
inductive Joins : List (List Char) → List Char → Prop
  /-- There are no parts, -/
  | empty : Joins [] []
  /-- there is one, -/
  | one (part : List Char) : Joins [part] part
  /-- or one and a gap before the others. -/
  | more {part gap next text : List Char} {parts : List (List Char)} (some : gap ≠ [])
      (blank : IsGap gap) (others : Joins (next :: parts) text) :
      Joins (part :: next :: parts) (part ++ (gap ++ text))

/-- The tokens of the parts are read one after the other. -/
theorem Joins.tokens?_eq (h : Joins parts text) {read : List (List Token)}
    (hread : List.Forall₂ (fun part ts => tokens? part = some ts) parts read) :
    tokens? text = some read.flatten := by
  induction h generalizing read with
  | empty =>
      cases hread
      exact tokens?.eq_def []
  | one part =>
      obtain ⟨ts, _, hpart, hrest, rfl⟩ := List.forall₂_cons_left_iff.mp hread
      cases hrest
      rw [hpart, List.flatten_cons, List.flatten_nil, List.append_nil]
  | more some blank others ih =>
      obtain ⟨ts, rest, hpart, hrest, rfl⟩ := List.forall₂_cons_left_iff.mp hread
      rw [tokens?_append_gap hpart some blank, ih hrest, Option.map_some, List.flatten_cons]

/-- A quote that is not closed in the last part is not closed. -/
theorem Joins.tokens?_eq_none {front : List (List Char)} {last : List Char}
    (h : Joins (front ++ [last]) text) (hfront : ∀ part ∈ front, tokens? part ≠ none)
    (hlast : tokens? last = none) : tokens? text = none := by
  induction front generalizing text with
  | nil =>
      cases h
      exact hlast
  | cons part rest ih =>
      obtain ⟨hpart, hrest⟩ := List.forall_mem_cons.mp hfront
      obtain ⟨ts, hts⟩ := Option.ne_none_iff_exists'.mp hpart
      obtain ⟨next, parts, hnext⟩ := List.exists_cons_of_ne_nil (List.concat_ne_nil last rest)
      rw [List.cons_append, hnext] at h
      cases h with
      | more some blank others =>
          rw [tokens?_append_gap hts some blank, ih (hnext ▸ others) hrest, Option.map_none]

/-! ### Cutting a query -/

/-- Between the two texts is a boundary of tokens: a scan of the first is outside, or at the end of
a word with which the second does not go on. -/
def IsBoundary (front behind : List Char) : Prop :=
  match (Scan.start.run front).place with
  | .outside => True
  | .inWord _ => NoWordFirst behind
  | .inQuotes _ => False
  | .behindBackslash _ => False

/-- At a boundary the tokens of the two texts are read one after the other. -/
theorem tokens?_append_of_boundary (h : IsBoundary front behind) :
    ∃ ts, tokens? front = some ts ∧
      tokens? (front ++ behind) = (tokens? behind).map (ts ++ ·) := by
  simp only [← Scan.tokens?_run front, ← Scan.tokens?_run (front ++ behind), Scan.run_append]
  rw [IsBoundary] at h
  generalize Scan.start.run front = s at h ⊢
  obtain ⟨tokens, place⟩ := s
  cases place with
  | outside => exact ⟨tokens, rfl, Scan.tokens?_run_outside tokens behind⟩
  | inWord word =>
      refine ⟨_, rfl, ?_⟩
      rw [← Scan.tokens?_run_outside]
      cases behind with
      | nil => rfl
      | cons c rest =>
          have hnext : Scan.next ⟨tokens, .inWord word⟩ c
              = Scan.begin (tokens ++ [.text (String.ofList word)]) c :=
            if_neg (by simp [h c rest rfl])
          rw [Scan.run_cons, hnext]
          rfl
  | inQuotes text => exact h.elim
  | behindBackslash text => exact h.elim

/-- The text is cut into the parts at boundaries of tokens. -/
inductive CutInto : List Char → List (List Char) → Prop
  /-- It is in one piece, -/
  | whole (text : List Char) : CutInto text [text]
  /-- or there is a boundary behind its first part. -/
  | cut {front behind : List Char} {parts : List (List Char)} (boundary : IsBoundary front behind)
      (others : CutInto behind parts) : CutInto (front ++ behind) (front :: parts)

/-- **Parts that are joined again have the tokens of the text that they were cut from.** -/
theorem CutInto.tokens?_eq {whole : List Char} (hcut : CutInto whole parts) (h : Joins parts text) :
    tokens? text = tokens? whole := by
  induction hcut generalizing text with
  | whole whole =>
      cases h
      rfl
  | cut boundary others ih =>
      obtain ⟨ts, hfront, hwhole⟩ := tokens?_append_of_boundary boundary
      cases h with
      | one part => cases others
      | more some blank joined =>
          rw [tokens?_append_gap hfront some blank, ih joined, hwhole]

/-! ### Queries -/

/-- The query is the parts in order, with blanks between any two of them. -/
def Joined (parts : List String) (query : String) : Prop :=
  Joins (parts.map String.toList) query.toList

/-- The query is cut into the parts at boundaries of tokens. -/
def CutAtTokens (query : String) (parts : List String) : Prop :=
  CutInto query.toList (parts.map String.toList)

/-- Operands are joined by single blanks. -/
theorem joins_intercalate (parts : List (List Char)) : Joins parts ([' '].intercalate parts) := by
  induction parts with
  | nil => exact .empty
  | cons part parts ih =>
      cases parts with
      | nil =>
          rw [List.intercalate_singleton]
          exact .one part
      | cons next parts =>
          rw [List.intercalate_cons_cons, List.append_assoc]
          refine .more (by simp) ?_ ih
          intro c hc
          rw [List.mem_singleton.mp hc]
          decide

theorem joined_of_operands {callee : Cli.Callee} {name query : String} {operands : List String}
    (h : callee.joinedOperands name operands = .ok query) : Joined operands query := by
  unfold Cli.Callee.joinedOperands at h
  split at h
  · exact nomatch h
  · obtain rfl := Except.ok.inj h
    rw [Joined, String.toList_intercalate]
    exact joins_intercalate _

/-- Only the tokens of a query count for what it is read as. -/
theorem parse_eq_of_tokenize? {query query' : String} (h : tokenize? query = tokenize? query')
    (clock : Clock) : parse clock query = parse clock query' := by
  rw [parse, parse, h]

/--
**Joining parts of a query joins their tokens.**  If the tokens of each part can be read, those of
the whole are theirs, in order.  If those of the last part alone cannot, the query ends too early.
So a query may be cut at any boundaries of tokens: joined again with blanks between them, as a
command joins its operands, the parts are the same tokens, and they are read as the same expression
or rejected for the same reason.
-/
theorem joining_joins_tokens :
    (∀ (callee : Cli.Callee) (name query : String) (operands : List String),
      callee.joinedOperands name operands = .ok query → Joined operands query) ∧
    ∀ (parts : List String) (query : String), Joined parts query →
      (∀ tokens : List (List Token),
        List.Forall₂ (fun part ts => tokenize? part = some ts) parts tokens →
        tokenize? query = some tokens.flatten) ∧
      (∀ (front : List String) (last : String), parts = front ++ [last] →
        (∀ part ∈ front, tokenize? part ≠ none) → tokenize? last = none →
        tokenize? query = none ∧ ∀ clock, parse clock query = .error (.rejected .incomplete)) ∧
      ∀ whole : String, CutAtTokens whole parts →
        tokenize? query = tokenize? whole ∧ ∀ clock, parse clock query = parse clock whole := by
  refine ⟨fun _ _ _ _ h => joined_of_operands h, fun parts query h => ⟨fun tokens hread => ?_, ?_,
    fun whole hcut => ?_⟩⟩
  · exact Joins.tokens?_eq h (List.forall₂_map_left_iff.mpr hread)
  · rintro front last rfl hfront hlast
    have hchars : Joins (front.map String.toList ++ [last.toList]) query.toList := by
      rwa [Joined, List.map_append] at h
    have hnone : tokenize? query = none :=
      hchars.tokens?_eq_none (List.forall_mem_map.mpr hfront) hlast
    exact ⟨hnone, fun clock => by rw [parse, hnone]⟩
  · have hsame : tokenize? query = tokenize? whole := CutInto.tokens?_eq hcut h
    exact ⟨hsame, parse_eq_of_tokenize? hsame⟩

/-- Parts of a query, two of them with a word at their end. -/
def tagParts : List String :=
  ["(tag", "\"a b\"c\\", ")"]

/-- They are joined by different blanks, and by single ones as operands; they are what one query is
cut into that has no blank between its tokens.  Without its end the text in quotes is not closed by
anything. -/
theorem joining_joins_tokens_of_tag :
    ((Cli.Callee.command .search).joinedOperands "QUERY" tagParts = .ok "(tag \"a b\"c\\ )" ∧
      Joined tagParts "(tag \"a b\"c\\ )") ∧
    (Joined tagParts "(tag\n\t\"a b\"c\\ )" ∧
      List.Forall₂ (fun part ts => tokenize? part = some ts) tagParts
        [[.opening, .text "tag"], [.text "a b", .text "c\\"], [.closing]] ∧
      tokenize? "(tag\n\t\"a b\"c\\ )"
        = some [.opening, .text "tag", .text "a b", .text "c\\", .closing]) ∧
    (CutAtTokens "(tag\"a b\"c\\)" tagParts ∧
      ∀ clock, parse clock "(tag\n\t\"a b\"c\\ )" = parse clock "(tag\"a b\"c\\)") ∧
    Joined ["(tag", "\"a b"] "(tag \"a b" ∧ tokenize? "(tag" ≠ none ∧ tokenize? "\"a b" = none ∧
      tokenize? "(tag \"a b" = none := by
  obtain ⟨hoperands, hjoined⟩ := joining_joins_tokens
  have hsingle : " ".intercalate tagParts = "(tag \"a b\"c\\ )" := by decide +kernel
  have hcall : (Cli.Callee.command .search).joinedOperands "QUERY" tagParts
      = .ok "(tag \"a b\"c\\ )" := congrArg Except.ok hsingle
  have hparts : Joined tagParts "(tag\n\t\"a b\"c\\ )" := by
    have hgap : IsGap "\n\t".toList := List.all_eq_true.mp (by decide)
    have hspace : IsGap " ".toList := List.all_eq_true.mp (by decide)
    exact .more (by decide +kernel) hgap (.more (by decide +kernel) hspace (.one _))
  have hread : List.Forall₂ (fun part ts => tokenize? part = some ts) tagParts
      [[.opening, .text "tag"], [.text "a b", .text "c\\"], [.closing]] :=
    .cons (by decide +kernel) (.cons (by decide +kernel) (.cons (by decide +kernel) .nil))
  have hcut : CutAtTokens "(tag\"a b\"c\\)" tagParts := by
    have hname : IsBoundary "(tag".toList "\"a b\"c\\)".toList := by
      rintro c rest h
      obtain rfl := (List.cons.inj h).1
      decide
    have htexts : IsBoundary "\"a b\"c\\".toList ")".toList := by
      rintro c rest h
      obtain rfl := (List.cons.inj h).1
      decide
    exact .cut hname (.cut htexts (.whole _))
  have hopen : Joined ["(tag", "\"a b"] "(tag \"a b" := by
    have hspace : IsGap " ".toList := List.all_eq_true.mp (by decide)
    exact .more (by decide +kernel) hspace (.one _)
  have htag : tokenize? "(tag" ≠ none := by decide +kernel
  have hquote : tokenize? "\"a b" = none := by decide +kernel
  refine ⟨⟨hcall, hoperands _ _ _ _ hcall⟩, ⟨hparts, hread, (hjoined _ _ hparts).1 _ hread⟩,
    ⟨hcut, ((hjoined _ _ hparts).2.2 _ hcut).2⟩, hopen, htag, hquote, ?_⟩
  exact ((hjoined _ _ hopen).2.1 ["(tag"] _ rfl (by simpa using htag) hquote).1

end MediaSearch.Query
