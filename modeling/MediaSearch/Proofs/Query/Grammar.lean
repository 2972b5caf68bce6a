/-
The grammar of the query language: reading accepts it, and nothing else.

`Derives clock e ts` says that the tokens `ts`, from the first to the last, are one
form of the grammar and that it means `e`.  The relation is written in terms of the
functions' names and of what a time string resolves to; it knows nothing of how the
reader finds its way through the tokens.

Reading and the grammar are tied together at the front of an arbitrary list of
tokens.  A reader that succeeds has taken a derivable piece off the front
(`form_derives`), and a derivable piece is taken off the front whatever stands behind
it (`form_of_derives`).  The second half is what makes the length of a form its own
affair: nothing that follows it is looked at.
-/
import MediaSearch.Query.Parser

namespace MediaSearch.Query

/-! ### The names of functions -/

/-- The name of the function that compares a field. -/
def Field.name : Field → String
  | tag => "tag"
  | site => "site"
  | fulltext => "fulltext"
  | title => "title"
  | metadata => "meta"
  | description => "desc"
  | url => "url"

/-- The name of the function that compares the time of publication. -/
def Relation.name : Relation → String
  | after => "after"
  | before => "before"
  | during => "during"

/-- The name of a function of one text. -/
def Leaf.name : Leaf → String
  | text field => field.name
  | kind => "type"
  | published relation => relation.name

/-- The name of a function. -/
def Function.name : Function → String
  | all => "and"
  | any => "or"
  | not => "not"
  | leaf l => l.name

/-- Looking a name up finds the function that has it. -/
theorem Function.ofName?_eq_some_iff {name : String} {f : Function} :
    Function.ofName? name = some f ↔ name = f.name := by
  constructor
  · intro h
    have hall : ∀ entry ∈ Function.named, entry.1 = entry.2.name := by decide
    obtain ⟨before, behind, htable, -⟩ := List.lookup_eq_some_iff.mp h
    exact hall (name, f) (by rw [htable]; simp)
  · rintro rfl
    rcases f with _ | _ | _ | (_ | _ | _) <;> first | rfl | (rename_i x; cases x <;> rfl)

/-- Looking a kind of media up finds the one that has the name. -/
theorem lookup_kind_eq_some_iff {name : String} {k : MediaKind} :
    MediaKind.named.lookup name = some k ↔ name = k.name := by
  constructor
  · intro h
    have hall : ∀ entry ∈ MediaKind.named, entry.1 = entry.2.name := by decide
    obtain ⟨before, behind, htable, -⟩ := List.lookup_eq_some_iff.mp h
    exact hall (name, k) (by rw [htable]; simp)
  · rintro rfl
    cases k <;> rfl

/-! ### The grammar -/

/-- What a function of one text means when it is given an argument: a field's text is kept as it is
written, a kind of media is named in any case, and a time string has to stand for something now,
`during` for a span. -/
inductive Leaf.Makes (clock : Clock) : Leaf → String → Expr → Prop
  | text (field : Field) (value : String) : Makes clock (.text field) value (.text field value)
  | kind {k : MediaKind} {value : String} (named : Text.lowered value = k.name) :
      Makes clock .kind value (.kind k)
  | published {relation : Relation} {time : String} {spec : TimeSpec}
      (resolves : TimeString.resolve time clock.now clock.zone = .ok spec)
      (spans : relation = .during → spec.isSpan = true) :
      Makes clock (.published relation) time (.published relation time)

mutual

/-- The tokens are one form, and this is what it means. -/
inductive Derives (clock : Clock) : Expr → List Token → Prop
  | all {name : String} {es : List Expr} {ts : List Token} (named : Text.lowered name = "and")
      (some : es ≠ []) (inner : DerivesAll clock es ts) :
      Derives clock (.all es) (.opening :: .text name :: (ts ++ [.closing]))
  | any {name : String} {es : List Expr} {ts : List Token} (named : Text.lowered name = "or")
      (some : es ≠ []) (inner : DerivesAll clock es ts) :
      Derives clock (.any es) (.opening :: .text name :: (ts ++ [.closing]))
  | not {name : String} {e : Expr} {ts : List Token} (named : Text.lowered name = "not")
      (inner : Derives clock e ts) :
      Derives clock (.not e) (.opening :: .text name :: (ts ++ [.closing]))
  | leaf {name argument : String} {l : Leaf} {e : Expr} (named : Text.lowered name = l.name)
      (makes : l.Makes clock argument e) :
      Derives clock e [.opening, .text name, .text argument, .closing]

/-- The tokens are forms in a row, and this is what they mean one by one. -/
inductive DerivesAll (clock : Clock) : List Expr → List Token → Prop
  | nil : DerivesAll clock [] []
  | cons {e : Expr} {es : List Expr} {ts us : List Token} (first : Derives clock e ts)
      (others : DerivesAll clock es us) : DerivesAll clock (e :: es) (ts ++ us)

end

/-- A form begins with an opening parenthesis. -/
theorem Derives.opens {clock : Clock} {e : Expr} {ts : List Token} (h : Derives clock e ts) :
    ∃ rest, ts = .opening :: rest := by
  cases h <;> exact ⟨_, rfl⟩

/-! ### What one step of reading does -/

variable {clock : Clock}

theorem Leaf.build_eq_ok_iff {leaf : Leaf} {argument : String} {e : Expr} :
    leaf.build clock argument = .ok e ↔ leaf.Makes clock argument e := by
  constructor
  · intro h
    cases leaf with
    | text field =>
        simp only [Leaf.build, Except.ok.injEq] at h
        subst h
        exact .text field argument
    | kind =>
        simp only [Leaf.build] at h
        split at h
        · rename_i found hfound
          rw [Except.ok.injEq] at h
          subst h
          exact .kind (lookup_kind_eq_some_iff.mp hfound)
        · simp at h
    | published relation =>
        simp only [Leaf.build] at h
        split at h
        · rename_i spec hspec
          split at h
          · simp at h
          · rename_i hspan
            rw [Except.ok.injEq] at h
            subst h
            refine .published hspec ?_
            intro hduring
            simpa [hduring] using hspan
        · simp at h
        · simp at h
  · intro h
    cases h with
    | text field => rfl
    | kind named => simp only [Leaf.build, lookup_kind_eq_some_iff.mpr named]
    | published resolves spans =>
        rename_i relation spec
        simp only [Leaf.build, resolves]
        rw [if_neg]
        by_cases hduring : relation = .during
        · simp [spans hduring]
        · simp [hduring]

/-- The argument of a function of one text is read exactly when it is one text, fits the function,
and is followed by the end of the form. -/
theorem leafForm_eq_ok_iff {name : String} {leaf : Leaf} {tokens rest : List Token} {e : Expr} :
    (∃ h, leafForm clock name leaf tokens = .ok ⟨e, rest, h⟩) ↔
      ∃ argument, tokens = .text argument :: .closing :: rest ∧ leaf.Makes clock argument e := by
  constructor
  · rintro ⟨hlt, h⟩
    unfold leafForm at h
    split at h
    · simp at h
    · simp at h
    · simp at h
    · rename_i argument behind
      split at h
      · rename_i made hmade
        simp only [Except.ok.injEq, Taken.mk.injEq] at h
        obtain ⟨rfl, rfl⟩ := h
        exact ⟨argument, rfl, Leaf.build_eq_ok_iff.mp hmade⟩
      · simp at h
    · simp at h
  · rintro ⟨argument, rfl, hmakes⟩
    refine ⟨by simp only [List.length_cons]; omega, ?_⟩
    simp only [leafForm, Leaf.build_eq_ok_iff.mpr hmakes]

/-- The four ways in which a form is read, by the function that its name selects. -/
inductive FormStep (clock : Clock) : List Token → Expr → List Token → Prop
  | all {name : String} {inner rest : List Token} {es : List Expr} {h}
      (named : Text.lowered name = "and") (some : es ≠ [])
      (reads : forms clock inner = .ok ⟨es, rest, h⟩) :
      FormStep clock (.opening :: .text name :: inner) (.all es) rest
  | any {name : String} {inner rest : List Token} {es : List Expr} {h}
      (named : Text.lowered name = "or") (some : es ≠ [])
      (reads : forms clock inner = .ok ⟨es, rest, h⟩) :
      FormStep clock (.opening :: .text name :: inner) (.any es) rest
  | not {name : String} {inner rest : List Token} {e : Expr} {h}
      (named : Text.lowered name = "not")
      (reads : form clock inner = .ok ⟨e, .closing :: rest, h⟩) :
      FormStep clock (.opening :: .text name :: inner) (.not e) rest
  | leaf {name argument : String} {l : Leaf} {rest : List Token} {e : Expr}
      (named : Text.lowered name = l.name) (makes : l.Makes clock argument e) :
      FormStep clock (.opening :: .text name :: .text argument :: .closing :: rest) e rest

theorem form_eq_ok_iff {tokens rest : List Token} {e : Expr} :
    (∃ h, form clock tokens = .ok ⟨e, rest, h⟩) ↔ FormStep clock tokens e rest := by
  constructor
  · rintro ⟨hlt, h⟩
    rw [form.eq_def] at h
    split at h
    case h_7 name inner =>
      dsimp only at h
      split at h
      case h_1 => simp at h
      case h_2 hname =>
        split at h
        · simp at h
        · split at h
          · simp at h
          · rename_i children hchildren hsome
            simp only [Taken.map, Taken.widen, Except.ok.injEq, Taken.mk.injEq] at h
            obtain ⟨rfl, rfl⟩ := h
            exact .all (Function.ofName?_eq_some_iff.mp hname) (by simpa using hsome) hchildren
      case h_3 hname =>
        split at h
        · simp at h
        · split at h
          · simp at h
          · rename_i children hchildren hsome
            simp only [Taken.map, Taken.widen, Except.ok.injEq, Taken.mk.injEq] at h
            obtain ⟨rfl, rfl⟩ := h
            exact .any (Function.ofName?_eq_some_iff.mp hname) (by simpa using hsome) hchildren
      case h_4 hname =>
        split at h
        · simp at h
        · rename_i child behind hshorter hchild
          simp only [Except.ok.injEq, Taken.mk.injEq] at h
          obtain ⟨rfl, rfl⟩ := h
          exact .not (Function.ofName?_eq_some_iff.mp hname) hchild
        · simp at h
      case h_5 leaf hname =>
        split at h
        · simp at h
        · rename_i taken htaken
          simp only [Taken.widen, Except.ok.injEq, Taken.mk.injEq] at h
          obtain ⟨rfl, rfl⟩ := h
          obtain ⟨argument, hinner, hmakes⟩ := leafForm_eq_ok_iff.mp ⟨_, htaken⟩
          have hstep : FormStep clock
              (.opening :: .text name :: .text argument :: .closing :: taken.rest) taken.value
              taken.rest :=
            .leaf (Function.ofName?_eq_some_iff.mp hname) hmakes
          rwa [← hinner] at hstep
    all_goals simp at h
  · intro h
    cases h with
    | all named some reads =>
        have hname := Function.ofName?_eq_some_iff (f := .all).mpr named
        refine ⟨by simp only [List.length_cons]; omega, ?_⟩
        rw [form.eq_def]
        simp only [hname, reads]
        rw [if_neg (by simpa using some)]
        rfl
    | any named some reads =>
        have hname := Function.ofName?_eq_some_iff (f := .any).mpr named
        refine ⟨by simp only [List.length_cons]; omega, ?_⟩
        rw [form.eq_def]
        simp only [hname, reads]
        rw [if_neg (by simpa using some)]
        rfl
    | not named reads =>
        rename_i hlt
        have hname := Function.ofName?_eq_some_iff (f := .not).mpr named
        refine ⟨by simp only [List.length_cons] at hlt ⊢; omega, ?_⟩
        rw [form.eq_def]
        simp only [hname, reads]
    | leaf named makes =>
        rename_i name argument l
        have hname := Function.ofName?_eq_some_iff (f := .leaf l).mpr named
        obtain ⟨_, hleaf⟩ : ∃ h, leafForm clock name l (.text argument :: .closing :: rest)
            = .ok ⟨e, rest, h⟩ :=
          leafForm_eq_ok_iff.mpr ⟨argument, rfl, makes⟩
        refine ⟨by simp only [List.length_cons]; omega, ?_⟩
        rw [form.eq_def]
        simp only [hname, hleaf]
        rfl

/-- Forms in a row are read one by one up to the closing parenthesis. -/
theorem forms_eq_ok_iff {tokens rest : List Token} {es : List Expr} :
    (∃ h, forms clock tokens = .ok ⟨es, rest, h⟩) ↔
      (tokens = .closing :: rest ∧ es = []) ∨
      ∃ e others behind h₁ h₂, es = e :: others ∧
        form clock tokens = .ok ⟨e, behind, h₁⟩ ∧ forms clock behind = .ok ⟨others, rest, h₂⟩ := by
  constructor
  · rintro ⟨hlt, h⟩
    rw [forms.eq_def] at h
    split at h
    · simp at h
    · simp only [Except.ok.injEq, Taken.mk.injEq] at h
      obtain ⟨rfl, rfl⟩ := h
      exact Or.inl ⟨rfl, rfl⟩
    · split at h
      · simp at h
      · rename_i first hfirst
        split at h
        · simp at h
        · rename_i others hothers
          simp only [Except.ok.injEq, Taken.mk.injEq] at h
          obtain ⟨rfl, rfl⟩ := h
          exact Or.inr ⟨_, _, _, _, _, rfl, hfirst, hothers⟩
  · rintro (⟨rfl, rfl⟩ | ⟨e, others, behind, h₁, h₂, rfl, hfirst, hothers⟩)
    · exact ⟨by simp, by rw [forms.eq_def]⟩
    · refine ⟨Nat.lt_trans h₂ h₁, ?_⟩
      obtain ⟨name, inner, rfl⟩ : ∃ name inner, tokens = .opening :: .text name :: inner := by
        cases form_eq_ok_iff.mp ⟨_, hfirst⟩ <;> exact ⟨_, _, rfl⟩
      rw [forms.eq_def]
      simp only [hfirst, hothers]

/-! ### Reading and the grammar -/

mutual

/-- What is read off the front is a form of the grammar. -/
theorem form_derives {tokens rest : List Token} {e : Expr} {h}
    (hread : form clock tokens = .ok ⟨e, rest, h⟩) :
    ∃ ts, tokens = ts ++ rest ∧ Derives clock e ts := by
  cases form_eq_ok_iff.mp ⟨_, hread⟩ with
  | all named some reads =>
      obtain ⟨ts, rfl, hts⟩ := forms_derive reads
      exact ⟨_, by simp, .all named some hts⟩
  | any named some reads =>
      obtain ⟨ts, rfl, hts⟩ := forms_derive reads
      exact ⟨_, by simp, .any named some hts⟩
  | not named reads =>
      obtain ⟨ts, rfl, hts⟩ := form_derives reads
      exact ⟨_, by simp, .not named hts⟩
  | leaf named makes => exact ⟨_, rfl, .leaf named makes⟩
termination_by (tokens.length, 0)

/-- What is read up to a closing parenthesis is forms of the grammar in a row. -/
theorem forms_derive {tokens rest : List Token} {es : List Expr} {h}
    (hread : forms clock tokens = .ok ⟨es, rest, h⟩) :
    ∃ ts, tokens = ts ++ .closing :: rest ∧ DerivesAll clock es ts := by
  rcases forms_eq_ok_iff.mp ⟨_, hread⟩ with ⟨rfl, rfl⟩ | ⟨e, others, behind, h₁, h₂, rfl, hf, hs⟩
  · exact ⟨[], rfl, .nil⟩
  · obtain ⟨ts, hts, hfirst⟩ := form_derives hf
    obtain ⟨us, rfl, hothers⟩ := forms_derive hs
    exact ⟨ts ++ us, by rw [hts, List.append_assoc], .cons hfirst hothers⟩
termination_by (tokens.length, 1)

end

mutual

/-- A form of the grammar is read off the front, whatever stands behind it. -/
theorem form_of_derives {ts : List Token} {e : Expr} (hd : Derives clock e ts)
    (rest : List Token) : ∃ h, form clock (ts ++ rest) = .ok ⟨e, rest, h⟩ := by
  cases hd with
  | all named some inner =>
      obtain ⟨_, hs⟩ := forms_of_derivesAll inner rest
      exact form_eq_ok_iff.mpr (by simpa using FormStep.all named some hs)
  | any named some inner =>
      obtain ⟨_, hs⟩ := forms_of_derivesAll inner rest
      exact form_eq_ok_iff.mpr (by simpa using FormStep.any named some hs)
  | not named inner =>
      obtain ⟨_, hs⟩ := form_of_derives inner (.closing :: rest)
      exact form_eq_ok_iff.mpr (by simpa using FormStep.not named hs)
  | leaf named makes => exact form_eq_ok_iff.mpr (.leaf named makes)

/-- Forms of the grammar in a row are read up to the closing parenthesis behind them. -/
theorem forms_of_derivesAll {ts : List Token} {es : List Expr} (hd : DerivesAll clock es ts)
    (rest : List Token) : ∃ h, forms clock (ts ++ .closing :: rest) = .ok ⟨es, rest, h⟩ := by
  cases hd with
  | nil => exact forms_eq_ok_iff.mpr (Or.inl ⟨rfl, rfl⟩)
  | cons first others =>
      rename_i us
      obtain ⟨_, hf⟩ := form_of_derives first (us ++ .closing :: rest)
      obtain ⟨_, hs⟩ := forms_of_derivesAll others rest
      rw [List.append_assoc]
      exact forms_eq_ok_iff.mpr (Or.inr ⟨_, _, _, _, _, rfl, hf, hs⟩)

end

/-- Forms in a row fail where the first of them does. -/
theorem forms_eq_error_of_form {rest : List Token} {f : ParseError}
    (h : form clock (.opening :: rest) = .error f) : forms clock (.opening :: rest) = .error f := by
  rw [forms.eq_def]
  simp only [h]

/-- Forms of the grammar are read past, and what stands behind them fails as it does alone. -/
theorem forms_eq_error_behind {ts : List Token} {es : List Expr} (hd : DerivesAll clock es ts)
    {rest : List Token} {f : ParseError} (h : forms clock rest = .error f) :
    forms clock (ts ++ rest) = .error f := by
  cases hd with
  | nil => exact h
  | cons first others =>
      rename_i us
      have hothers := forms_eq_error_behind others h
      obtain ⟨more, rfl⟩ := first.opens
      obtain ⟨hlt, hfirst⟩ := form_of_derives first (us ++ rest)
      have hfirst : form clock (.opening :: (more ++ (us ++ rest))) = .ok ⟨_, _, hlt⟩ := hfirst
      rw [List.append_assoc, List.cons_append, forms.eq_def]
      simp only [hfirst, hothers]

/-- The grammar is unambiguous: the same tokens never mean two things. -/
theorem Derives.unique {ts : List Token} {e e' : Expr} (h : Derives clock e ts)
    (h' : Derives clock e' ts) : e = e' := by
  obtain ⟨_, hread⟩ := form_of_derives h []
  obtain ⟨_, hread'⟩ := form_of_derives h' []
  rw [hread, Except.ok.injEq, Taken.mk.injEq] at hread'
  exact hread'.1

/-! ### Forms at a place among the tokens -/

theorem formAt_eq_ok_iff {tokens : List Token} {place next : Nat} {e : Expr} :
    formAt clock tokens place = .ok (e, next) ↔
      place < next ∧ next ≤ tokens.length ∧ Derives clock e (tokens.extract place next) := by
  constructor
  · intro h
    unfold formAt at h
    split at h
    · simp at h
    · rename_i taken htaken
      simp only [Except.ok.injEq, Prod.mk.injEq] at h
      obtain ⟨rfl, rfl⟩ := h
      obtain ⟨ts, hts, hderives⟩ := form_derives htaken
      have hlen := congrArg List.length hts
      rw [List.length_drop, List.length_append] at hlen
      have hpos : 0 < ts.length := by
        obtain ⟨rest, rfl⟩ := hderives.opens
        simp
      refine ⟨by omega, by omega, ?_⟩
      have hcut : tokens.length - taken.rest.length - place = ts.length := by omega
      have htake : (tokens.drop place).take ts.length = ts := by rw [hts, List.take_left]
      rw [List.extract_eq_take_drop, hcut, htake]
      exact hderives
  · rintro ⟨hlt, hle, hderives⟩
    have hread := form_of_derives hderives (tokens.drop next)
    have hsplit : tokens.extract place next ++ tokens.drop next = tokens.drop place := by
      rw [List.extract_eq_take_drop]
      conv => rhs; rw [← List.take_append_drop (next - place) (tokens.drop place)]
      rw [List.drop_drop]
      congr 2
      omega
    rw [hsplit] at hread
    obtain ⟨_, hread⟩ := hread
    simp only [formAt, hread, List.length_drop]
    congr 2
    omega

/-- A query is read exactly when its tokens, all of them, are one form. -/
theorem parse_eq_ok_iff {query : String} {e : Expr} :
    parse clock query = .ok e ↔
      ∃ tokens, tokenize? query = some tokens ∧ Derives clock e tokens := by
  constructor
  · intro h
    unfold parse at h
    split at h
    · simp at h
    · rename_i tokens htokens
      split at h
      · simp at h
      · rename_i taken htaken
        split at h
        · rename_i hempty
          rw [Except.ok.injEq] at h
          subst h
          obtain ⟨ts, hts, hderives⟩ := form_derives htaken
          rw [List.isEmpty_iff.mp hempty, List.append_nil] at hts
          exact ⟨tokens, htokens, hts ▸ hderives⟩
        · simp at h
  · rintro ⟨tokens, htokens, hderives⟩
    have hread := form_of_derives hderives []
    rw [List.append_nil] at hread
    obtain ⟨_, hread⟩ := hread
    simp only [parse, htokens, hread]
    rfl

/--
**Reading accepts exactly the grammar.**  A form is read at a place, up to a second place, exactly
when the tokens between the two are a form of the grammar; reading fails when there is no such
second place, and it always comes to one of these two ends.  What stands before the form and behind
it has no part in it.  A query is read exactly when its tokens are one form from first to last.
-/
theorem reading_iff_grammar (clock : Clock) :
    (∀ (tokens : List Token) (place next : Nat) (e : Expr),
      formAt clock tokens place = .ok (e, next) ↔
        place < next ∧ next ≤ tokens.length ∧ Derives clock e (tokens.extract place next)) ∧
    (∀ (tokens : List Token) (place : Nat),
      (∃ failure, formAt clock tokens place = .error failure) ↔
        ∀ (next : Nat) (e : Expr), place < next → next ≤ tokens.length →
          ¬ Derives clock e (tokens.extract place next)) ∧
    (∀ (tokens before behind : List Token) (place next : Nat) (e : Expr),
      formAt clock tokens place = .ok (e, next) →
        formAt clock (before ++ tokens.extract place next ++ behind) before.length
          = .ok (e, before.length + (next - place))) ∧
    (∀ (query : String) (e : Expr),
      parse clock query = .ok e ↔
        ∃ tokens, tokenize? query = some tokens ∧ Derives clock e tokens) := by
  refine ⟨fun _ _ _ _ => formAt_eq_ok_iff, ?_, ?_, fun _ _ => parse_eq_ok_iff⟩
  · intro tokens place
    constructor
    · rintro ⟨failure, hfail⟩ next e hlt hle hderives
      rw [formAt_eq_ok_iff.mpr ⟨hlt, hle, hderives⟩] at hfail
      simp at hfail
    · intro hnone
      cases hread : formAt clock tokens place with
      | error failure => exact ⟨failure, rfl⟩
      | ok result =>
          obtain ⟨hlt, hle, hderives⟩ := formAt_eq_ok_iff.mp hread
          exact absurd hderives (hnone _ _ hlt hle)
  · intro tokens before behind place next e hread
    obtain ⟨hlt, hle, hderives⟩ := formAt_eq_ok_iff.mp hread
    have hlen : (tokens.extract place next).length = next - place := by
      rw [List.extract_eq_take_drop, List.length_take, List.length_drop]
      omega
    refine formAt_eq_ok_iff.mpr ⟨by omega, by simp [hlen], ?_⟩
    rw [List.extract_eq_take_drop, List.append_assoc, List.drop_left, Nat.add_sub_cancel_left,
      List.take_left' hlen]
    exact hderives

end MediaSearch.Query
