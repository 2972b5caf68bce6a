/-
Forms that are cut short.

A beginning of a form that is not the whole of it leaves forms open, one in the other.  Everything
that stands before the innermost of them has been read without a complaint, so that one alone
decides how reading ends (`OpenEnd`, `CutShort`): where the next thing that it wants is a closing
parenthesis, behind the text of a function of one text or behind the form that is negated, the end
of the tokens is told as an argument too many, and anywhere else it is the end of the query come
too early.

Where the innermost open form begins is seen from the parentheses alone.  Behind its own
parenthesis as many are closed as are opened, and no end of that piece opens more than it closes,
so there is one such place at most (`eq_of_opens_one`).
-/
import Mathlib.Data.List.Infix
import MediaSearch.Calendar.ZoneNames
import MediaSearch.Proofs.Query.Grammar

namespace MediaSearch.Query

/-! ### What is left of a form -/

/-- The innermost of the forms that are left open, and why it is rejected. -/
inductive OpenEnd (clock : Clock) : List Token → Rejection → Prop
  /-- The name is missing, -/
  | opened : OpenEnd clock [.opening] .incomplete
  /-- the form that is negated is, -/
  | negation {name : String} (named : Text.lowered name = "not") :
      OpenEnd clock [.opening, .text name] .incomplete
  /-- or the end of a negation, which is told as if there were another form; -/
  | negated {name : String} {e : Expr} {ts : List Token} (named : Text.lowered name = "not")
      (read : Derives clock e ts) : OpenEnd clock (.opening :: .text name :: ts) .notOneForm
  /-- the text is missing, -/
  | leaf {name : String} {l : Leaf} (named : Text.lowered name = l.name) :
      OpenEnd clock [.opening, .text name] .incomplete
  /-- or the end behind it, which is told as if there were another text; -/
  | argument {name argument : String} {l : Leaf} (named : Text.lowered name = l.name) :
      OpenEnd clock [.opening, .text name, .text argument] (.notOneText name)
  /-- another form of a conjunction or a disjunction is missing, or its end. -/
  | within {name : String} {es : List Expr} {ts : List Token}
      (named : Text.lowered name = "and" ∨ Text.lowered name = "or")
      (read : DerivesAll clock es ts) : OpenEnd clock (.opening :: .text name :: ts) .incomplete

/-- The tokens are a beginning of a form, and this is the reason to reject them: the innermost form
that is left open is at their end. -/
inductive CutShort (clock : Clock) : List Token → Rejection → Prop
  /-- No form is open but this one. -/
  | here {ts : List Token} {reason : Rejection} (last : OpenEnd clock ts reason) :
      CutShort clock ts reason
  /-- A form is open within a negation. -/
  | negation {name : String} {ts : List Token} {reason : Rejection}
      (named : Text.lowered name = "not") (inner : CutShort clock ts reason) :
      CutShort clock (.opening :: .text name :: ts) reason
  /-- A form is open within a conjunction or a disjunction, behind forms of the grammar. -/
  | within {name : String} {es : List Expr} {us ts : List Token} {reason : Rejection}
      (named : Text.lowered name = "and" ∨ Text.lowered name = "or")
      (read : DerivesAll clock es us) (inner : CutShort clock ts reason) :
      CutShort clock (.opening :: .text name :: (us ++ ts)) reason

variable {clock : Clock} {tokens cut ts us : List Token} {reason : Rejection} {e : Expr}
  {es : List Expr}

/-- It is open: it begins with a parenthesis. -/
theorem OpenEnd.opens (h : OpenEnd clock ts reason) : ∃ rest, ts = .opening :: rest := by
  cases h <;> exact ⟨_, rfl⟩

theorem CutShort.opens (h : CutShort clock ts reason) : ∃ rest, ts = .opening :: rest := by
  cases h with
  | here last => exact last.opens
  | negation named inner => exact ⟨_, rfl⟩
  | within named read inner => exact ⟨_, rfl⟩

/-- The innermost open form is the end of the tokens. -/
theorem CutShort.endsOpen (h : CutShort clock ts reason) :
    ∃ last, last <:+ ts ∧ OpenEnd clock last reason := by
  induction h with
  | here last => exact ⟨_, List.suffix_rfl, last⟩
  | negation named inner ih =>
      obtain ⟨last, hlast, hopen⟩ := ih
      exact ⟨last, (hlast.trans (List.suffix_cons _ _)).trans (List.suffix_cons _ _), hopen⟩
  | within named read inner ih =>
      obtain ⟨last, hlast, hopen⟩ := ih
      exact ⟨last, ((hlast.trans (List.suffix_append _ _)).trans (List.suffix_cons _ _)).trans
        (List.suffix_cons _ _), hopen⟩

/-- Forms in a row begin with a parenthesis, if there are any. -/
theorem DerivesAll.nil_or_opens (h : DerivesAll clock es ts) :
    ts = [] ∨ ∃ rest, ts = .opening :: rest := by
  cases h with
  | nil => exact Or.inl rfl
  | cons first others =>
      obtain ⟨rest, rfl⟩ := first.opens
      exact Or.inr ⟨_, rfl⟩

/-! ### Beginnings of forms -/

/-- A beginning of a named form is nothing, or all of it, or cut short, if the name is that with any
beginning of what is within. -/
theorem cutShort_of_within {name : String} (h : cut <+: .opening :: .text name :: (ts ++ [.closing]))
    (hinner : ∀ inner, inner <+: ts →
      ∃ reason, CutShort clock (.opening :: .text name :: inner) reason) :
    cut = [] ∨ cut = .opening :: .text name :: (ts ++ [.closing]) ∨
      ∃ reason, CutShort clock cut reason := by
  rcases List.prefix_cons_iff.mp h with rfl | ⟨behind, rfl, hbehind⟩
  · exact Or.inl rfl
  rcases List.prefix_cons_iff.mp hbehind with rfl | ⟨inner, rfl, hprefix⟩
  · exact Or.inr (Or.inr ⟨_, .here .opened⟩)
  rcases List.prefix_concat_iff.mp hprefix with rfl | hprefix
  · exact Or.inr (Or.inl rfl)
  · exact Or.inr (Or.inr (hinner inner hprefix))

mutual

/-- A beginning of a form of the grammar is nothing, or all of it, or cut short. -/
theorem Derives.cutShort {ts cut : List Token} {e : Expr} (hd : Derives clock e ts)
    (h : cut <+: ts) : cut = [] ∨ cut = ts ∨ ∃ reason, CutShort clock cut reason := by
  cases hd with
  | all named some inner =>
      exact cutShort_of_within h fun behind hbehind =>
        DerivesAll.cutShort_within inner (Or.inl named) hbehind
  | any named some inner =>
      exact cutShort_of_within h fun behind hbehind =>
        DerivesAll.cutShort_within inner (Or.inr named) hbehind
  | not named inner =>
      refine cutShort_of_within h fun behind hbehind => ?_
      rcases Derives.cutShort inner hbehind with rfl | rfl | ⟨reason, hcut⟩
      · exact ⟨_, .here (.negation named)⟩
      · exact ⟨_, .here (.negated named inner)⟩
      · exact ⟨reason, .negation named hcut⟩
  | @leaf name argument l e named makes =>
      refine @cutShort_of_within clock cut [.text argument] name h fun behind hbehind => ?_
      rcases List.prefix_cons_iff.mp hbehind with rfl | ⟨rest, rfl, hrest⟩
      · exact ⟨_, .here (.leaf named)⟩
      · obtain rfl := List.prefix_nil.mp hrest
        exact ⟨_, .here (.argument named)⟩

/-- A beginning of forms in a row is some of them, behind which one may be cut short. -/
theorem DerivesAll.cutShort {ts cut : List Token} {es : List Expr} (hd : DerivesAll clock es ts)
    (h : cut <+: ts) :
    ∃ es us rest, cut = us ++ rest ∧ DerivesAll clock es us ∧
      (rest = [] ∨ ∃ reason, CutShort clock rest reason) := by
  cases hd with
  | nil =>
      obtain rfl := List.prefix_nil.mp h
      exact ⟨[], [], [], rfl, .nil, Or.inl rfl⟩
  | @cons e es ts us first others =>
      obtain ⟨behind, hbehind⟩ := h
      rcases List.append_eq_append_iff.mp hbehind with ⟨more, hts, -⟩ | ⟨rest, rfl, hus⟩
      · -- The cut is in the first form or at its end.
        rcases Derives.cutShort first ⟨more, hts.symm⟩ with rfl | rfl | hcut
        · exact ⟨[], [], [], rfl, .nil, Or.inl rfl⟩
        · exact ⟨[e], cut ++ [], [], by simp, .cons first .nil, Or.inl rfl⟩
        · exact ⟨[], [], cut, rfl, .nil, Or.inr hcut⟩
      · obtain ⟨es', us', left, rfl, hread, hleft⟩ := DerivesAll.cutShort others ⟨behind, hus.symm⟩
        exact ⟨e :: es', ts ++ us', left, by simp, .cons first hread, hleft⟩

/-- A conjunction or a disjunction with a beginning of its forms is cut short. -/
theorem DerivesAll.cutShort_within {ts cut : List Token} {es : List Expr}
    (hd : DerivesAll clock es ts) {name : String}
    (named : Text.lowered name = "and" ∨ Text.lowered name = "or") (h : cut <+: ts) :
    ∃ reason, CutShort clock (.opening :: .text name :: cut) reason := by
  obtain ⟨es, us, rest, rfl, hread, rfl | ⟨reason, hcut⟩⟩ := DerivesAll.cutShort hd h
  · exact ⟨_, .here (.within named (by simpa using hread))⟩
  · exact ⟨reason, .within named hread hcut⟩

end

/-! ### How reading ends -/

/-- Forms that nothing follows are told as the end of the query. -/
theorem forms_eq_incomplete (hd : DerivesAll clock es ts) :
    forms clock ts = .error (.rejected .incomplete) := by
  have hend : forms clock [] = .error (.rejected .incomplete) := by rw [forms.eq_def]
  have hforms := forms_eq_error_behind hd hend
  rwa [List.append_nil] at hforms

/-- What is within a conjunction or a disjunction fails for all of it. -/
theorem form_eq_error_of_forms {name : String} {f : ParseError}
    (named : Text.lowered name = "and" ∨ Text.lowered name = "or")
    (h : forms clock ts = .error f) : form clock (.opening :: .text name :: ts) = .error f := by
  rw [form.eq_def]
  rcases named with named | named
  · simp only [Function.ofName?_eq_some_iff (f := .all).mpr named, h]
  · simp only [Function.ofName?_eq_some_iff (f := .any).mpr named, h]

/-- A form that is left open is rejected for that. -/
theorem OpenEnd.form_eq_error (h : OpenEnd clock ts reason) :
    form clock ts = .error (.rejected reason) := by
  cases h with
  | opened => rw [form.eq_def]
  | negation named =>
      have hend : form clock [] = .error (.rejected .incomplete) := by rw [form.eq_def]
      rw [form.eq_def]
      simp only [Function.ofName?_eq_some_iff (f := .not).mpr named, hend]
  | negated named read =>
      have hread := form_of_derives read []
      rw [List.append_nil] at hread
      obtain ⟨_, hread⟩ := hread
      rw [form.eq_def]
      simp only [Function.ofName?_eq_some_iff (f := .not).mpr named, hread]
  | @leaf name l named =>
      rw [form.eq_def]
      simp only [Function.ofName?_eq_some_iff (f := .leaf l).mpr named, leafForm]
  | @argument name argument l named =>
      rw [form.eq_def]
      simp only [Function.ofName?_eq_some_iff (f := .leaf l).mpr named, leafForm]
  | within named read => exact form_eq_error_of_forms named (forms_eq_incomplete read)

/-- Reading what is cut short ends as the innermost open form makes it end. -/
theorem CutShort.form_eq_error (h : CutShort clock ts reason) :
    form clock ts = .error (.rejected reason) := by
  induction h with
  | here last => exact last.form_eq_error
  | negation named inner ih =>
      rw [form.eq_def]
      simp only [Function.ofName?_eq_some_iff (f := .not).mpr named, ih]
  | within named read inner ih =>
      obtain ⟨rest, rfl⟩ := inner.opens
      exact form_eq_error_of_forms named (forms_eq_error_behind read (forms_eq_error_of_form ih))

/-! ### Counting parentheses -/

/-- One for a parenthesis that is opened, minus one for one that is closed. -/
def Token.opened : Token → Int
  | opening => 1
  | closing => -1
  | text _ => 0

/-- How many more parentheses the tokens open than they close. -/
def unclosed : List Token → Int
  | [] => 0
  | token :: ts => token.opened + unclosed ts

@[simp] theorem unclosed_nil : unclosed [] = 0 := rfl

@[simp] theorem unclosed_cons {token : Token} :
    unclosed (token :: ts) = token.opened + unclosed ts := rfl

@[simp] theorem unclosed_append : unclosed (ts ++ us) = unclosed ts + unclosed us := by
  induction ts with
  | nil => simp
  | cons token rest ih => simp [ih, Int.add_assoc]

/-- The tokens close what they open, and no end of them opens more than it closes. -/
structure Balanced (ts : List Token) : Prop where
  whole : unclosed ts = 0
  ends : ∀ behind, behind <:+ ts → unclosed behind ≤ 0

namespace Balanced

theorem nil : Balanced [] :=
  ⟨rfl, fun behind h => by simp [List.suffix_nil.mp h]⟩

theorem text {value : String} (h : Balanced ts) : Balanced (.text value :: ts) := by
  have hwhole : unclosed (.text value :: ts) = 0 := by simp [Token.opened, h.whole]
  refine ⟨hwhole, fun behind hbehind => ?_⟩
  rcases List.suffix_cons_iff.mp hbehind with rfl | hbehind
  · exact Int.le_of_eq hwhole
  · exact h.ends behind hbehind

theorem append (h : Balanced ts) (h' : Balanced us) : Balanced (ts ++ us) := by
  refine ⟨by simp [h.whole, h'.whole], fun behind ⟨front, hfront⟩ => ?_⟩
  rcases List.append_eq_append_iff.mp hfront with ⟨more, rfl, rfl⟩ | ⟨more, rfl, rfl⟩
  · have hmore := h.ends more (List.suffix_append _ _)
    simpa [h'.whole] using hmore
  · exact h'.ends behind (List.suffix_append _ _)

theorem parenthesized (h : Balanced ts) : Balanced (.opening :: (ts ++ [.closing])) := by
  have hwhole : unclosed (.opening :: (ts ++ [.closing])) = 0 := by simp [Token.opened, h.whole]
  refine ⟨hwhole, fun behind hbehind => ?_⟩
  rcases List.suffix_cons_iff.mp hbehind with rfl | hbehind
  · exact Int.le_of_eq hwhole
  rcases List.suffix_concat_iff.mp hbehind with rfl | ⟨inner, rfl, hinner⟩
  · simp
  · have hle := h.ends inner hinner
    simp only [unclosed_append, unclosed_cons, unclosed_nil, Token.opened]
    omega

end Balanced

mutual

/-- A form of the grammar closes every parenthesis that it opens. -/
theorem Derives.balanced {ts : List Token} {e : Expr} (h : Derives clock e ts) : Balanced ts := by
  cases h with
  | all named some inner => exact (DerivesAll.balanced inner).text.parenthesized
  | any named some inner => exact (DerivesAll.balanced inner).text.parenthesized
  | not named inner => exact (Derives.balanced inner).text.parenthesized
  | leaf named makes => exact Balanced.nil.text.text.parenthesized

theorem DerivesAll.balanced {ts : List Token} {es : List Expr} (h : DerivesAll clock es ts) :
    Balanced ts := by
  cases h with
  | nil => exact .nil
  | cons first others => exact (Derives.balanced first).append (DerivesAll.balanced others)

end

/-- The innermost open form opens one parenthesis that it does not close. -/
theorem OpenEnd.balanced (h : OpenEnd clock (.opening :: ts) reason) : Balanced ts := by
  cases h with
  | opened => exact .nil
  | negation named => exact Balanced.nil.text
  | negated named read => exact read.balanced.text
  | leaf named => exact Balanced.nil.text
  | argument named => exact Balanced.nil.text.text
  | within named read => exact read.balanced.text

/-- An end of the tokens that opens one parenthesis which is never closed is found in one place at
most. -/
theorem eq_of_opens_one (h : .opening :: ts <:+ tokens) (h' : .opening :: us <:+ tokens)
    (hts : Balanced ts) (hus : Balanced us) : ts = us := by
  -- The shorter of two such ends would be an end of what is behind the other's parenthesis.
  have hone : ∀ {vs ws : List Token}, Balanced vs → Balanced ws →
      .opening :: vs <:+ .opening :: ws → vs = ws := by
    intro vs ws hvs hws hsuffix
    rcases List.suffix_cons_iff.mp hsuffix with heq | hbehind
    · exact (List.cons.inj heq).2
    · have hle := hws.ends _ hbehind
      simp [Token.opened, hvs.whole] at hle
  rcases List.suffix_or_suffix_of_suffix h h' with hsuffix | hsuffix
  · exact hone hts hus hsuffix
  · exact (hone hus hts hsuffix).symm

/-! ### Where the cut is -/

/-- The tokens end with the text of a function of one text, called by this name. -/
def EndsInArgument (tokens : List Token) (name : String) : Prop :=
  ∃ front argument, ∃ l : Leaf, Text.lowered name = l.name ∧
    tokens = front ++ [.opening, .text name, .text argument]

/-- The tokens end with the form that a negation negates. -/
def EndsInNegated (clock : Clock) (tokens : List Token) : Prop :=
  ∃ front name e negated, Text.lowered name = "not" ∧ Derives clock e negated ∧
    tokens = front ++ .opening :: .text name :: negated

/-- Behind its text, a function of one text is told that it has another. -/
theorem CutShort.of_endsInArgument (h : CutShort clock cut reason) {name : String}
    (hends : EndsInArgument cut name) : reason = .notOneText name := by
  obtain ⟨front, argument, l, named, rfl⟩ := hends
  obtain ⟨last, hlast, hopen⟩ := h.endsOpen
  obtain ⟨rest, rfl⟩ := hopen.opens
  obtain rfl := eq_of_opens_one hlast (List.suffix_append _ _) hopen.balanced
    Balanced.nil.text.text
  cases hopen with
  | negated named read =>
      obtain ⟨more, hmore⟩ := read.opens
      simp at hmore
  | argument named => rfl
  | within named read =>
      obtain hnil | ⟨more, hmore⟩ := read.nil_or_opens
      · simp at hnil
      · simp at hmore

/-- Behind its form, a negation is told that it has another. -/
theorem CutShort.of_endsInNegated (h : CutShort clock cut reason)
    (hends : EndsInNegated clock cut) : reason = .notOneForm := by
  obtain ⟨front, name, e, negated, named, hnegated, rfl⟩ := hends
  obtain ⟨last, hlast, hopen⟩ := h.endsOpen
  obtain ⟨rest, rfl⟩ := hopen.opens
  obtain rfl := eq_of_opens_one hlast (List.suffix_append _ _) hopen.balanced
    hnegated.balanced.text
  obtain ⟨more, rfl⟩ := hnegated.opens
  cases hopen with
  | negated named read => rfl
  | within hname read => simp [named] at hname

/-- Anywhere else, the query has come to an end too early. -/
theorem CutShort.of_not_ends (h : CutShort clock cut reason)
    (hargument : ¬ ∃ name, EndsInArgument cut name) (hnegated : ¬ EndsInNegated clock cut) :
    reason = .incomplete := by
  obtain ⟨last, ⟨front, rfl⟩, hopen⟩ := h.endsOpen
  cases hopen with
  | opened => rfl
  | negation named => rfl
  | leaf named => rfl
  | within named read => rfl
  | negated named read => exact absurd ⟨front, _, _, _, named, read, rfl⟩ hnegated
  | argument named => exact absurd ⟨_, front, _, _, named, rfl⟩ hargument

/-- A beginning of a form of the grammar that is not all of it is rejected, for a reason that its
end tells. -/
theorem Derives.cut_rejected (hd : Derives clock e ts) (hcut : cut <+: ts) (hproper : cut ≠ ts) :
    ∃ reason, form clock cut = .error (.rejected reason) ∧
      (∀ name, EndsInArgument cut name → reason = .notOneText name) ∧
      (EndsInNegated clock cut → reason = .notOneForm) ∧
      ((¬ ∃ name, EndsInArgument cut name) → ¬ EndsInNegated clock cut → reason = .incomplete) := by
  rcases hd.cutShort hcut with rfl | rfl | ⟨reason, hshort⟩
  · refine ⟨.incomplete, by rw [form.eq_def], ?_, ?_, fun _ _ => rfl⟩
    · rintro name ⟨front, argument, l, -, hends⟩
      simp at hends
    · rintro ⟨front, name, e, negated, -, -, hends⟩
      simp at hends
  · exact absurd rfl hproper
  · exact ⟨reason, hshort.form_eq_error, fun _ => hshort.of_endsInArgument,
      hshort.of_endsInNegated, hshort.of_not_ends⟩

/--
**A query that is cut short is told from one that says too much by where the cut is.**  Take tokens
that are read, all of them, as one form at this time and in this zone.  Whatever beginning of them
is read instead, the empty one too, it is rejected.  Behind the text of a function of one text, and
behind the form of a negation, the rejection is that of an argument too many, in the words of that
function; behind everything else it is that of a query that has come to an end.
-/
theorem cut_short_rejected {tokens cut : List Token} {e : Expr}
    (hread : formAt clock tokens 0 = .ok (e, tokens.length)) (hcut : cut <+: tokens)
    (hproper : cut ≠ tokens) :
    ∃ reason, formAt clock cut 0 = .error (.rejected reason) ∧
      (∀ name, EndsInArgument cut name → reason = .notOneText name) ∧
      (EndsInNegated clock cut → reason = .notOneForm) ∧
      (reason.kind = .invalidArgument ↔
        (∃ name, EndsInArgument cut name) ∨ EndsInNegated clock cut) ∧
      (reason.kind = .unexpectedEnd ↔
        ¬ ((∃ name, EndsInArgument cut name) ∨ EndsInNegated clock cut)) := by
  have hd : Derives clock e tokens := by
    simpa [List.extract_eq_take_drop] using (formAt_eq_ok_iff.mp hread).2.2
  obtain ⟨reason, hform, hargument, hnegated, hneither⟩ := hd.cut_rejected hcut hproper
  have hstart : form clock (cut.drop 0) = .error (.rejected reason) := hform
  refine ⟨reason, by simp only [formAt, hstart], hargument, hnegated, ?_⟩
  by_cases hends : (∃ name, EndsInArgument cut name) ∨ EndsInNegated clock cut
  · have hkind : reason.kind = .invalidArgument := by
      rcases hends with ⟨name, hname⟩ | hends
      · rw [hargument name hname, Rejection.kind]
      · rw [hnegated hends, Rejection.kind]
    simp [hkind, hends]
  · have hkind : reason.kind = .unexpectedEnd := by
      rw [hneither (fun h => hends (Or.inl h)) (fun h => hends (Or.inr h)), Rejection.kind]
    simp [hkind, hends]

/-- Beaches, and what is not a video: `(or (tag "beach") (NOT (type "Video")))`. -/
def beachTokens : List Token :=
  [.opening, .text "or", .opening, .text "tag", .text "beach", .closing,
    .opening, .text "NOT", .opening, .text "type", .text "Video", .closing, .closing, .closing]

theorem beachTokens_read :
    formAt ⟨.instant 0, .utc⟩ beachTokens 0 =
      .ok (.any [.text .tag "beach", .not (.kind .video)], 14) := by
  have htag : Derives ⟨.instant 0, .utc⟩ (.text .tag "beach")
      [.opening, .text "tag", .text "beach", .closing] :=
    .leaf (l := .text .tag) (by decide +kernel) (.text .tag "beach")
  have hkind : Derives ⟨.instant 0, .utc⟩ (.kind .video)
      [.opening, .text "type", .text "Video", .closing] :=
    .leaf (l := .kind) (by decide +kernel) (.kind (by decide +kernel))
  have hnot : Derives ⟨.instant 0, .utc⟩ (.not (.kind .video))
      [.opening, .text "NOT", .opening, .text "type", .text "Video", .closing, .closing] :=
    .not (by decide +kernel) hkind
  exact formAt_eq_ok_iff.mpr ⟨by decide, by decide,
    .any (by decide +kernel) (by simp) (.cons htag (.cons hnot .nil))⟩

/-- Without its last two parentheses it lacks the end of the negation. -/
theorem beachTokens_cut_short :
    (formAt ⟨.instant 0, .utc⟩ beachTokens 0 =
        .ok (.any [.text .tag "beach", .not (.kind .video)], beachTokens.length) ∧
      beachTokens.take 12 <+: beachTokens ∧ beachTokens.take 12 ≠ beachTokens) ∧
      ∃ reason, formAt ⟨.instant 0, .utc⟩ (beachTokens.take 12) 0 = .error (.rejected reason) ∧
        (∀ name, EndsInArgument (beachTokens.take 12) name → reason = .notOneText name) ∧
        (EndsInNegated ⟨.instant 0, .utc⟩ (beachTokens.take 12) → reason = .notOneForm) ∧
        (reason.kind = .invalidArgument ↔
          (∃ name, EndsInArgument (beachTokens.take 12) name) ∨
            EndsInNegated ⟨.instant 0, .utc⟩ (beachTokens.take 12)) ∧
        (reason.kind = .unexpectedEnd ↔
          ¬ ((∃ name, EndsInArgument (beachTokens.take 12) name) ∨
            EndsInNegated ⟨.instant 0, .utc⟩ (beachTokens.take 12))) :=
  ⟨⟨beachTokens_read, List.take_prefix _ _, by decide⟩,
    cut_short_rejected beachTokens_read (List.take_prefix _ _) (by decide)⟩

end MediaSearch.Query
