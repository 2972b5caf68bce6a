/-
Queries that are neither read nor rejected.

Reading a query has three ends.  It gives an expression, it rejects the query, or it
stops at a time string that fails for another reason than its form.  The reader checks a
time string at the moment it comes to it, so the third end needs two things: a time
string that it comes to, everything before it being read (`Encounters`), and one that
escapes (`TimeString.Escapes`).
-/
import MediaSearch.Calendar.ZoneNames
import MediaSearch.Proofs.Query.Grammar
import MediaSearch.Proofs.TimeString.Escape

namespace MediaSearch.Query

open TimeString (Failure Escapes)

variable {clock : Clock}

/-- Reading a form off the front of the tokens comes to this time string: what stands before it is
the beginning of a form, as far as that can be read. -/
inductive Encounters (clock : Clock) : List Token → String → Prop
  /-- The form is a condition on the time of publication. -/
  | here {name time : String} {relation : Relation} {rest : List Token}
      (named : Text.lowered name = relation.name) :
      Encounters clock (.opening :: .text name :: .text time :: .closing :: rest) time
  /-- The time string is in one of the forms of a conjunction or a disjunction, behind forms of
  the grammar. -/
  | within {name time : String} {es : List Expr} {ts rest : List Token}
      (named : Text.lowered name = "and" ∨ Text.lowered name = "or")
      (before : DerivesAll clock es ts) (next : Encounters clock rest time) :
      Encounters clock (.opening :: .text name :: (ts ++ rest)) time
  /-- The time string is in the form that is negated. -/
  | not {name time : String} {rest : List Token} (named : Text.lowered name = "not")
      (inner : Encounters clock rest time) :
      Encounters clock (.opening :: .text name :: rest) time

/-! ### What one step of reading fails on -/

theorem Leaf.build_fails_iff {leaf : Leaf} {argument : String} {f : Failure} :
    leaf.build clock argument = .error (.timeFails f) ↔
      (∃ relation, leaf = .published relation) ∧
        TimeString.resolve argument clock.now clock.zone = .error f ∧ f.isUnreadable = false := by
  constructor
  · intro h
    cases leaf with
    | text field => simp [Leaf.build] at h
    | kind =>
        simp only [Leaf.build] at h
        split at h <;> simp at h
    | published relation =>
        simp only [Leaf.build] at h
        split at h
        · split at h <;> simp at h
        · simp at h
        · rename_i failure hform hfails
          obtain rfl := ParseError.timeFails.inj (Except.error.inj h)
          refine ⟨⟨relation, rfl⟩, hfails, ?_⟩
          cases failure with
          | unreadable text => exact absurd rfl (hform text)
          | floatingReference => rfl
          | outOfRange => rfl
          | tooManyDigits digits => rfl
          | inverted first last => rfl
  · rintro ⟨⟨relation, rfl⟩, hfails, hform⟩
    simp only [Leaf.build, hfails]
    cases f with
    | unreadable text => simp [Failure.isUnreadable] at hform
    | floatingReference => rfl
    | outOfRange => rfl
    | tooManyDigits digits => rfl
    | inverted first last => rfl

theorem leafForm_fails_iff {name : String} {leaf : Leaf} {tokens : List Token} {f : Failure} :
    leafForm clock name leaf tokens = .error (.timeFails f) ↔
      ∃ argument rest, tokens = .text argument :: .closing :: rest ∧
        leaf.build clock argument = .error (.timeFails f) := by
  constructor
  · intro h
    unfold leafForm at h
    split at h
    · simp at h
    · simp at h
    · simp at h
    · rename_i argument rest
      split at h
      · simp at h
      · rename_i e hbuild
        obtain rfl := Except.error.inj h
        exact ⟨argument, rest, rfl, hbuild⟩
    · simp at h
  · rintro ⟨argument, rest, rfl, hbuild⟩
    simp only [leafForm, hbuild]

/-- The ways in which reading a form fails on a time string, by the function that its name
selects. -/
inductive FailStep (clock : Clock) (f : Failure) : List Token → Prop
  | within {name : String} {inner : List Token}
      (named : Text.lowered name = "and" ∨ Text.lowered name = "or")
      (fails : forms clock inner = .error (.timeFails f)) :
      FailStep clock f (.opening :: .text name :: inner)
  | not {name : String} {inner : List Token} (named : Text.lowered name = "not")
      (fails : form clock inner = .error (.timeFails f)) :
      FailStep clock f (.opening :: .text name :: inner)
  | leaf {name time : String} {relation : Relation} {rest : List Token}
      (named : Text.lowered name = relation.name)
      (fails : TimeString.resolve time clock.now clock.zone = .error f)
      (form : f.isUnreadable = false) :
      FailStep clock f (.opening :: .text name :: .text time :: .closing :: rest)

theorem form_eq_timeFails_iff {tokens : List Token} {f : Failure} :
    form clock tokens = .error (.timeFails f) ↔ FailStep clock f tokens := by
  constructor
  · intro h
    rw [form.eq_def] at h
    split at h
    case h_7 name inner =>
      dsimp only at h
      split at h
      case h_1 => simp at h
      case h_2 hname =>
        have hname := Function.ofName?_eq_some_iff.mp hname
        split at h
        · rename_i e hforms
          obtain rfl := Except.error.inj h
          exact .within (Or.inl hname) hforms
        · split at h <;> simp at h
      case h_3 hname =>
        have hname := Function.ofName?_eq_some_iff.mp hname
        split at h
        · rename_i e hforms
          obtain rfl := Except.error.inj h
          exact .within (Or.inr hname) hforms
        · split at h <;> simp at h
      case h_4 hname =>
        have hname := Function.ofName?_eq_some_iff.mp hname
        split at h
        · rename_i e hform
          obtain rfl := Except.error.inj h
          exact .not hname hform
        · simp at h
        · simp at h
      case h_5 leaf hname =>
        have hname := Function.ofName?_eq_some_iff.mp hname
        split at h
        · rename_i e hleaf
          obtain rfl := Except.error.inj h
          obtain ⟨argument, rest, rfl, hbuild⟩ := leafForm_fails_iff.mp hleaf
          obtain ⟨⟨relation, rfl⟩, hfails, hform⟩ := Leaf.build_fails_iff.mp hbuild
          exact .leaf hname hfails hform
        · simp at h
    all_goals simp at h
  · intro h
    cases h with
    | within named fails =>
        rw [form.eq_def]
        rcases named with named | named
        · simp only [Function.ofName?_eq_some_iff (f := .all).mpr named, fails]
        · simp only [Function.ofName?_eq_some_iff (f := .any).mpr named, fails]
    | not named fails =>
        rw [form.eq_def]
        simp only [Function.ofName?_eq_some_iff (f := .not).mpr named, fails]
    | leaf named fails hform =>
        rename_i name time relation rest
        have hleaf : leafForm clock name (.published relation) (.text time :: .closing :: rest)
            = .error (.timeFails f) :=
          leafForm_fails_iff.mpr
            ⟨time, rest, rfl, Leaf.build_fails_iff.mpr ⟨⟨relation, rfl⟩, fails, hform⟩⟩
        rw [form.eq_def]
        simp only [Function.ofName?_eq_some_iff (f := .leaf (.published relation)).mpr named, hleaf]

/-- Forms in a row fail with the first of them that does. -/
theorem forms_eq_timeFails_iff {tokens : List Token} {f : Failure} :
    forms clock tokens = .error (.timeFails f) ↔
      form clock tokens = .error (.timeFails f) ∨
      ∃ e behind h, form clock tokens = .ok ⟨e, behind, h⟩ ∧
        forms clock behind = .error (.timeFails f) := by
  constructor
  · intro h
    rw [forms.eq_def] at h
    split at h
    · simp at h
    · simp at h
    · split at h
      · rename_i e hform
        obtain rfl := Except.error.inj h
        exact Or.inl hform
      · rename_i first hfirst
        split at h
        · rename_i e hothers
          obtain rfl := Except.error.inj h
          exact Or.inr ⟨first.value, first.rest, first.shorter, hfirst, hothers⟩
        · simp at h
  · intro h
    -- Either way the tokens begin with a form, and not with the end of the enclosing one.
    obtain ⟨name, inner, rfl⟩ : ∃ name inner, tokens = .opening :: .text name :: inner := by
      rcases h with h | ⟨e, behind, hlt, h, -⟩
      · cases form_eq_timeFails_iff.mp h <;> exact ⟨_, _, rfl⟩
      · cases form_eq_ok_iff.mp ⟨hlt, h⟩ <;> exact ⟨_, _, rfl⟩
    rw [forms.eq_def]
    rcases h with h | ⟨e, behind, hlt, h, hbehind⟩
    · simp only [h]
    · simp only [h, hbehind]

/-! ### What the reader comes to -/

mutual

theorem form_encounters {tokens : List Token} {f : Failure}
    (h : form clock tokens = .error (.timeFails f)) :
    ∃ time, Encounters clock tokens time ∧
      TimeString.resolve time clock.now clock.zone = .error f ∧ f.isUnreadable = false := by
  cases form_eq_timeFails_iff.mp h with
  | within named fails =>
      obtain ⟨es, ts, rest, time, rfl, hbefore, hnext, hfails⟩ := forms_encounter fails
      exact ⟨time, .within named hbefore hnext, hfails⟩
  | not named fails =>
      obtain ⟨time, hinner, hfails⟩ := form_encounters fails
      exact ⟨time, .not named hinner, hfails⟩
  | leaf named fails hform => exact ⟨_, .here named, fails, hform⟩
termination_by (tokens.length, 0)

theorem forms_encounter {tokens : List Token} {f : Failure}
    (h : forms clock tokens = .error (.timeFails f)) :
    ∃ es ts rest time, tokens = ts ++ rest ∧ DerivesAll clock es ts ∧ Encounters clock rest time ∧
      TimeString.resolve time clock.now clock.zone = .error f ∧ f.isUnreadable = false := by
  rcases forms_eq_timeFails_iff.mp h with h | ⟨e, behind, hlt, hfirst, hbehind⟩
  · obtain ⟨time, hnext, hfails⟩ := form_encounters h
    exact ⟨[], [], tokens, time, rfl, .nil, hnext, hfails⟩
  · obtain ⟨ts, rfl, hderives⟩ := form_derives hfirst
    obtain ⟨es, us, rest, time, rfl, hbefore, hnext, hfails⟩ := forms_encounter hbehind
    exact ⟨e :: es, ts ++ us, rest, time, (List.append_assoc _ _ _).symm, .cons hderives hbefore,
      hnext, hfails⟩
termination_by (tokens.length, 1)

end

theorem Encounters.opens {tokens : List Token} {time : String} (h : Encounters clock tokens time) :
    ∃ rest, tokens = .opening :: rest := by
  cases h <;> exact ⟨_, rfl⟩

theorem form_fails_of_encounters {tokens : List Token} {time : String} {f : Failure}
    (h : Encounters clock tokens time)
    (hfails : TimeString.resolve time clock.now clock.zone = .error f)
    (hform : f.isUnreadable = false) : form clock tokens = .error (.timeFails f) := by
  induction h with
  | here named => exact form_eq_timeFails_iff.mpr (.leaf named hfails hform)
  | within named before next ih =>
      obtain ⟨rest, rfl⟩ := next.opens
      have hinner := forms_eq_error_behind before (forms_eq_error_of_form (ih hfails))
      exact form_eq_timeFails_iff.mpr (.within named hinner)
  | not named inner ih => exact form_eq_timeFails_iff.mpr (.not named (ih hfails))

/-- Reading a form fails on a time string exactly when it comes to one that fails. -/
theorem form_fails_iff {tokens : List Token} {f : Failure} :
    form clock tokens = .error (.timeFails f) ↔
      ∃ time, Encounters clock tokens time ∧
        TimeString.resolve time clock.now clock.zone = .error f ∧ f.isUnreadable = false :=
  ⟨form_encounters, fun ⟨_, h, hfails, hform⟩ => form_fails_of_encounters h hfails hform⟩

/-! ### Queries -/

theorem parse_eq_timeFails_iff {query : String} {f : Failure} :
    parse clock query = .error (.timeFails f) ↔
      ∃ tokens, tokenize? query = some tokens ∧ form clock tokens = .error (.timeFails f) := by
  constructor
  · intro h
    unfold parse at h
    split at h
    · simp at h
    · rename_i tokens htokens
      split at h
      · rename_i e hform
        obtain rfl := Except.error.inj h
        exact ⟨tokens, htokens, hform⟩
      · split at h <;> simp at h
  · rintro ⟨tokens, htokens, hform⟩
    simp only [parse, htokens, hform]

/--
**A query is read or rejected exactly when it comes to no time string that escapes.**  At a
reference time that the zone's clock can show, reading ends with an expression or with a rejection
unless it comes to a time string, all that stands before it being read, that is one of the kinds
listed in `Escapes`; and then it ends with neither.
-/
theorem read_or_rejected_iff {now : Calendar.LocalTime} {query : String}
    (hnow : clock.now.inZone clock.zone = .ok now) :
    ((∃ e, parse clock query = .ok e) ∨ ∃ reason, parse clock query = .error (.rejected reason)) ↔
      ¬ ∃ tokens time, tokenize? query = some tokens ∧ Encounters clock tokens time ∧
        Escapes now clock.zone (Text.strip time.toList) := by
  have hfails : (∃ f, parse clock query = .error (.timeFails f)) ↔
      ∃ tokens time, tokenize? query = some tokens ∧ Encounters clock tokens time ∧
        Escapes now clock.zone (Text.strip time.toList) := by
    constructor
    · rintro ⟨f, hf⟩
      obtain ⟨tokens, htokens, hform⟩ := parse_eq_timeFails_iff.mp hf
      obtain ⟨time, hencounters, hfails⟩ := form_fails_iff.mp hform
      exact ⟨tokens, time, htokens, hencounters,
        (TimeString.resolve_fails_iff hnow).mp ⟨f, hfails⟩⟩
    · rintro ⟨tokens, time, htokens, hencounters, hescapes⟩
      obtain ⟨f, hfails⟩ := (TimeString.resolve_fails_iff hnow).mpr hescapes
      exact ⟨f, parse_eq_timeFails_iff.mpr
        ⟨tokens, htokens, form_fails_iff.mpr ⟨time, hencounters, hfails⟩⟩⟩
  rw [← hfails]
  cases hparse : parse clock query with
  | ok e => simp
  | error failure => cases failure <;> simp

/-- Noon of 15 February 2024 by universal time. -/
def februaryNoon : Clock :=
  ⟨.instant 1707998400000000, .utc⟩

/-- What the clock of universal time shows then. -/
def februaryNoonShown : Calendar.LocalTime :=
  ⟨⟨⟨2024, 2, 15, by decide⟩, 43200000000, by decide⟩, false⟩

theorem februaryNoon_inZone :
    februaryNoon.now.inZone februaryNoon.zone = .ok februaryNoonShown := by
  rfl

/-- Two months before there was a day, and so the query is read. -/
theorem twoMonths_read :
    parse februaryNoon "(after \"2 months ago\")" = .ok (.published .after "2 months ago") := by
  have hname : Text.lowered "after" = (Leaf.published .after).name := by decide +kernel
  have hvalue : TimeString.resolve "2 months ago" februaryNoon.now februaryNoon.zone
      = .ok (.moment 1702641600000) := by decide +kernel
  exact parse_eq_ok_iff.mpr ⟨[.opening, .text "after", .text "2 months ago", .closing],
    by decide +kernel, .leaf hname (.published hvalue (by simp))⟩

/-- It comes to no time string that escapes. -/
theorem read_or_rejected_at_noon :
    februaryNoon.now.inZone februaryNoon.zone = .ok februaryNoonShown ∧
      parse februaryNoon "(after \"2 months ago\")" = .ok (.published .after "2 months ago") ∧
      ¬ ∃ tokens time, tokenize? "(after \"2 months ago\")" = some tokens ∧
        Encounters februaryNoon tokens time ∧
        Escapes februaryNoonShown februaryNoon.zone (Text.strip time.toList) :=
  ⟨februaryNoon_inZone, twoMonths_read,
    (read_or_rejected_iff februaryNoon_inZone).mp (Or.inl ⟨_, twoMonths_read⟩)⟩

/-- Going back a hundred thousand million months is neither possible nor a rejection. -/
theorem farMonths_fail :
    parse februaryNoon "(after \"99999999999 months ago\")" = .error (.timeFails .outOfRange) := by
  refine parse_eq_timeFails_iff.mpr
    ⟨[.opening, .text "after", .text "99999999999 months ago", .closing], by decide +kernel, ?_⟩
  refine form_eq_timeFails_iff.mpr (.leaf (?_ : _ = Relation.after.name) ?_ rfl)
  · decide +kernel
  · decide +kernel

theorem not_always_read_or_rejected :
    ¬ ∀ (clock : Clock) (query : String) (now : Calendar.LocalTime),
      clock.now.inZone clock.zone = .ok now →
      (∃ e, parse clock query = .ok e) ∨
        ∃ reason, parse clock query = .error (.rejected reason) := by
  intro h
  have hends := h februaryNoon "(after \"99999999999 months ago\")" _ februaryNoon_inZone
  rw [farMonths_fail] at hends
  simp at hends

end MediaSearch.Query
