/-
Clocks that agree on a query's time strings.

Reading looks at the clock for one thing only, the arguments of `after`, `before` and `during`,
and so does testing.  Where two clocks agree on these (`Agree`), reading comes to the same end
with both, be it an expression or a failure (`form_congr`), and so does every test against what
has been read (`holds_congr`).  Reading goes on in a rest of the tokens, and a time argument of a
rest is one of the whole; that carries the agreement down.

Time strings that name a time by themselves are such that any two clocks agree on them, and the
theorem at the end says so of a query in which there are no others.
-/
import MediaSearch.Calendar.ZoneNames
import MediaSearch.Proofs.Query.Testing
import MediaSearch.Proofs.TimeString.Absolute

namespace MediaSearch.Query

open Calendar (Zone)
open TimeString (HasWeek NamesInstant NamesTime Reference)

variable {clock clock' : Clock} {tokens : List Token} {item : Item}

/-- Among the tokens there is a condition on the time of publication with this time string. -/
def TimeArgument (tokens : List Token) (time : String) : Prop :=
  ∃ (name : String) (relation : Relation), Text.lowered name = relation.name ∧
    [.opening, .text name, .text time, .closing] <:+: tokens

/-- The clocks resolve every time argument alike. -/
def Agree (clock clock' : Clock) (tokens : List Token) : Prop :=
  ∀ time, TimeArgument tokens time →
    TimeString.resolve time clock.now clock.zone = TimeString.resolve time clock'.now clock'.zone

theorem Agree.of_infix {part : List Token} (h : Agree clock clock' tokens)
    (hpart : part <:+: tokens) : Agree clock clock' part := by
  intro time ⟨name, relation, hname, hin⟩
  exact h time ⟨name, relation, hname, hin.trans hpart⟩

/-! ### Reading -/

theorem build_congr {leaf : Leaf} {argument : String}
    (h : (∃ relation, leaf = .published relation) →
      TimeString.resolve argument clock.now clock.zone
        = TimeString.resolve argument clock'.now clock'.zone) :
    leaf.build clock argument = leaf.build clock' argument := by
  cases leaf with
  | text field => rfl
  | kind => rfl
  | published relation => rw [Leaf.build, Leaf.build, h ⟨relation, rfl⟩]

theorem leafForm_congr {name : String} {leaf : Leaf} (hname : Text.lowered name = leaf.name)
    (h : Agree clock clock' (.opening :: .text name :: tokens)) :
    leafForm clock name leaf tokens = leafForm clock' name leaf tokens := by
  unfold leafForm
  split
  · rfl
  · rfl
  · rfl
  · rename_i argument rest
    have hbuild : leaf.build clock argument = leaf.build clock' argument := by
      refine build_congr ?_
      rintro ⟨relation, rfl⟩
      exact h argument ⟨name, relation, hname, [], rest, rfl⟩
    rw [hbuild]
  · rfl

mutual

/-- A form is read alike with clocks that agree. -/
theorem form_congr {tokens : List Token} (h : Agree clock clock' tokens) :
    form clock tokens = form clock' tokens := by
  rw [form.eq_def, form.eq_def]
  split
  case h_7 name rest =>
    have hrest : Agree clock clock' rest := h.of_infix (List.suffix_append [_, _] rest).isInfix
    dsimp only
    split
    case h_1 => rfl
    case h_2 => rw [forms_congr hrest]
    case h_3 => rw [forms_congr hrest]
    case h_4 => rw [form_congr hrest]
    case h_5 leaf hname => rw [leafForm_congr (Function.ofName?_eq_some_iff.mp hname) h]
  all_goals rfl
termination_by (tokens.length, 0)

/-- Forms in a row are read alike with clocks that agree. -/
theorem forms_congr {tokens : List Token} (h : Agree clock clock' tokens) :
    forms clock tokens = forms clock' tokens := by
  have hform := form_congr h
  rw [forms.eq_def, forms.eq_def]
  split
  · rfl
  · rfl
  · rename_i token rest hopen
    rw [hform]
    split
    · rfl
    · rename_i first hfirst
      obtain ⟨ts, hts, -⟩ := form_derives hfirst
      have hbehind : first.rest <:+ token :: rest := ⟨ts, hts.symm⟩
      have := first.shorter
      simp only [forms_congr (h.of_infix hbehind.isInfix)]
termination_by (tokens.length, 1)

end

/-- A query is read alike, or fails alike, with clocks that agree on its time arguments. -/
theorem parse_congr {query : String}
    (h : ∀ tokens, tokenize? query = some tokens → Agree clock clock' tokens) :
    parse clock query = parse clock' query := by
  cases htokens : tokenize? query with
  | none => simp only [parse, htokens]
  | some tokens => simp only [parse, htokens, form_congr (h tokens htokens)]

/-! ### Testing -/

theorem testUntil_congr {stop : Bool} {conditions : List Expr}
    (h : ∀ e ∈ conditions, e.holds clock item = e.holds clock' item) :
    testUntil clock item stop conditions = testUntil clock' item stop conditions := by
  induction conditions with
  | nil => rfl
  | cons e rest ih =>
      obtain ⟨he, hrest⟩ := List.forall_mem_cons.mp h
      rw [testUntil_cons, testUntil_cons, he, ih hrest]

/-- A test has one outcome with clocks that resolve every time string of the expression alike.
The recursion follows the tree, as testing does. -/
theorem holds_congr :
    ∀ {e : Expr}, (∀ relation time, Part (.published relation time) e →
      TimeString.resolve time clock.now clock.zone
        = TimeString.resolve time clock'.now clock'.zone) →
      e.holds clock item = e.holds clock' item
  | .all conditions, h => by
      rw [all_holds, all_holds]
      refine testUntil_congr fun e he => ?_
      have : sizeOf e < sizeOf conditions := List.sizeOf_lt_of_mem he
      exact holds_congr fun relation time hpart => h relation time (.all he hpart)
  | .any conditions, h => by
      rw [any_holds, any_holds]
      refine testUntil_congr fun e he => ?_
      have : sizeOf e < sizeOf conditions := List.sizeOf_lt_of_mem he
      exact holds_congr fun relation time hpart => h relation time (.any he hpart)
  | .not e, h => by
      rw [not_holds, not_holds, holds_congr fun relation time hpart => h relation time (.not hpart)]
  | .text _ _, _ => rfl
  | .kind _, _ => rfl
  | .published relation time, h => by
      rw [published_holds, published_holds, resolved, resolved, h relation time .here]
  | .foreign _, _ => rfl

/-- A time string in an expression that has been read is a time argument of the tokens. -/
theorem timeArgument_of_part {e : Expr} {relation : Relation} {time : String}
    (hderives : Derives clock e tokens) (hpart : Part (.published relation time) e) :
    TimeArgument tokens time := by
  obtain ⟨us, hus, hsub⟩ := hpart.derives hderives
  cases hsub with
  | leaf named makes =>
      cases makes with
      | published resolves spans => exact ⟨_, relation, named, hus⟩

/-- Clocks that agree on a query's time arguments give it the same outcome, and tests against what
has been read as well. -/
theorem outcome_congr {query : String}
    (h : ∀ tokens, tokenize? query = some tokens → Agree clock clock' tokens) :
    parse clock query = parse clock' query ∧
      ∀ e, parse clock query = .ok e → ∀ item, e.holds clock item = e.holds clock' item := by
  refine ⟨parse_congr h, fun e hread item => holds_congr fun relation time hpart => ?_⟩
  obtain ⟨tokens, htokens, hderives⟩ := parse_eq_ok_iff.mp hread
  exact h tokens htokens time (timeArgument_of_part hderives hpart)

/-! ### Queries that look at no clock -/

/-- Every time argument of the query has one of these forms, apart from the blanks around it. -/
def TimesAre (form : List Char → Prop) (query : String) : Prop :=
  ∀ tokens time, tokenize? query = some tokens → TimeArgument tokens time →
    form (Text.strip time.toList)

/--
**A query whose time strings name their times by themselves looks at no clock.**  At any two times
from the 7th of January of year 1 on, as the zone shows them, it is read as the same expression or
fails for the same reason, and what has been read gives the same answer for every item.  If its
time strings are all timestamps and whole numbers, that is so in any two zones.
-/
theorem absolute_times_need_no_clock :
    (∀ (query : String) (z : Zone) (now now' : Reference), HasWeek now z → HasWeek now' z →
      TimesAre NamesTime query →
        parse ⟨now, z⟩ query = parse ⟨now', z⟩ query ∧
          ∀ e, parse ⟨now, z⟩ query = .ok e →
            ∀ item, e.holds ⟨now, z⟩ item = e.holds ⟨now', z⟩ item) ∧
    ∀ (query : String) (z z' : Zone) (now now' : Reference), HasWeek now z → HasWeek now' z' →
      TimesAre NamesInstant query →
        parse ⟨now, z⟩ query = parse ⟨now', z'⟩ query ∧
          ∀ e, parse ⟨now, z⟩ query = .ok e →
            ∀ item, e.holds ⟨now, z⟩ item = e.holds ⟨now', z'⟩ item := by
  constructor
  · intro query z now now' hweek hweek' htimes
    refine outcome_congr fun tokens htokens time hargument => ?_
    exact TimeString.resolve_eq_of_namesTime (htimes tokens time htokens hargument) hweek hweek'
  · intro query z z' now now' hweek hweek' htimes
    refine outcome_congr fun tokens htokens time hargument => ?_
    exact TimeString.resolve_eq_of_namesInstant (htimes tokens time htokens hargument) hweek hweek'

/-- A query for what was published after 2020 and not before a date. -/
def yearAndDate : String := "(and (AFTER 2020) (not (before \"1/2/2024\")))"

theorem timesAre_of_yearAndDate : TimesAre NamesTime yearAndDate := by
  intro tokens time htokens ⟨name, relation, hname, hin⟩
  have hlist : tokenize? yearAndDate =
      some [.opening, .text "and", .opening, .text "AFTER", .text "2020", .closing, .opening,
        .text "not", .opening, .text "before", .text "1/2/2024", .closing, .closing, .closing] := by
    decide +kernel
  obtain rfl := Option.some.inj (hlist.symm.trans htokens)
  have htime : name = "AFTER" ∧ time = "2020" ∨ name = "before" ∧ time = "1/2/2024" := by
    simpa [List.infix_cons_iff, List.cons_prefix_cons] using hin
  rcases htime with ⟨-, rfl⟩ | ⟨-, rfl⟩
  · have hyear : Text.IsRun 4 4 "2020".toList := by decide
    exact .year hyear
  · have hmonth : Text.IsRun 1 2 ['1'] := by decide
    have hday : Text.IsRun 1 2 ['2'] := by decide
    have hyear : Text.IsRun 4 4 "2024".toList := by decide
    exact .slashDate hmonth hday hyear

/-- A query for what was published up to the first moment of 2024 in universal time. -/
def beforeInstant : String := "(before 2024-01-01T00:00:00Z)"

theorem timesAre_of_beforeInstant : TimesAre NamesInstant beforeInstant := by
  intro tokens time htokens ⟨name, relation, hname, hin⟩
  have hlist : tokenize? beforeInstant =
      some [.opening, .text "before", .text "2024-01-01T00:00:00Z", .closing] := by
    decide +kernel
  obtain rfl := Option.some.inj (hlist.symm.trans htokens)
  have htime : name = "before" ∧ time = "2024-01-01T00:00:00Z" := by
    simpa [List.infix_cons_iff, List.cons_prefix_cons] using hin
  obtain ⟨-, rfl⟩ := htime
  have hyear : Text.IsRun 4 4 "2024".toList := by decide
  have hone : Text.IsRun 2 2 "01".toList := by decide
  have hzero : Text.IsRun 2 2 "00".toList := by decide
  exact .timestamp hyear hone hone (.inl rfl) hzero hzero hzero (.inl rfl) (.utc (.inl rfl))

/-- The first query has one outcome in spring and in autumn; the second has it also in New York and
in Tokyo. -/
theorem absolute_times_need_no_clock_of_yearAndDate :
    parse ⟨.instant 1711886400000000, .utc⟩ yearAndDate
      = parse ⟨.instant 1730419200000000, .utc⟩ yearAndDate ∧
    parse ⟨.instant 1711886400000000, .newYork⟩ beforeInstant
      = parse ⟨.instant 1730419200000000, Calendar.ZoneTable.tokyo.zone⟩ beforeInstant := by
  obtain ⟨htimes, hinstants⟩ := absolute_times_need_no_clock
  refine ⟨(htimes yearAndDate .utc _ _ ?_ ?_ timesAre_of_yearAndDate).1,
    (hinstants beforeInstant _ _ _ _ ?_ ?_ timesAre_of_beforeInstant).1⟩
  all_goals exact TimeString.hasWeek_instant_iff.mpr (by decide +kernel)

end MediaSearch.Query
