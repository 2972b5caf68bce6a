/-
Boolean laws for tests that can fail.

A test goes through its conditions from left to right and ends at the first that decides or fails,
so its outcome is an answer or a failure, and a law has to keep both.  De Morgan's laws do: a
negation decides where its condition does, and so the same condition ends the row on both sides
(`testUntil_map_not`).  So does taking a row out of its parentheses within a row of its kind: what
ends the inner one ends the outer one (`testUntil_append`).

An expression looks at the outcomes of its conditions and at nothing else of them.  So a law may be
used at any place in it (`fill_congr`), and as often as one likes: that brings all negations to the
leaves (`rewrites_inward`).
-/
import MediaSearch.Proofs.Query.Testing

namespace MediaSearch.Query

variable {clock : Clock} {item : Item} {stop : Bool} {a b e : Expr} {es before behind : List Expr}

/-! ### Rows of conditions -/

/-- One row behind another is tested if the first does not stop. -/
theorem testUntil_append (es fs : List Expr) :
    testUntil clock item stop (es ++ fs)
      = testUntil clock item stop es >>= fun b =>
          if b = stop then .ok stop else testUntil clock item stop fs := by
  induction es with
  | nil => simp [ok_bind]
  | cons e rest ih =>
      simp only [List.cons_append, testUntil_cons, bind_assoc, ih]
      refine bind_congr fun b => ?_
      by_cases hb : b = stop
      · rw [if_pos hb, if_pos hb, ok_bind, if_pos rfl]
      · rw [if_neg hb, if_neg hb]

/-- Negated conditions stop where the conditions stop that stop at the opposite. -/
theorem testUntil_map_not (es : List Expr) :
    testUntil clock item stop (es.map .not)
      = testUntil clock item (!stop) es >>= fun b => pure !b := by
  induction es with
  | nil =>
      simp only [List.map_nil, testUntil_nil, ok_bind, Bool.not_not]
      rfl
  | cons e rest ih =>
      simp only [List.map_cons, testUntil_cons, not_holds, bind_assoc, pure_bind, ih]
      refine bind_congr fun b => ?_
      by_cases hb : b = !stop
      · subst hb
        rw [if_pos (Bool.not_not stop), if_pos rfl, ok_bind, Bool.not_not]
        rfl
      · rw [if_neg hb, if_neg (by cases b <;> cases stop <;> simp_all)]

/-- A row within a row of its kind can be taken out of its parentheses. -/
theorem testUntil_splice (hrow : a.holds clock item = testUntil clock item stop es) :
    testUntil clock item stop (before ++ a :: behind)
      = testUntil clock item stop (before ++ (es ++ behind)) := by
  simp only [testUntil_append, testUntil_cons, hrow]

/-- A condition in a row can be replaced by one with the same outcome. -/
theorem testUntil_replace (h : a.holds clock item = b.holds clock item) :
    testUntil clock item stop (before ++ a :: behind)
      = testUntil clock item stop (before ++ b :: behind) := by
  simp only [testUntil_append, testUntil_cons, h]

/-! ### The laws -/

/-- A law of Boolean expressions. -/
inductive Law : Expr → Expr → Prop
  /-- A negation that is negated is nothing. -/
  | notNot (e : Expr) : Law (.not (.not e)) e
  /-- A conjunction does not hold if one of its conditions does not, -/
  | notAll (es : List Expr) : Law (.not (.all es)) (.any (es.map .not))
  /-- and a disjunction if none of its conditions does. -/
  | notAny (es : List Expr) : Law (.not (.any es)) (.all (es.map .not))
  /-- A conjunction within a conjunction needs no parentheses, -/
  | spliceAll (before es behind : List Expr) :
      Law (.all (before ++ .all es :: behind)) (.all (before ++ (es ++ behind)))
  /-- and neither does a disjunction within a disjunction. -/
  | spliceAny (before es behind : List Expr) :
      Law (.any (before ++ .any es :: behind)) (.any (before ++ (es ++ behind)))

/-- **Both sides of a law have the same outcome**, be it an answer or a failure. -/
theorem Law.holds_eq (h : Law a b) : a.holds clock item = b.holds clock item := by
  cases h with
  | notNot e => simp
  | notAll es => simp [testUntil_map_not]
  | notAny es => simp [testUntil_map_not]
  | spliceAll before es behind => rw [all_holds, all_holds, testUntil_splice all_holds]
  | spliceAny before es behind => rw [any_holds, any_holds, testUntil_splice any_holds]

/-! ### At any place -/

/-- An expression with one place left open. -/
inductive Context
  /-- Nothing but the place. -/
  | here
  /-- The place is in a condition of a conjunction, -/
  | all (before : List Expr) (inner : Context) (behind : List Expr)
  /-- of a disjunction, -/
  | any (before : List Expr) (inner : Context) (behind : List Expr)
  /-- or in what is negated. -/
  | not (inner : Context)

/-- The expression with another one at the open place. -/
@[simp]
def Context.fill (e : Expr) : Context → Expr
  | here => e
  | all before inner behind => .all (before ++ inner.fill e :: behind)
  | any before inner behind => .any (before ++ inner.fill e :: behind)
  | not inner => .not (inner.fill e)

/-- **Expressions with the same outcome can stand for each other anywhere.** -/
theorem fill_congr (context : Context) (h : a.holds clock item = b.holds clock item) :
    (context.fill a).holds clock item = (context.fill b).holds clock item := by
  induction context with
  | here => exact h
  | all before inner behind ih =>
      simp only [Context.fill, all_holds, testUntil_replace ih]
  | any before inner behind ih =>
      simp only [Context.fill, any_holds, testUntil_replace ih]
  | not inner ih => simp only [Context.fill, not_holds, ih]

/-- The laws turn one expression into the other: they are used in either direction, at any place and
any number of times. -/
inductive Rewrites : Expr → Expr → Prop
  /-- A law is used, -/
  | law {a b : Expr} (law : Law a b) : Rewrites a b
  /-- at some place, -/
  | within {a b : Expr} (context : Context) (inner : Rewrites a b) :
      Rewrites (context.fill a) (context.fill b)
  /-- or none is, -/
  | refl (e : Expr) : Rewrites e e
  /-- or the other way round, -/
  | symm {a b : Expr} (back : Rewrites b a) : Rewrites a b
  /-- or one and then others. -/
  | trans {a b c : Expr} (first : Rewrites a b) (others : Rewrites b c) : Rewrites a c

theorem Rewrites.holds_eq (h : Rewrites a b) : a.holds clock item = b.holds clock item := by
  induction h with
  | law law => exact law.holds_eq
  | within context inner ih => exact fill_congr context ih
  | refl e => rfl
  | symm back ih => exact ih.symm
  | trans first others ih ih' => exact ih.trans ih'

/-! ### Negations at the leaves -/

/-- An expression or its negation. -/
def negatedIf (negated : Bool) (e : Expr) : Expr :=
  if negated then .not e else e

mutual

/-- An expression, or its negation, with the negations brought to the leaves. -/
def Expr.inward (negated : Bool) : Expr → Expr
  | .all es =>
    if negated then .any (Expr.inwardEach negated es) else .all (Expr.inwardEach negated es)
  | .any es =>
    if negated then .all (Expr.inwardEach negated es) else .any (Expr.inwardEach negated es)
  | .not e => e.inward !negated
  | .text field value => negatedIf negated (.text field value)
  | .kind wanted => negatedIf negated (.kind wanted)
  | .published relation time => negatedIf negated (.published relation time)
  | .foreign shown => negatedIf negated (.foreign shown)

/-- The same of each condition in a row. -/
def Expr.inwardEach (negated : Bool) : List Expr → List Expr
  | [] => []
  | e :: es => e.inward negated :: Expr.inwardEach negated es

end

theorem inwardEach_eq_map (negated : Bool) (es : List Expr) :
    Expr.inwardEach negated es = es.map (Expr.inward negated) := by
  induction es with
  | nil => rfl
  | cons e rest ih => rw [Expr.inwardEach, ih, List.map_cons]

/-- A condition without conditions. -/
inductive IsLeaf : Expr → Prop
  | text (field : Field) (value : String) : IsLeaf (.text field value)
  | kind (wanted : MediaKind) : IsLeaf (.kind wanted)
  | published (relation : Relation) (time : String) : IsLeaf (.published relation time)
  | foreign (shown : String) : IsLeaf (.foreign shown)

/-- What holds of the leaves, and of an expression if it holds of each of its conditions, holds of
all expressions.  The recursion follows the tree. -/
@[elab_as_elim]
theorem Expr.tree_induction {motive : Expr → Prop} (leaf : ∀ e, IsLeaf e → motive e)
    (all : ∀ es, (∀ e ∈ es, motive e) → motive (.all es))
    (any : ∀ es, (∀ e ∈ es, motive e) → motive (.any es))
    (not : ∀ e, motive e → motive (.not e)) : ∀ e : Expr, motive e
  | .all es => all es fun e he => by
      have : sizeOf e < sizeOf es := List.sizeOf_lt_of_mem he
      exact Expr.tree_induction leaf all any not e
  | .any es => any es fun e he => by
      have : sizeOf e < sizeOf es := List.sizeOf_lt_of_mem he
      exact Expr.tree_induction leaf all any not e
  | .not e => not e (Expr.tree_induction leaf all any not e)
  | .text field value => leaf _ (.text field value)
  | .kind wanted => leaf _ (.kind wanted)
  | .published relation time => leaf _ (.published relation time)
  | .foreign shown => leaf _ (.foreign shown)

theorem IsLeaf.inward_eq (h : IsLeaf e) (negated : Bool) : e.inward negated = negatedIf negated e := by
  cases h <;> rfl

/-- Nothing but leaves is negated. -/
inductive NegatesLeaves : Expr → Prop
  | leaf {e : Expr} (leaf : IsLeaf e) : NegatesLeaves e
  | not {e : Expr} (leaf : IsLeaf e) : NegatesLeaves (.not e)
  | all {es : List Expr} (each : ∀ e ∈ es, NegatesLeaves e) : NegatesLeaves (.all es)
  | any {es : List Expr} (each : ∀ e ∈ es, NegatesLeaves e) : NegatesLeaves (.any es)

/-- What has been brought inward is at the leaves. -/
theorem negatesLeaves_inward (negated : Bool) (e : Expr) : NegatesLeaves (e.inward negated) := by
  induction e using Expr.tree_induction generalizing negated with
  | leaf e hleaf =>
      rw [hleaf.inward_eq]
      cases negated with
      | false => exact .leaf hleaf
      | true => exact .not hleaf
  | all es ih =>
      have heach := List.forall_mem_map.mpr fun e he => ih e he negated
      rw [Expr.inward, inwardEach_eq_map]
      cases negated with
      | false => exact .all heach
      | true => exact .any heach
  | any es ih =>
      have heach := List.forall_mem_map.mpr fun e he => ih e he negated
      rw [Expr.inward, inwardEach_eq_map]
      cases negated with
      | false => exact .any heach
      | true => exact .all heach
  | not e ih =>
      rw [Expr.inward]
      exact ih !negated

/-- The conditions of a row can be rewritten one after the other. -/
theorem Rewrites.each {row : List Expr → Expr}
    (hrow : ∀ (before behind : List Expr) {a b : Expr}, Rewrites a b →
      Rewrites (row (before ++ a :: behind)) (row (before ++ b :: behind)))
    {f g : Expr → Expr} (es before : List Expr) (h : ∀ e ∈ es, Rewrites (f e) (g e)) :
    Rewrites (row (before ++ es.map f)) (row (before ++ es.map g)) := by
  induction es generalizing before with
  | nil => exact .refl _
  | cons e rest ih =>
      obtain ⟨he, hrest⟩ := List.forall_mem_cons.mp h
      have hothers := ih (before ++ [g e]) hrest
      rw [List.append_assoc, List.append_assoc] at hothers
      exact (hrow before (rest.map f) he).trans hothers

theorem Rewrites.all_each {f g : Expr → Expr} (h : ∀ e ∈ es, Rewrites (f e) (g e)) :
    Rewrites (.all (es.map f)) (.all (es.map g)) :=
  Rewrites.each (fun before behind _ _ h => .within (.all before .here behind) h) es [] h

theorem Rewrites.any_each {f g : Expr → Expr} (h : ∀ e ∈ es, Rewrites (f e) (g e)) :
    Rewrites (.any (es.map f)) (.any (es.map g)) :=
  Rewrites.each (fun before behind _ _ h => .within (.any before .here behind) h) es [] h

/-- **The laws bring all negations to the leaves.** -/
theorem rewrites_inward (negated : Bool) (e : Expr) :
    Rewrites (negatedIf negated e) (e.inward negated) := by
  induction e using Expr.tree_induction generalizing negated with
  | leaf e hleaf =>
      rw [hleaf.inward_eq]
      exact .refl _
  | all es ih =>
      have heach : ∀ e ∈ es, Rewrites (negatedIf negated e) (e.inward negated) :=
        fun e he => ih e he negated
      rw [Expr.inward, inwardEach_eq_map]
      cases negated with
      | false =>
          have hall : Rewrites (.all (es.map id)) (.all (es.map (Expr.inward false))) :=
            Rewrites.all_each heach
          rwa [List.map_id] at hall
      | true => exact (Rewrites.law (.notAll es)).trans (Rewrites.any_each heach)
  | any es ih =>
      have heach : ∀ e ∈ es, Rewrites (negatedIf negated e) (e.inward negated) :=
        fun e he => ih e he negated
      rw [Expr.inward, inwardEach_eq_map]
      cases negated with
      | false =>
          have hany : Rewrites (.any (es.map id)) (.any (es.map (Expr.inward false))) :=
            Rewrites.any_each heach
          rwa [List.map_id] at hany
      | true => exact (Rewrites.law (.notAny es)).trans (Rewrites.all_each heach)
  | not e ih =>
      rw [Expr.inward]
      cases negated with
      | false => exact ih true
      | true => exact (Rewrites.law (.notNot e)).trans (ih false)

/--
**The Boolean laws keep the outcome of a test, down to the failure.**  The two sides of a law hold,
do not hold, or fail for the same reason, with the same time string if it is one that stands for
nothing.  Expressions with the same outcome can stand for each other at any place in another one.
So the outcome stays the same however often the laws are used, in whatever places and directions,
and that brings the negations of any expression to its leaves.
-/
theorem laws_keep_outcome (clock : Clock) (item : Item) :
    (∀ a b : Expr, Law a b → a.holds clock item = b.holds clock item) ∧
    (∀ (context : Context) (a b : Expr), a.holds clock item = b.holds clock item →
      (context.fill a).holds clock item = (context.fill b).holds clock item) ∧
    (∀ a b : Expr, Rewrites a b → a.holds clock item = b.holds clock item) ∧
    ∀ e : Expr, NegatesLeaves (e.inward false) ∧ Rewrites e (e.inward false) ∧
      (e.inward false).holds clock item = e.holds clock item :=
  ⟨fun _ _ h => h.holds_eq, fun context _ _ h => fill_congr context h, fun _ _ h => h.holds_eq,
    fun e => ⟨negatesLeaves_inward false e, rewrites_inward false e,
      (rewrites_inward false e).holds_eq.symm⟩⟩

/-- The start of 1970 in universal time. -/
def startOf1970 : Clock :=
  ⟨.instant 0, .utc⟩

/-- A condition that a post without a title meets. -/
def offLake : Expr :=
  .not (.text .title "lake")

/-- One whose time string stands for nothing. -/
def soon : Expr :=
  .published .after "soon"

/-- The second stands in a row within a row, before something that is no condition, -/
def soonNested : Expr :=
  .all [offLake, .all [soon, .foreign "3"]]

/-- and in one row. -/
def soonInRow : Expr :=
  .all [offLake, soon, .foreign "3"]

/-- The two fail alike, and so do their negations, with the negations at the leaves or not: the time
string is told, and never that there is no condition behind it. -/
theorem laws_keep_outcome_of_soon :
    (Law soonNested soonInRow ∧
      soonNested.holds startOf1970 default = soonInRow.holds startOf1970 default) ∧
    ((Context.not .here).fill soonNested).holds startOf1970 default
      = ((Context.not .here).fill soonInRow).holds startOf1970 default ∧
    (Rewrites (.not soonNested) (.any [.not offLake, .not soon, .not (.foreign "3")]) ∧
      (Expr.not soonNested).holds startOf1970 default
        = (Expr.any [.not offLake, .not soon, .not (.foreign "3")]).holds startOf1970 default) ∧
    (Expr.not soonNested).inward false
      = .any [.text .title "lake", .any [.not soon, .not (.foreign "3")]] ∧
    (Expr.any [.text .title "lake", .any [.not soon, .not (.foreign "3")]]).holds startOf1970
        default
      = (Expr.not soonNested).holds startOf1970 default ∧
    soonInRow.holds startOf1970 default = .error (.unresolved "soon") := by
  obtain ⟨hlaws, hplaces, hrewrites, hinward⟩ := laws_keep_outcome startOf1970 default
  have hlaw : Law soonNested soonInRow := .spliceAll [offLake] [soon, .foreign "3"] []
  have hnegated :
      Rewrites (.not soonNested) (.any [.not offLake, .not soon, .not (.foreign "3")]) :=
    .trans (.within (.not .here) (.law hlaw)) (.law (.notAll [offLake, soon, .foreign "3"]))
  exact ⟨⟨hlaw, hlaws _ _ hlaw⟩, hplaces (.not .here) _ _ (hlaws _ _ hlaw),
    ⟨hnegated, hrewrites _ _ hnegated⟩, rfl, (hinward (.not soonNested)).2.2, by decide +kernel⟩

end MediaSearch.Query
