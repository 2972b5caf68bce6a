/-
Testing items against a query that has been read.

A query is read at one time and its items are tested at another.  A time string is
checked when the query is read and resolved again for every test, so a test can come to a
time string that has lapsed in between (`TimeString.Lapsed`).  The only other thing in its
way is a description whose markup is refused.

Both matter only where the test comes to them.  A conjunction is tested up to the first
condition that does not hold, and a disjunction up to the first that does (`Visits`).
What a test comes to is part of what has been read (`Visits.part`), and so there is nothing
in it that is no condition.
-/
import MediaSearch.Calendar.ZoneNames
import MediaSearch.Proofs.Query.Part
import MediaSearch.Proofs.TimeString.Lapse

namespace MediaSearch.Query

open Calendar
open TimeString (Lapsed)

variable {clock : Clock} {item : Item}

/-! ### What a test comes to -/

/-- Testing an item against the first expression comes to the second. -/
inductive Visits (clock : Clock) (item : Item) : Expr → Expr → Prop
  /-- A test begins with the whole expression. -/
  | here (e : Expr) : Visits clock item e e
  /-- A condition of a conjunction is tested when all before it hold. -/
  | all {before behind : List Expr} {e sub : Expr}
      (hold : ∀ b ∈ before, b.holds clock item = .ok true) (inner : Visits clock item e sub) :
      Visits clock item (.all (before ++ e :: behind)) sub
  /-- A condition of a disjunction is tested when none before it holds. -/
  | any {before behind : List Expr} {e sub : Expr}
      (fail : ∀ b ∈ before, b.holds clock item = .ok false) (inner : Visits clock item e sub) :
      Visits clock item (.any (before ++ e :: behind)) sub
  /-- A negation tests its condition. -/
  | not {e sub : Expr} (inner : Visits clock item e sub) : Visits clock item (.not e) sub

/-- The test of a single condition fails. -/
inductive Stops (clock : Clock) (item : Item) : Expr → EvalError → Prop
  | text {field : Field} {value : String} {f : EvalError}
      (fails : field.matches item value = .error f) : Stops clock item (.text field value) f
  | published {relation : Relation} {time : String} {f : EvalError}
      (fails : resolved clock time = .error f) : Stops clock item (.published relation time) f
  | foreign (shown : String) : Stops clock item (.foreign shown) (.foreign shown)

/-- Conditions tested one after another, up to the first that comes out as `stop`. -/
def testUntil (clock : Clock) (item : Item) (stop : Bool) : List Expr → Except EvalError Bool
  | [] => .ok !stop
  | e :: rest =>
    e.holds clock item >>= fun b => if b = stop then .ok stop else testUntil clock item stop rest

/-! ### Conditions in a row -/

section

variable {stop : Bool} {e : Expr} {es : List Expr}

@[simp] theorem testUntil_nil : testUntil clock item stop [] = .ok !stop := rfl

@[simp] theorem testUntil_cons :
    testUntil clock item stop (e :: es) = e.holds clock item >>= fun b =>
      if b = stop then .ok stop else testUntil clock item stop es := rfl

theorem allHold_eq_testUntil (conditions : List Expr) :
    Expr.allHold clock item conditions = testUntil clock item false conditions := by
  induction conditions with
  | nil => rfl
  | cons e rest ih =>
      rw [Expr.allHold, testUntil_cons, ih]
      congr 1
      funext b
      cases b <;> rfl

theorem anyHolds_eq_testUntil (conditions : List Expr) :
    Expr.anyHolds clock item conditions = testUntil clock item true conditions := by
  induction conditions with
  | nil => rfl
  | cons e rest ih =>
      rw [Expr.anyHolds, testUntil_cons, ih]
      rfl

/-- A conjunction is tested up to the first condition that does not hold. -/
@[simp] theorem all_holds : (Expr.all es).holds clock item = testUntil clock item false es := by
  rw [Expr.holds, allHold_eq_testUntil]

/-- A disjunction is tested up to the first condition that holds. -/
@[simp] theorem any_holds : (Expr.any es).holds clock item = testUntil clock item true es := by
  rw [Expr.holds, anyHolds_eq_testUntil]

end

/-! ### Where a test fails -/

/-- Testing in a row fails with the first condition that does, when nothing before it stops. -/
theorem testUntil_eq_error_iff {stop : Bool} {f : EvalError} {conditions : List Expr} :
    testUntil clock item stop conditions = .error f ↔
      ∃ before e behind, conditions = before ++ e :: behind ∧
        (∀ b ∈ before, b.holds clock item = .ok !stop) ∧ e.holds clock item = .error f := by
  induction conditions with
  | nil => simp
  | cons c rest ih =>
      rw [testUntil_cons, bind_eq_error_iff]
      constructor
      · rintro (hc | ⟨b, hc, hrest⟩)
        · exact ⟨[], c, rest, rfl, by simp, hc⟩
        · split at hrest
          · exact nomatch hrest
          · rename_i hgoesOn
            obtain ⟨before, e, behind, rfl, hbefore, he⟩ := ih.mp hrest
            rw [Bool.eq_not_of_ne hgoesOn] at hc
            exact ⟨c :: before, e, behind, rfl, List.forall_mem_cons.mpr ⟨hc, hbefore⟩, he⟩
      · rintro ⟨before, e, behind, hsplit, hbefore, he⟩
        cases before with
        | nil =>
            obtain ⟨rfl, rfl⟩ := List.cons.inj hsplit
            exact Or.inl he
        | cons b before =>
            obtain ⟨rfl, rfl⟩ := List.cons.inj hsplit
            obtain ⟨hc, hbefore⟩ := List.forall_mem_cons.mp hbefore
            refine Or.inr ⟨!stop, hc, ?_⟩
            rw [if_neg (by simp)]
            exact ih.mpr ⟨before, e, behind, rfl, hbefore, he⟩

theorem not_holds_eq_error_iff {f : EvalError} {e : Expr} :
    (Expr.not e).holds clock item = .error f ↔ e.holds clock item = .error f := by
  rw [not_holds]
  exact bind_pure_eq_error_iff

theorem published_holds_eq_error_iff {f : EvalError} {relation : Relation} {time : String} :
    (Expr.published relation time).holds clock item = .error f ↔
      resolved clock time = .error f := by
  rw [published_holds]
  exact bind_pure_eq_error_iff

/-- A test that fails does so at a condition that it comes to.  The recursion follows the tree: a
condition of a conjunction or a disjunction is smaller than the list it is in. -/
theorem visits_of_error {f : EvalError} :
    ∀ {e : Expr}, e.holds clock item = .error f →
      ∃ sub, Visits clock item e sub ∧ Stops clock item sub f
  | .all conditions, h => by
      rw [all_holds] at h
      obtain ⟨before, e, behind, hsplit, hold, he⟩ := testUntil_eq_error_iff.mp h
      have : sizeOf e < sizeOf conditions := List.sizeOf_lt_of_mem (by simp [hsplit])
      obtain ⟨sub, hvisits, hstops⟩ := visits_of_error he
      exact ⟨sub, hsplit ▸ .all hold hvisits, hstops⟩
  | .any conditions, h => by
      rw [any_holds] at h
      obtain ⟨before, e, behind, hsplit, hfail, he⟩ := testUntil_eq_error_iff.mp h
      have : sizeOf e < sizeOf conditions := List.sizeOf_lt_of_mem (by simp [hsplit])
      obtain ⟨sub, hvisits, hstops⟩ := visits_of_error he
      exact ⟨sub, hsplit ▸ .any hfail hvisits, hstops⟩
  | .not e, h => by
      obtain ⟨sub, hvisits, hstops⟩ := visits_of_error (not_holds_eq_error_iff.mp h)
      exact ⟨sub, .not hvisits, hstops⟩
  | .text field value, h => ⟨_, .here _, .text h⟩
  | .kind _, h => nomatch h
  | .published relation time, h => ⟨_, .here _, .published (published_holds_eq_error_iff.mp h)⟩
  | .foreign shown, h => by
      obtain rfl := Except.error.inj h
      exact ⟨_, .here _, .foreign shown⟩

theorem error_of_visits {f : EvalError} {e sub : Expr} (hvisits : Visits clock item e sub)
    (hstops : Stops clock item sub f) : e.holds clock item = .error f := by
  induction hvisits with
  | here e =>
      cases hstops with
      | text fails => exact fails
      | published fails => exact published_holds_eq_error_iff.mpr fails
      | foreign shown => rfl
  | all hold inner ih =>
      rw [all_holds]
      exact testUntil_eq_error_iff.mpr ⟨_, _, _, rfl, hold, ih hstops⟩
  | any fail inner ih =>
      rw [any_holds]
      exact testUntil_eq_error_iff.mpr ⟨_, _, _, rfl, fail, ih hstops⟩
  | not inner ih => exact not_holds_eq_error_iff.mpr (ih hstops)

/-- **A test fails exactly when it comes to a condition whose test fails.** -/
theorem holds_eq_error_iff {f : EvalError} {e : Expr} :
    e.holds clock item = .error f ↔ ∃ sub, Visits clock item e sub ∧ Stops clock item sub f :=
  ⟨visits_of_error, fun ⟨_, hvisits, hstops⟩ => error_of_visits hvisits hstops⟩

/-! ### What has been read -/

/-- What a test comes to is a part of the expression. -/
theorem Visits.part {e sub : Expr} (h : Visits clock item e sub) : Part sub e := by
  induction h with
  | here e => exact .here
  | all hold inner ih => exact .all List.mem_append_cons_self ih
  | any fail inner ih => exact .any List.mem_append_cons_self ih
  | not inner ih => exact .not ih

/-! ### Descriptions -/

/-- Comparing a field with a text looks into the description. -/
def Field.readsDescription (item : Item) (value : String) : Field → Bool
  | description => true
  | fulltext =>
    !(Text.mentions item.title (Text.lower value.toList) ||
      Text.mentions item.url (Text.lower value.toList))
  | _ => false

theorem descriptionMentions_eq_error_iff {needle : List Char} {f : EvalError} :
    descriptionMentions item needle = .error f ↔
      item.description.text? = none ∧ f = .markupRefused := by
  unfold descriptionMentions
  cases item.description.text? <;> simp [eq_comm]

theorem matches_eq_error_iff {field : Field} {value : String} {f : EvalError} :
    field.matches item value = .error f ↔
      field.readsDescription item value = true ∧ item.description.text? = none ∧
        f = .markupRefused := by
  cases field with
  | tag | site | title | metadata | url => simp [Field.matches, Field.readsDescription]
  | description =>
      simp [Field.matches, Field.readsDescription, descriptionMentions_eq_error_iff]
  | fulltext =>
      simp only [Field.matches, Field.readsDescription]
      split
      · rename_i hshort
        rw [hshort]
        constructor
        · intro h
          exact nomatch h
        · rintro ⟨h, _⟩
          simp at h
      · rename_i hlong
        rw [Bool.not_eq_true] at hlong
        rw [hlong, bind_eq_error_iff, descriptionMentions_eq_error_iff]
        refine ⟨?_, fun h => Or.inl h.2⟩
        rintro (h | ⟨b, _, h⟩)
        · exact ⟨rfl, h⟩
        · cases b <;> exact nomatch h

/-! ### Testing what has been read -/

/-- What a test needs the description for is there. -/
def DescriptionReadable (item : Item) (field : Field) (value : String) : Prop :=
  field.readsDescription item value = true → item.description.text? ≠ none

/-- In the middle of February there is a day a month before. -/
theorem monthAgo_read :
    parse ⟨.instant 1707998400000000, .utc⟩ "(after \"a month ago\")"
      = .ok (.published .after "a month ago") := by
  have hname : Text.lowered "after" = (Leaf.published .after).name := by decide +kernel
  have hvalue : TimeString.resolve "a month ago" (.instant 1707998400000000) .utc
      = .ok (.moment 1705320000000) := by decide +kernel
  exact parse_eq_ok_iff.mpr ⟨[.opening, .text "after", .text "a month ago", .closing],
    by decide +kernel, .leaf hname (.published hvalue (by simp))⟩

/-- At the end of March there is none. -/
theorem monthAgo_gone {item : Item} (b : Bool) :
    (Expr.published .after "a month ago").holds ⟨.instant 1711886400000000, .utc⟩ item ≠ .ok b := by
  have hgone : resolved ⟨.instant 1711886400000000, .utc⟩ "a month ago"
      = .error (.unresolved "a month ago") := by decide +kernel
  rw [published_holds_eq_error_iff.mpr hgone]
  simp

end MediaSearch.Query
