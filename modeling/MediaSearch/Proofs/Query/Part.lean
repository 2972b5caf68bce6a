/-
The parts of an expression that has been read.

The parts of an expression are the expression itself and the parts of its conditions.  What
has been read is a form of the grammar, and so is every part of it, with tokens that are among
those of the whole (`Part.derives`).  So everything that reading checks about a condition is
known of every condition in the tree, however deep it lies: none of them is foreign, and every
time string in them stood for something when it was read, for a span if it is an argument of
`during`.
-/
import MediaSearch.Proofs.Query.Grammar
import MediaSearch.Query.Eval

namespace MediaSearch.Query

variable {clock : Clock} {query time shown : String} {e : Expr} {relation : Relation}

/-- The first expression is a part of the second. -/
inductive Part (sub : Expr) : Expr → Prop
  /-- An expression is a part of itself. -/
  | here : Part sub sub
  /-- A part of a condition of a conjunction. -/
  | all {conditions : List Expr} {e : Expr} (mem : e ∈ conditions) (inner : Part sub e) :
      Part sub (.all conditions)
  /-- A part of a condition of a disjunction. -/
  | any {conditions : List Expr} {e : Expr} (mem : e ∈ conditions) (inner : Part sub e) :
      Part sub (.any conditions)
  /-- A part of what is denied. -/
  | not {e : Expr} (inner : Part sub e) : Part sub (.not e)

theorem Part.trans {sub part e : Expr} (h : Part sub part) (h' : Part part e) : Part sub e := by
  induction h' with
  | here => exact h
  | all mem inner ih => exact .all mem ih
  | any mem inner ih => exact .any mem ih
  | not inner ih => exact .not ih

/-! ### Forms of the grammar -/

theorem derives_of_mem {es : List Expr} {ts : List Token} (h : DerivesAll clock es ts) {e : Expr}
    (he : e ∈ es) : ∃ us, us <:+: ts ∧ Derives clock e us := by
  cases h with
  | nil => simp at he
  | cons first others =>
      rcases List.mem_cons.mp he with rfl | he
      · exact ⟨_, (List.prefix_append _ _).isInfix, first⟩
      · obtain ⟨us, hus, hderives⟩ := derives_of_mem others he
        exact ⟨us, hus.trans (List.suffix_append _ _).isInfix, hderives⟩

/-- What is between a name and the end of its form is in the form. -/
private theorem infix_inner (name : String) (ts : List Token) :
    ts <:+: .opening :: .text name :: (ts ++ [.closing]) :=
  ⟨[.opening, .text name], [.closing], rfl⟩

/-- Every part of a form of the grammar is one, and its tokens are among those of the whole. -/
theorem Part.derives {sub e : Expr} (hpart : Part sub e) :
    ∀ {ts : List Token}, Derives clock e ts → ∃ us, us <:+: ts ∧ Derives clock sub us := by
  induction hpart with
  | here => exact fun h => ⟨_, List.infix_rfl, h⟩
  | all mem inner ih =>
      intro ts h
      cases h with
      | all named some all =>
          obtain ⟨vs, hvs, hinner⟩ := derives_of_mem all mem
          obtain ⟨us, hus, hsub⟩ := ih hinner
          exact ⟨us, hus.trans (hvs.trans (infix_inner _ _)), hsub⟩
      | leaf named makes => exact nomatch makes
  | any mem inner ih =>
      intro ts h
      cases h with
      | any named some all =>
          obtain ⟨vs, hvs, hinner⟩ := derives_of_mem all mem
          obtain ⟨us, hus, hsub⟩ := ih hinner
          exact ⟨us, hus.trans (hvs.trans (infix_inner _ _)), hsub⟩
      | leaf named makes => exact nomatch makes
  | not inner ih =>
      intro ts h
      cases h with
      | not named one =>
          obtain ⟨us, hus, hsub⟩ := ih one
          exact ⟨us, hus.trans (infix_inner _ _), hsub⟩
      | leaf named makes => exact nomatch makes

theorem not_derives_foreign {ts : List Token} : ¬ Derives clock (.foreign shown) ts := by
  intro h
  cases h with
  | leaf named makes => exact nomatch makes

/-- A time string that has been read stood for something then, for a span under `during`. -/
theorem resolves_of_derives {ts : List Token} (h : Derives clock (.published relation time) ts) :
    ∃ spec, TimeString.resolve time clock.now clock.zone = .ok spec ∧
      (relation = .during → spec.isSpan = true) := by
  cases h with
  | leaf named makes =>
      cases makes with
      | published resolves spans => exact ⟨_, resolves, spans⟩

/-! ### What has been read -/

theorem not_part_foreign (hread : parse clock query = .ok e) : ¬ Part (.foreign shown) e := by
  intro hpart
  obtain ⟨tokens, -, hderives⟩ := parse_eq_ok_iff.mp hread
  obtain ⟨us, -, hus⟩ := hpart.derives hderives
  exact not_derives_foreign hus

/-- Every time string in an expression that has been read stood for something then. -/
theorem resolves_of_part (hread : parse clock query = .ok e)
    (hpart : Part (.published relation time) e) :
    ∃ spec, TimeString.resolve time clock.now clock.zone = .ok spec ∧
      (relation = .during → spec.isSpan = true) := by
  obtain ⟨tokens, -, hderives⟩ := parse_eq_ok_iff.mp hread
  obtain ⟨us, -, hus⟩ := hpart.derives hderives
  exact resolves_of_derives hus

/-- Testing resolves a time string the way that reading does. -/
theorem resolved_eq_ok_iff {spec : TimeSpec} :
    resolved clock time = .ok spec ↔
      TimeString.resolve time clock.now clock.zone = .ok spec := by
  unfold resolved
  split
  · rename_i h
    rw [h, Except.ok.injEq, Except.ok.injEq]
  · rename_i h
    simp [h]
  · rename_i h
    simp [h]

end MediaSearch.Query
