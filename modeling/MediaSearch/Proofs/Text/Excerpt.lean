/-
Small letters of an excerpt.

A text becomes small one character after the other, except that a capital sigma looks at what
stands around it.  So a piece of a text becomes the same within the text as alone, unless there is a
capital sigma in it that ends a word in the one place and not in the other (`SeversSigma`,
`lowerWithin_eq_lower_iff`).  Only a sigma with no letter before it in the piece, or none behind it,
can tell the difference (`not_seversSigma_of_inside`).
-/
import Mathlib.Logic.Basic
import MediaSearch.Text.Lower

namespace MediaSearch.Text

/-! ### What stands around -/

/-- Whether the last character that is not ignored is a letter with case; `afterCased` says so of
what comes before the text. -/
def casedAfter (afterCased : Bool) (text : List Char) : Bool :=
  text.foldl (fun cased c => if isCaseIgnorable c then cased else isCased c) afterCased

@[simp] theorem casedAfter_nil (afterCased : Bool) : casedAfter afterCased [] = afterCased := rfl

@[simp] theorem casedAfter_cons (afterCased : Bool) (c : Char) (rest : List Char) :
    casedAfter afterCased (c :: rest)
      = casedAfter (if isCaseIgnorable c then afterCased else isCased c) rest := rfl

theorem casedAfter_append (afterCased : Bool) (text more : List Char) :
    casedAfter afterCased (text ++ more) = casedAfter (casedAfter afterCased text) more :=
  List.foldl_append

/-- What comes before a text is hidden by a character that is not ignored. -/
theorem casedAfter_congr {text : List Char} (h : ∃ c ∈ text, isCaseIgnorable c = false)
    (afterCased other : Bool) : casedAfter afterCased text = casedAfter other text := by
  induction text generalizing afterCased other with
  | nil => simp at h
  | cons c rest ih =>
      rw [casedAfter_cons, casedAfter_cons]
      cases hc : isCaseIgnorable c with
      | true => exact ih (by simpa [hc] using h) _ _
      | false => rfl

/-- What comes behind a text is hidden by such a character, too. -/
theorem startsCased_append_of_hidden {text : List Char}
    (h : ∃ c ∈ text, isCaseIgnorable c = false) (behind : List Char) :
    startsCased (text ++ behind) = startsCased text := by
  induction text with
  | nil => simp at h
  | cons c rest ih =>
      rw [List.cons_append, startsCased, startsCased]
      cases hc : isCaseIgnorable c with
      | true => exact ih (by simpa [hc] using h)
      | false => rfl

/-! ### A piece within a text -/

/-- The small form of a character that ends a word, or of one that does not. -/
def smallForm (ends : Bool) (c : Char) : List Char :=
  if c == 'Σ' then [if ends then 'ς' else 'σ'] else lowerChar c

/-- It makes a difference for a capital sigma only. -/
theorem smallForm_eq_iff {c : Char} {ends other : Bool} :
    smallForm ends c = smallForm other c ↔ (c = 'Σ' → ends = other) := by
  unfold smallForm
  by_cases hc : c = 'Σ'
  · subst hc
    cases ends <;> cases other <;> decide
  · simp [hc]

theorem length_smallForm (c : Char) (ends other : Bool) :
    (smallForm ends c).length = (smallForm other c).length := by
  unfold smallForm
  split <;> rfl

/-- The small form of a piece of a text; `afterCased` says whether a letter with case comes before
it in the text, and `behind` is what follows. -/
def lowerWithin (afterCased : Bool) (behind : List Char) : List Char → List Char
  | [] => []
  | c :: rest =>
    smallForm (afterCased && !startsCased (rest ++ behind)) c
      ++ lowerWithin (if isCaseIgnorable c then afterCased else isCased c) behind rest

/-- Pieces become small one after the other. -/
theorem lowerAfter_append (afterCased : Bool) (text behind : List Char) :
    lowerAfter afterCased (text ++ behind)
      = lowerWithin afterCased behind text ++ lowerAfter (casedAfter afterCased text) behind := by
  induction text generalizing afterCased with
  | nil => rfl
  | cons c rest ih =>
      rw [List.cons_append, lowerAfter, lowerWithin, casedAfter_cons, ih]
      exact (List.append_assoc _ _ _).symm

/-- With nothing around it a piece is a text of its own. -/
theorem lower_eq_lowerWithin (text : List Char) : lower text = lowerWithin false [] text := by
  have hend := lowerAfter_append false text []
  rwa [List.append_nil, lowerAfter, List.append_nil] at hend

/-- A piece becomes the same in two places exactly when each capital sigma in it ends a word in both
or in neither. -/
theorem lowerWithin_eq_iff {afterCased other : Bool} {behind behind' text : List Char} :
    lowerWithin afterCased behind text = lowerWithin other behind' text ↔
      ∀ u v, text = u ++ 'Σ' :: v →
        (casedAfter afterCased u && !startsCased (v ++ behind))
          = (casedAfter other u && !startsCased (v ++ behind')) := by
  induction text generalizing afterCased other with
  | nil => simp [lowerWithin]
  | cons c rest ih =>
      rw [lowerWithin, lowerWithin]
      constructor
      · intro h u v hcut
        obtain ⟨hfirst, hrest⟩ := List.append_inj h (length_smallForm c _ _)
        rcases List.cons_eq_append_iff.mp hcut with ⟨rfl, hv⟩ | ⟨u', rfl, hcut'⟩
        · obtain ⟨hc, rfl⟩ := List.cons.inj hv
          exact smallForm_eq_iff.mp hfirst hc.symm
        · exact ih.mp hrest u' v hcut'
      · intro h
        have hfirst := smallForm_eq_iff.mpr fun hc : c = 'Σ' => h [] rest (by rw [hc]; rfl)
        rw [casedAfter_nil, casedAfter_nil] at hfirst
        rw [hfirst, ih.mpr fun u v hcut => h (c :: u) v (by rw [hcut]; rfl)]

/-! ### Severed sigmas -/

/-- A capital sigma between these two texts ends a word. -/
def EndsWord (before behind : List Char) : Bool :=
  casedAfter false before && !startsCased behind

/-- Taking a piece out from between two texts severs a capital sigma in it from a neighbour: it ends
a word in the text and not in the piece, or the other way round. -/
def SeversSigma (before piece behind : List Char) : Prop :=
  ∃ u v, piece = u ++ 'Σ' :: v ∧ EndsWord (before ++ u) (v ++ behind) ≠ EndsWord u v

/-- A piece becomes the same within a text as alone exactly when no sigma is severed. -/
theorem lowerWithin_eq_lower_iff {before piece behind : List Char} :
    lowerWithin (casedAfter false before) behind piece = lower piece ↔
      ¬ SeversSigma before piece behind := by
  rw [lower_eq_lowerWithin, lowerWithin_eq_iff]
  simp only [SeversSigma, EndsWord, casedAfter_append, List.append_nil, not_exists, not_and,
    not_not]

/-- The small form of a piece that severs no sigma is in that of the text. -/
theorem lower_infix_of_not_seversSigma {before piece behind : List Char}
    (h : ¬ SeversSigma before piece behind) :
    lower piece <:+: lower (before ++ piece ++ behind) := by
  rw [← lowerWithin_eq_lower_iff.mpr h, List.append_assoc]
  refine ⟨lowerWithin false (piece ++ behind) before,
    lowerAfter (casedAfter (casedAfter false before) piece) behind, ?_⟩
  rw [lower, lowerAfter_append, lowerAfter_append, List.append_assoc]

/-- Every capital sigma of a piece has a character before it and one behind it in the piece that are
not ignored. -/
def SigmaInside (piece : List Char) : Prop :=
  ∀ u v, piece = u ++ 'Σ' :: v →
    (∃ c ∈ u, isCaseIgnorable c = false) ∧ ∃ c ∈ v, isCaseIgnorable c = false

/-- Such a sigma has its neighbours with it wherever the piece is taken from. -/
theorem not_seversSigma_of_inside {piece : List Char} (h : SigmaInside piece)
    (before behind : List Char) : ¬ SeversSigma before piece behind := by
  rintro ⟨u, v, hcut, hends⟩
  obtain ⟨hbefore, hbehind⟩ := h u v hcut
  refine hends ?_
  rw [EndsWord, EndsWord, casedAfter_append, casedAfter_congr hbefore _ false,
    startsCased_append_of_hidden hbehind]

end MediaSearch.Text
