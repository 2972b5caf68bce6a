/-
Patterns of characters.

A pattern is tried at the front of a text.  Trying goes back on its choices: a repetition
goes on for as long as it can and then gives up one round after the other, and of two
alternatives the first is tried before the second.  `Pattern.rests` lists what a pattern
can leave of a text in the order in which that search finds it, and matching leaves the
first of them (`Pattern.match?`).

What is left is always the end of the text (`suffix_of_mem_rests`).  A repeated class of
characters leaves what follows its longest run (`rests_many_one`).
-/
import Mathlib.Data.List.TakeWhile

namespace MediaSearch.Text

/-- A pattern of characters. -/
inductive Pattern
  /-- One character that passes a test. -/
  | one (test : Char → Bool)
  /-- One pattern and then another. -/
  | seq (first second : Pattern)
  /-- One pattern, or else another. -/
  | either (first second : Pattern)
  /-- A pattern any number of times. -/
  | many (body : Pattern)

namespace Pattern

/-- What the pattern can leave of a text, in the order in which it is tried. -/
def rests : Pattern → List Char → List (List Char)
  | one _, [] => []
  | one test, c :: rest => if test c then [rest] else []
  | seq first second, text => (first.rests text).flatMap second.rests
  | either first second, text => first.rests text ++ second.rests text
  | many body, text =>
    -- A round that takes nothing would be repeated for ever.
    ((body.rests text).flatMap fun rest =>
      if rest.length < text.length then (many body).rests rest else []) ++ [text]
termination_by pattern text => (sizeOf pattern, text.length)

/-- What matching leaves of a text. -/
def match? (pattern : Pattern) (text : List Char) : Option (List Char) :=
  (pattern.rests text).head?

/-- A run of the characters of a class; there is at least one. -/
def run (test : Char → Bool) : Pattern :=
  seq (one test) (many (one test))

variable {test : Char → Bool} {p q : Pattern} {text rest : List Char}

/-! ### What is left -/

@[simp] theorem rests_seq : (seq p q).rests text = (p.rests text).flatMap q.rests := by
  rw [rests]

@[simp] theorem rests_either : (either p q).rests text = p.rests text ++ q.rests text := by
  rw [rests]

theorem rests_one_cons_of_pos {c : Char} (h : test c = true) :
    (one test).rests (c :: text) = [text] := by
  rw [rests, if_pos h]

theorem rests_one_cons_of_neg {c : Char} (h : test c = false) :
    (one test).rests (c :: text) = [] := by
  rw [rests, if_neg (by simp [h])]

theorem mem_rests_one : rest ∈ (one test).rests text ↔ ∃ c, text = c :: rest ∧ test c = true := by
  cases text with
  | nil => simp [rests]
  | cons c more =>
      by_cases hc : test c = true
      · rw [rests_one_cons_of_pos hc, List.mem_singleton]
        constructor
        · rintro rfl
          exact ⟨c, rfl, hc⟩
        · rintro ⟨d, htext, -⟩
          exact (List.cons.inj htext).2.symm
      · rw [rests_one_cons_of_neg (by simpa using hc)]
        simp [hc]

/-- A repetition that cannot begin leaves the text as it is. -/
theorem rests_many_of_nil (h : p.rests text = []) : (many p).rests text = [text] := by
  rw [rests, h]
  rfl

/-- A repetition whose first round can be done in one way goes on behind it, and gives that round up
last. -/
theorem rests_many_of_singleton (h : p.rests text = [rest]) (hlt : rest.length < text.length) :
    (many p).rests text = (many p).rests rest ++ [text] := by
  rw [rests, h, List.flatMap_singleton, if_pos hlt]

/-- Whatever a pattern leaves is the end of the text. -/
theorem suffix_of_mem_rests : ∀ (p : Pattern) {text rest : List Char},
    rest ∈ p.rests text → rest <:+ text
  | one test, text, rest, h => by
      obtain ⟨c, rfl, -⟩ := mem_rests_one.mp h
      exact List.suffix_cons c rest
  | seq p q, text, rest, h => by
      rw [rests_seq] at h
      obtain ⟨middle, hmiddle, hrest⟩ := List.mem_flatMap.mp h
      exact (suffix_of_mem_rests q hrest).trans (suffix_of_mem_rests p hmiddle)
  | either p q, text, rest, h => by
      rw [rests_either] at h
      rcases List.mem_append.mp h with h | h
      · exact suffix_of_mem_rests p h
      · exact suffix_of_mem_rests q h
  | many p, text, rest, h => by
      rw [rests] at h
      rcases List.mem_append.mp h with h | h
      · obtain ⟨middle, hmiddle, hrest⟩ := List.mem_flatMap.mp h
        split at hrest
        · have hsuffix := suffix_of_mem_rests (many p) hrest
          exact hsuffix.trans (suffix_of_mem_rests p hmiddle)
        · exact absurd hrest List.not_mem_nil
      · obtain rfl := List.mem_singleton.mp h
        exact List.suffix_refl _
termination_by p text => (sizeOf p, text.length)

theorem suffix_of_match? (h : p.match? text = some rest) : rest <:+ text :=
  suffix_of_mem_rests p (List.mem_of_head? h)

/-! ### Matching -/

theorem match?_one_eq_some_iff :
    (one test).match? text = some rest ↔ ∃ c, text = c :: rest ∧ test c = true := by
  cases text with
  | nil => simp [match?, rests]
  | cons c more =>
      by_cases hc : test c = true
      · rw [match?, rests_one_cons_of_pos hc, List.head?_cons, Option.some.injEq]
        constructor
        · rintro rfl
          exact ⟨c, rfl, hc⟩
        · rintro ⟨d, htext, -⟩
          exact (List.cons.inj htext).2
      · simp [match?, rests_one_cons_of_neg (by simpa using hc), hc]

/-- A repeated class of characters goes on to the end of its run. -/
theorem match?_many_one (text : List Char) :
    (many (one test)).match? text = some (text.dropWhile test) := by
  induction text with
  | nil =>
      rw [match?, rests_many_of_nil (by rw [rests])]
      rfl
  | cons c text ih =>
      by_cases hc : test c = true
      · rw [match?, rests_many_of_singleton (rests_one_cons_of_pos hc) (by simp),
          List.dropWhile_cons_of_pos hc, List.head?_append]
        rw [match?] at ih
        rw [ih, Option.some_or]
      · rw [match?, rests_many_of_nil (rests_one_cons_of_neg (by simpa using hc)),
          List.dropWhile_cons_of_neg hc]
        rfl

theorem match?_run_eq_some_iff :
    (run test).match? text = some rest ↔
      ∃ c more, text = c :: more ∧ test c = true ∧ rest = more.dropWhile test := by
  rw [match?, run, rests_seq]
  cases text with
  | nil => simp [rests]
  | cons c more =>
      by_cases hc : test c = true
      · rw [rests_one_cons_of_pos hc, List.flatMap_singleton]
        have hmany : ((many (one test)).rests more).head? = some (more.dropWhile test) :=
          match?_many_one more
        rw [hmany, Option.some.injEq]
        constructor
        · rintro rfl
          exact ⟨c, more, rfl, hc, rfl⟩
        · rintro ⟨d, others, htext, -, rfl⟩
          rw [(List.cons.inj htext).2]
      · rw [rests_one_cons_of_neg (by simpa using hc)]
        simp [hc]

end Pattern

end MediaSearch.Text
