/-
What the small readers take from a text.

A reader that succeeds splits its text into a piece of a known form and the rest, and
the lemmas here say which piece.  A format is a chain of readers, so what it accepts is
read off by going down the chain.
-/
import Mathlib.Data.List.TakeWhile
import MediaSearch.Text.Digits

namespace MediaSearch.Text

/-! ### Digits -/

/-- A run of digits with a length between `least` and `most`. -/
structure IsRun (least most : Nat) (digits : List Char) : Prop where
  /-- Every character is a digit. -/
  digit : ∀ c ∈ digits, c.isDigit = true
  /-- It is not too short. -/
  least_le : least ≤ digits.length
  /-- It is not too long. -/
  le_most : digits.length ≤ most

instance (least most : Nat) (digits : List Char) : Decidable (IsRun least most digits) :=
  decidable_of_iff (digits.all Char.isDigit = true ∧ least ≤ digits.length ∧ digits.length ≤ most)
    ⟨fun h => ⟨List.all_eq_true.mp h.1, h.2.1, h.2.2⟩,
      fun h => ⟨List.all_eq_true.mpr h.digit, h.least_le, h.le_most⟩⟩

/-- A text that does not begin with a digit. -/
def NoDigitFirst (text : List Char) : Prop :=
  ∀ c rest, text = c :: rest → c.isDigit = false

/-- A run of characters that pass a test ends where one fails it. -/
theorem takeWhile_append_stop {test : Char → Bool} {run rest : List Char}
    (hrun : ∀ c ∈ run, test c = true) (hrest : ∀ c more, rest = c :: more → test c = false) :
    (run ++ rest).takeWhile test = run := by
  rw [List.takeWhile_append_of_pos hrun]
  cases rest with
  | nil => simp
  | cons c more => rw [List.takeWhile_cons_of_neg (by simp [hrest c more rfl]), List.append_nil]

theorem dropWhile_append_stop {test : Char → Bool} {run rest : List Char}
    (hrun : ∀ c ∈ run, test c = true) (hrest : ∀ c more, rest = c :: more → test c = false) :
    (run ++ rest).dropWhile test = rest := by
  rw [List.dropWhile_append_of_pos hrun]
  cases rest with
  | nil => simp
  | cons c more => rw [List.dropWhile_cons_of_neg (by simp [hrest c more rfl])]

theorem takeWhile_digits {digits rest : List Char} (hdigits : ∀ c ∈ digits, c.isDigit = true)
    (hrest : NoDigitFirst rest) : (digits ++ rest).takeWhile Char.isDigit = digits :=
  takeWhile_append_stop hdigits hrest

theorem dropWhile_digits {digits rest : List Char} (hdigits : ∀ c ∈ digits, c.isDigit = true)
    (hrest : NoDigitFirst rest) : (digits ++ rest).dropWhile Char.isDigit = rest :=
  dropWhile_append_stop hdigits hrest

theorem noDigitFirst_dropWhile (text : List Char) :
    NoDigitFirst (text.dropWhile Char.isDigit) := by
  intro c rest h
  have hhead := List.head?_dropWhile_not Char.isDigit text
  rw [h] at hhead
  simpa using hhead

theorem digitRun?_eq_some_iff {least most : Nat} {text digits rest : List Char} :
    digitRun? least most text = some (digits, rest) ↔
      text = digits ++ rest ∧ IsRun least most digits ∧ NoDigitFirst rest := by
  constructor
  · intro h
    unfold digitRun? at h
    dsimp only at h
    split at h
    · rename_i hlen
      rw [Bool.and_eq_true, decide_eq_true_eq, decide_eq_true_eq] at hlen
      rw [Option.some.injEq, Prod.mk.injEq] at h
      obtain ⟨rfl, rfl⟩ := h
      refine ⟨(List.takeWhile_append_dropWhile).symm, ⟨?_, hlen.1, hlen.2⟩,
        noDigitFirst_dropWhile text⟩
      intro c hc
      exact List.mem_takeWhile_imp hc
    · simp at h
  · rintro ⟨rfl, hrun, hrest⟩
    unfold digitRun?
    dsimp only
    rw [takeWhile_digits hrun.digit hrest, dropWhile_digits hrun.digit hrest, if_pos]
    rw [Bool.and_eq_true, decide_eq_true_eq, decide_eq_true_eq]
    exact ⟨hrun.least_le, hrun.le_most⟩

theorem number?_eq_some_iff {least most value : Nat} {text rest : List Char} :
    number? least most text = some (value, rest) ↔
      ∃ digits, text = digits ++ rest ∧ IsRun least most digits ∧ NoDigitFirst rest ∧
        value = digitsValue digits := by
  unfold number?
  rw [Option.map_eq_some_iff]
  constructor
  · rintro ⟨⟨digits, behind⟩, hrun, heq⟩
    rw [Prod.mk.injEq] at heq
    obtain ⟨rfl, rfl⟩ := heq
    obtain ⟨htext, hdigits, hbehind⟩ := digitRun?_eq_some_iff.mp hrun
    exact ⟨digits, htext, hdigits, hbehind, rfl⟩
  · rintro ⟨digits, htext, hdigits, hrest, rfl⟩
    exact ⟨(digits, rest), digitRun?_eq_some_iff.mpr ⟨htext, hdigits, hrest⟩, rfl⟩

/-- A run of digits that is not empty begins with one. -/
theorem IsRun.eq_cons {least most : Nat} {digits : List Char} (h : IsRun (least + 1) most digits) :
    ∃ c rest, digits = c :: rest ∧ c.isDigit = true := by
  cases digits with
  | nil => exact absurd h.least_le (by simp)
  | cons c rest => exact ⟨c, rest, rfl, h.digit c (by simp)⟩

/-- A run of digits that is not empty ends with one. -/
theorem IsRun.eq_concat {least most : Nat} {digits : List Char}
    (h : IsRun (least + 1) most digits) : ∃ front c, digits = front ++ [c] ∧ c.isDigit = true := by
  rcases List.eq_nil_or_concat digits with rfl | ⟨front, c, rfl⟩
  · exact absurd h.least_le (by simp)
  · exact ⟨front, c, by simp, h.digit c (by simp)⟩

/-! ### Single characters -/

theorem oneOf?_eq_some_iff {accepts : Char → Bool} {text rest : List Char} {c : Char} :
    oneOf? accepts text = some (c, rest) ↔ text = c :: rest ∧ accepts c = true := by
  cases text with
  | nil => simp [oneOf?]
  | cons d more =>
      simp only [oneOf?]
      constructor
      · intro h
        split at h
        · rename_i hd
          rw [Option.some.injEq, Prod.mk.injEq] at h
          obtain ⟨rfl, rfl⟩ := h
          exact ⟨rfl, hd⟩
        · simp at h
      · rintro ⟨heq, hc⟩
        rw [List.cons.injEq] at heq
        obtain ⟨rfl, rfl⟩ := heq
        rw [if_pos hc]

theorem char?_eq_some_iff {expected : Char} {text rest : List Char} :
    char? expected text = some rest ↔ text = expected :: rest := by
  unfold char?
  rw [Option.map_eq_some_iff]
  constructor
  · rintro ⟨⟨c, behind⟩, hone, rfl⟩
    obtain ⟨rfl, hc⟩ := oneOf?_eq_some_iff.mp hone
    rw [beq_iff_eq.mp hc]
  · intro h
    exact ⟨(expected, rest), oneOf?_eq_some_iff.mpr ⟨h, by simp⟩, rfl⟩

theorem done?_eq_some_iff {text : List Char} {u : Unit} : done? text = some u ↔ text = [] := by
  cases text <;> simp [done?]

/-- The blanks that are read are followed by something else. -/
theorem eq_of_blanks?_eq_some {blank : Char → Bool} {text rest : List Char}
    (h : blanks? blank text = some rest) :
    ∃ c more, text = c :: more ++ rest ∧ ∀ d ∈ c :: more, blank d = true := by
  cases text with
  | nil => simp [blanks?] at h
  | cons c behind =>
      simp only [blanks?] at h
      split at h
      · rename_i hc
        rw [Option.some.injEq] at h
        refine ⟨c, behind.takeWhile blank, ?_, ?_⟩
        · rw [← h, List.cons_append, List.takeWhile_append_dropWhile]
        · intro d hd
          rcases List.mem_cons.mp hd with rfl | hd
          · exact hc
          · exact List.mem_takeWhile_imp hd
      · simp at h

/-! ### Pieces that are read

The other way round: a piece of a known form is read from the front of a text if what is behind it
does not go on with it. -/

theorem noDigitFirst_nil : NoDigitFirst [] := by
  intro c rest h
  exact nomatch h

theorem noDigitFirst_cons {c : Char} {rest : List Char} (h : c.isDigit = false) :
    NoDigitFirst (c :: rest) := by
  rintro d more heq
  rwa [← (List.cons.inj heq).1]

theorem number?_append {least most : Nat} {digits rest : List Char} (h : IsRun least most digits)
    (hrest : NoDigitFirst rest) :
    number? least most (digits ++ rest) = some (digitsValue digits, rest) :=
  number?_eq_some_iff.mpr ⟨digits, rfl, h, hrest, rfl⟩

theorem number?_self {least most : Nat} {digits : List Char} (h : IsRun least most digits) :
    number? least most digits = some (digitsValue digits, []) := by
  have hread := number?_append h noDigitFirst_nil
  rwa [List.append_nil] at hread

theorem oneOf?_cons {accepts : Char → Bool} {c : Char} (h : accepts c = true) (rest : List Char) :
    oneOf? accepts (c :: rest) = some (c, rest) :=
  oneOf?_eq_some_iff.mpr ⟨rfl, h⟩

theorem char?_cons (c : Char) (rest : List Char) : char? c (c :: rest) = some rest :=
  char?_eq_some_iff.mpr rfl

theorem blanks?_append {blank : Char → Bool} {gap rest : List Char} (hne : gap ≠ [])
    (hgap : ∀ c ∈ gap, blank c = true) (hrest : ∀ c more, rest = c :: more → blank c = false) :
    blanks? blank (gap ++ rest) = some rest := by
  obtain ⟨c, more, rfl⟩ := List.exists_cons_of_ne_nil hne
  obtain ⟨hc, hmore⟩ := List.forall_mem_cons.mp hgap
  rw [List.cons_append, blanks?, if_pos hc, dropWhile_append_stop hmore hrest]

end MediaSearch.Text
