/-
Small letters of texts with ASCII characters.

What a text becomes in small letters depends on more than one character at a time: a
capital sigma looks at its neighbours.  An ASCII character never does.  It becomes its own
small letter, in its own place, whatever stands around it (`lower_append_cons`), and a text
of ASCII characters without capitals stays as it is (`lower_eq_self`).  A blank of any kind
stays as it is, too, so what holds ASCII words and blanks becomes small one character after the
other (`lower_eq_map`).

An ASCII letter or digit is no blank, so a text that begins and ends with one is not stripped of
anything (`strip_eq_self`).
-/
import MediaSearch.Text.Blank
import MediaSearch.Text.Lower

namespace MediaSearch.Text

/-- Whether a character is one of the 128 of ASCII. -/
def IsAscii (c : Char) : Prop :=
  c.toNat < 128

instance (c : Char) : Decidable (IsAscii c) :=
  inferInstanceAs (Decidable (c.toNat < 128))

theorem isAscii_of_isDigit {c : Char} (h : c.isDigit = true) : IsAscii c :=
  Nat.lt_of_le_of_lt (Char.isDigit_iff_toNat.mp h).2 (by decide)

theorem isAlpha_iff_toNat {c : Char} :
    c.isAlpha = true ↔ (65 ≤ c.toNat ∧ c.toNat ≤ 90) ∨ (97 ≤ c.toNat ∧ c.toNat ≤ 122) := by
  show (decide (c.val ≥ 'A'.val ∧ c.val ≤ 'Z'.val) ||
    (decide (c.val ≥ 'a'.val) && decide (c.val ≤ 'z'.val))) = true ↔ _
  rw [Bool.or_eq_true, Bool.and_eq_true, decide_eq_true_eq, decide_eq_true_eq, decide_eq_true_eq]
  simp only [ge_iff_le, UInt32.le_iff_toNat_le]
  rfl

theorem isAscii_of_isAlpha {c : Char} (h : c.isAlpha = true) : IsAscii c := by
  unfold IsAscii
  rcases isAlpha_iff_toNat.mp h with h | h <;> omega

/-- A digit is no letter. -/
theorem isAlpha_of_isDigit {c : Char} (h : c.isDigit = true) : c.isAlpha = false := by
  rw [Bool.eq_false_iff]
  intro halpha
  have hdigit : 48 ≤ c.toNat ∧ c.toNat ≤ 57 := Char.isDigit_iff_toNat.mp h
  rcases isAlpha_iff_toNat.mp halpha with h | h <;> omega

/-- A character that is no letter is its own small letter. -/
theorem toLower_of_not_isAlpha {c : Char} (h : c.isAlpha = false) : c.toLower = c := by
  unfold Char.toLower
  rw [dif_neg]
  intro hupper
  simp only [ge_iff_le, UInt32.le_iff_toNat_le] at hupper
  rw [Bool.eq_false_iff] at h
  exact h (isAlpha_iff_toNat.mpr (Or.inl hupper))

theorem isAlpha_toLower {c : Char} (h : c.isAlpha = true) : c.toLower.isAlpha = true := by
  have hall : ∀ n : Fin 128, (Char.ofNat n).isAlpha = true →
      (Char.ofNat n).toLower.isAlpha = true := by decide
  have hc : Char.ofNat c.toNat = c := Char.ofNat_toNat c
  have := hall ⟨c.toNat, isAscii_of_isAlpha h⟩
  rw [hc] at this
  exact this h

/-- What has a letter for its small letter is one. -/
theorem isAlpha_of_isAlpha_toLower {c : Char} (h : c.toLower.isAlpha = true) : c.isAlpha = true := by
  cases hc : c.isAlpha with
  | true => rfl
  | false =>
      rw [toLower_of_not_isAlpha hc, hc] at h
      exact nomatch h

/-- Whether a character becomes its ASCII small letter, or stays as it is, in any text. -/
def LowersAlone (c : Char) : Prop :=
  c ≠ 'Σ' ∧ lowerChar c = [c.toLower]

instance (c : Char) : Decidable (LowersAlone c) :=
  inferInstanceAs (Decidable (_ ∧ _))

theorem lowersAlone_of_isAscii {c : Char} (h : IsAscii c) : LowersAlone c := by
  refine ⟨?_, if_pos h⟩
  rintro rfl
  exact absurd h (by decide)

theorem lowerAfter_cons_of_alone (afterCased : Bool) {c : Char} (h : LowersAlone c)
    (rest : List Char) : lowerAfter afterCased (c :: rest)
      = c.toLower :: lowerAfter (if isCaseIgnorable c then afterCased else isCased c) rest := by
  simp only [lowerAfter]
  rw [if_neg (by simpa using h.1), h.2, List.singleton_append]

theorem lowerAfter_cons (afterCased : Bool) {c : Char} (h : IsAscii c) (rest : List Char) :
    ∃ after, lowerAfter afterCased (c :: rest) = c.toLower :: lowerAfter after rest :=
  ⟨_, lowerAfter_cons_of_alone afterCased (lowersAlone_of_isAscii h) rest⟩

/-- An ASCII character becomes its own small letter, whatever stands around it. -/
theorem lowerAfter_append_cons {c : Char} (h : IsAscii c) (rest : List Char) :
    ∀ (front : List Char) (afterCased : Bool), ∃ front' after,
      lowerAfter afterCased (front ++ c :: rest)
        = front' ++ c.toLower :: lowerAfter after rest := by
  intro front
  induction front with
  | nil =>
      intro afterCased
      obtain ⟨after, hafter⟩ := lowerAfter_cons afterCased h rest
      exact ⟨[], after, hafter⟩
  | cons d more ih =>
      intro afterCased
      obtain ⟨front', after, hmore⟩ := ih (if isCaseIgnorable d then afterCased else isCased d)
      rw [List.cons_append, lowerAfter, hmore]
      exact ⟨_ ++ front', after, (List.append_assoc _ _ _).symm⟩

theorem lower_append_cons {c : Char} (h : IsAscii c) (front rest : List Char) :
    ∃ front' after, lower (front ++ c :: rest) = front' ++ c.toLower :: lowerAfter after rest :=
  lowerAfter_append_cons h rest front false

theorem mem_lower {c : Char} (h : IsAscii c) {text : List Char} (hmem : c ∈ text) :
    c.toLower ∈ lower text := by
  obtain ⟨front, rest, rfl⟩ := List.append_of_mem hmem
  obtain ⟨front', after, heq⟩ := lower_append_cons h front rest
  rw [heq]
  simp

/-- A text of such characters becomes small one by one. -/
theorem lower_eq_map {text : List Char} (h : ∀ c ∈ text, LowersAlone c) :
    lower text = text.map Char.toLower := by
  have hafter : ∀ (text : List Char) (afterCased : Bool), (∀ c ∈ text, LowersAlone c) →
      lowerAfter afterCased text = text.map Char.toLower := by
    intro text
    induction text with
    | nil => intro _ _; rfl
    | cons c rest ih =>
        intro afterCased h
        obtain ⟨hc, hrest⟩ := List.forall_mem_cons.mp h
        rw [lowerAfter_cons_of_alone afterCased hc, ih _ hrest, List.map_cons]
  exact hafter text false h

/-- Characters that are small stay as they are. -/
theorem map_toLower_eq_self {text : List Char} (h : ∀ c ∈ text, c.toLower = c) :
    text.map Char.toLower = text := by
  calc text.map Char.toLower
    _ = text.map id := List.map_congr_left h
    _ = text := List.map_id text

/-- A text of ASCII characters without capitals is in small letters. -/
theorem lower_eq_self {text : List Char} (h : ∀ c ∈ text, IsAscii c ∧ c.toLower = c) :
    lower text = text := by
  rw [lower_eq_map fun c hc => lowersAlone_of_isAscii (h c hc).1]
  exact map_toLower_eq_self fun c hc => (h c hc).2

/-! ### Blanks -/

theorem not_isBlank_of_isAlphanum {c : Char} (h : c.isAlphanum = true) : isBlank c = false := by
  have hall : ∀ n : Fin 128, (Char.ofNat n).isAlphanum = true → isBlank (Char.ofNat n) = false := by
    decide
  have hascii : IsAscii c := by
    rcases Bool.or_eq_true_iff.mp h with h | h
    · exact isAscii_of_isAlpha h
    · exact isAscii_of_isDigit h
  have hc := hall ⟨c.toNat, hascii⟩
  rw [Char.ofNat_toNat] at hc
  exact hc h

theorem not_isBlank_of_isDigit {c : Char} (h : c.isDigit = true) : isBlank c = false :=
  not_isBlank_of_isAlphanum (Bool.or_eq_true_iff.mpr (.inr h))

theorem not_isAlphanum_of_isPlainBlank {c : Char} (h : isPlainBlank c = true) :
    c.isAlphanum = false := by
  rw [Bool.eq_false_iff]
  intro halphanum
  have hblank := isBlank_of_isPlainBlank h
  rw [not_isBlank_of_isAlphanum halphanum] at hblank
  exact nomatch hblank

/-- The blanks are few. -/
def blankCodes : List Nat :=
  [9, 10, 11, 12, 13, 28, 29, 30, 31, 32, 0x85, 0xA0, 0x1680, 0x2000, 0x2001, 0x2002, 0x2003,
    0x2004, 0x2005, 0x2006, 0x2007, 0x2008, 0x2009, 0x200A, 0x2028, 0x2029, 0x202F, 0x205F, 0x3000]

theorem mem_blankCodes {c : Char} (h : isBlank c = true) : c.toNat ∈ blankCodes := by
  simp only [isBlank, Bool.or_eq_true, Bool.and_eq_true, decide_eq_true_eq, beq_iff_eq] at h
  simp only [blankCodes, List.mem_cons, List.not_mem_nil]
  omega

/-- A blank stays as it is when a text becomes small, and so does what stands around it. -/
theorem lowersAlone_of_isBlank {c : Char} (h : isBlank c = true) : LowersAlone c := by
  have hall : ∀ n ∈ blankCodes, LowersAlone (Char.ofNat n) := by decide +kernel
  rw [← Char.ofNat_toNat c]
  exact hall c.toNat (mem_blankCodes h)

theorem toLower_of_isBlank {c : Char} (h : isBlank c = true) : c.toLower = c := by
  refine toLower_of_not_isAlpha (Bool.eq_false_iff.mpr fun halpha => ?_)
  rw [not_isBlank_of_isAlphanum (Bool.or_eq_true_iff.mpr (.inl halpha))] at h
  exact nomatch h

/-- A text without a blank at either end is not stripped of anything. -/
theorem strip_eq_self {text : List Char} (hfirst : ∀ c ∈ text.head?, isBlank c = false)
    (hlast : ∀ c ∈ text.getLast?, isBlank c = false) : strip text = text := by
  have hkeep : ∀ text : List Char, (∀ c ∈ text.head?, isBlank c = false) →
      text.dropWhile isBlank = text := by
    intro text h
    cases text with
    | nil => rfl
    | cons c rest => exact List.dropWhile_cons_of_neg (by simp [h c rfl])
  rw [strip, hkeep text hfirst, hkeep text.reverse (by rwa [List.head?_reverse]),
    List.reverse_reverse]

end MediaSearch.Text
