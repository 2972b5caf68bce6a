/-
Rounding a quotient to a 64-bit number.

Rounding takes two steps.  First an exponent is found with which the quotient has a mantissa of 53
bits, unless it is too small for that (`fits_exponentOf`); only the logarithms of the two numbers
are looked at, so it may have to be corrected by one.  Then the mantissa is rounded to a whole
number, and there the one question is which whole numbers it passes (`lt_roundQuotient_iff`).
What a quotient is after rounding, once it is taken up to the next whole number, follows
from the two (`ceiling?_ofRatio_eq_some_iff`).
-/
import Mathlib.Algebra.Order.Field.Power
import Mathlib.Data.Rat.Floor
import Mathlib.Tactic.Linarith
import Mathlib.Tactic.Ring
import MediaSearch.Decimal.Binary64

namespace MediaSearch.Decimal.Binary64

variable {num den : ℕ}

/-! ### Rounding to a whole number -/

/-- A quotient is rounded to more than a whole number exactly when it is more than a half above it,
or just a half and the number is odd. -/
theorem lt_roundQuotient_iff {k : ℕ} (hden : 0 < den) :
    k < roundQuotient num den ↔
      (2 * k + 1) * den < 2 * num ∨ (2 * k + 1) * den = 2 * num ∧ k % 2 = 1 := by
  have hnum : den * (num / den) + num % den = num := Nat.div_add_mod num den
  have hrest : num % den < den := Nat.mod_lt num hden
  unfold roundQuotient
  dsimp only
  generalize num / den = whole at hnum ⊢
  generalize num % den = rest at hnum hrest ⊢
  have hsplit : (2 * k + 1) * den = 2 * (den * k) + den := by ring
  rw [hsplit]
  rcases Nat.lt_trichotomy k whole with hlt | rfl | hgt
  · have hmul : den * (k + 1) ≤ den * whole := Nat.mul_le_mul_left den hlt
    rw [Nat.mul_succ] at hmul
    split_ifs <;> omega
  · split_ifs <;> omega
  · have hmul : den * (whole + 1) ≤ den * k := Nat.mul_le_mul_left den hgt
    rw [Nat.mul_succ] at hmul
    split_ifs <;> omega

/-! ### The exponent -/

/-- With this exponent a quotient has a mantissa of 53 bits, or of fewer if it is the least one. -/
structure Fits (num den : ℕ) (exponent : ℤ) : Prop where
  /-- No exponent is less than this, -/
  least : -1074 ≤ exponent
  /-- the mantissa is below `2 ^ 53`, -/
  below : (num : ℚ) < 2 ^ 53 * den * 2 ^ exponent
  /-- and at least `2 ^ 52` if there is a lesser exponent. -/
  full : -1074 < exponent → 2 ^ 52 * den * 2 ^ exponent ≤ (num : ℚ)

theorem scaled_pos (hden : 0 < den) (exponent : ℤ) : 0 < (scaled num den exponent).2 := by
  unfold scaled
  split
  · exact hden
  · exact Nat.mul_pos hden (Nat.two_pow_pos _)

theorem scaled_lt_iff (num den bound : ℕ) (exponent : ℤ) :
    (scaled num den exponent).1 < bound * (scaled num den exponent).2 ↔
      (num : ℚ) < bound * den * 2 ^ exponent := by
  unfold scaled
  split
  · rename_i hneg
    obtain ⟨k, hk⟩ := Int.exists_eq_neg_ofNat hneg.le
    subst hk
    have hpos : (0 : ℚ) < 2 ^ k := by positivity
    have hcast : num * 2 ^ k < bound * den ↔ (num : ℚ) * 2 ^ k < bound * den := by
      exact_mod_cast Iff.rfl
    simp only [neg_neg, Int.toNat_natCast, Nat.pow_eq, zpow_neg, zpow_natCast]
    rw [hcast, ← div_eq_mul_inv, lt_div_iff₀ hpos]
  · rename_i hnonneg
    obtain ⟨k, rfl⟩ := Int.eq_ofNat_of_zero_le (not_lt.mp hnonneg)
    simp only [Int.toNat_natCast, Nat.pow_eq, zpow_natCast]
    rw [← mul_assoc]
    exact_mod_cast Iff.rfl

/-- The logarithms leave a quotient within a factor of four. -/
theorem ratio_bounds_of_log2 (hnum : 0 < num) (hden : 0 < den) :
    (2 : ℚ) ^ 52 * den * 2 ^ ((num.log2 : ℤ) - den.log2 - 53) ≤ num ∧
      (num : ℚ) < 2 ^ 54 * den * 2 ^ ((num.log2 : ℤ) - den.log2 - 53) := by
  have hnumLow : (2 : ℚ) ^ num.log2 ≤ num := by exact_mod_cast Nat.log2_self_le hnum.ne'
  have hnumHigh : (num : ℚ) < 2 ^ (num.log2 + 1) := by exact_mod_cast Nat.lt_log2_self
  have hdenLow : (2 : ℚ) ^ den.log2 ≤ den := by exact_mod_cast Nat.log2_self_le hden.ne'
  have hdenHigh : (den : ℚ) < 2 ^ (den.log2 + 1) := by exact_mod_cast Nat.lt_log2_self
  have hscale : (0 : ℚ) < 2 ^ ((num.log2 : ℤ) - den.log2 - 53) := by positivity
  have hpower : (2 : ℚ) ^ 53 * 2 ^ den.log2 * 2 ^ ((num.log2 : ℤ) - den.log2 - 53)
      = 2 ^ num.log2 := by
    rw [← zpow_natCast, ← zpow_natCast, ← zpow_natCast, ← zpow_add₀ two_ne_zero,
      ← zpow_add₀ two_ne_zero]
    congr 1
    push_cast
    ring
  constructor
  · calc (2 : ℚ) ^ 52 * den * 2 ^ ((num.log2 : ℤ) - den.log2 - 53)
        ≤ 2 ^ 52 * 2 ^ (den.log2 + 1) * 2 ^ ((num.log2 : ℤ) - den.log2 - 53) := by gcongr
      _ = 2 ^ num.log2 := by rw [← hpower]; ring
      _ ≤ num := hnumLow
  · calc (num : ℚ) < 2 ^ (num.log2 + 1) := hnumHigh
      _ = 2 ^ 54 * 2 ^ den.log2 * 2 ^ ((num.log2 : ℤ) - den.log2 - 53) := by
        rw [pow_succ, ← hpower]; ring
      _ ≤ 2 ^ 54 * den * 2 ^ ((num.log2 : ℤ) - den.log2 - 53) := by gcongr

/-- Where an exponent is too small to begin with, the least one is larger still. -/
theorem Fits.clamp {exponent : ℤ} (hbelow : (num : ℚ) < 2 ^ 53 * den * 2 ^ exponent)
    (hfull : 2 ^ 52 * den * 2 ^ exponent ≤ (num : ℚ)) : Fits num den (max exponent (-1074)) where
  least := le_max_right _ _
  below := by
    refine hbelow.trans_le ?_
    gcongr
    · exact one_le_two
    · exact le_max_left _ _
  full := by
    intro hmore
    rw [max_eq_left (by omega)]
    exact hfull

theorem fits_exponentOf (hnum : 0 < num) (hden : 0 < den) : Fits num den (exponentOf num den) := by
  obtain ⟨hlow, hhigh⟩ := ratio_bounds_of_log2 hnum hden
  unfold exponentOf
  dsimp only
  generalize (num.log2 : ℤ) - den.log2 - 53 = guess at hlow hhigh ⊢
  have hsmall := scaled_lt_iff num den (2 ^ 53) guess
  simp only [Nat.pow_eq]
  split
  · rename_i h
    have hbelow := hsmall.mp h
    push_cast at hbelow
    exact .clamp hbelow hlow
  · rename_i h
    have hfull := mt hsmall.mpr h
    push_cast at hfull
    refine .clamp ?_ ?_
    · rw [zpow_add_one₀ two_ne_zero]
      linarith
    · rw [zpow_add_one₀ two_ne_zero]
      linarith

/-! ### The next whole number -/

theorem ceiling?_finite (mantissa : ℕ) (exponent : ℤ) :
    (finite false mantissa exponent).ceiling? = some ⌈(mantissa : ℚ) * 2 ^ exponent⌉ := by
  simp only [ceiling?, Bool.false_eq_true, if_false, Option.some.injEq]
  split
  · rename_i hneg
    obtain ⟨k, hk⟩ := Int.exists_eq_neg_ofNat hneg.le
    subst hk
    have hceil := Rat.ceil_intCast_div_natCast mantissa (2 ^ k)
    push_cast at hceil
    simp only [neg_neg, Int.toNat_natCast, Nat.pow_eq, zpow_neg, zpow_natCast]
    rw [← div_eq_mul_inv, hceil]
    push_cast
    rfl
  · rename_i hnonneg
    obtain ⟨k, rfl⟩ := Int.eq_ofNat_of_zero_le (not_lt.mp hnonneg)
    have hwhole : (mantissa : ℚ) * 2 ^ k = ((mantissa * 2 ^ k : ℤ) : ℚ) := by push_cast; rfl
    simp only [Int.toNat_natCast, Nat.pow_eq, zpow_natCast]
    rw [hwhole, Int.ceil_intCast]
    push_cast
    rfl

/-- The mantissa that a quotient is rounded to, before a full one is taken to the next exponent. -/
def mantissaOf (num den : ℕ) : ℕ :=
  roundQuotient (scaled num den (exponentOf num den)).1 (scaled num den (exponentOf num den)).2

theorem mantissaOf_le (hnum : 0 < num) (hden : 0 < den) : mantissaOf num den ≤ 2 ^ 53 := by
  have hbelow := (fits_exponentOf hnum hden).below
  have hpos : 0 < (scaled num den (exponentOf num den)).2 := scaled_pos hden _
  have hsmall := scaled_lt_iff num den (2 ^ 53) (exponentOf num den)
  push_cast at hsmall
  replace hsmall := hsmall.mpr hbelow
  refine Nat.le_of_not_lt fun hlt => ?_
  rcases (lt_roundQuotient_iff hpos).mp hlt with hmore | ⟨heven, hodd⟩
  · generalize (scaled num den (exponentOf num den)).1 = n at hsmall hmore
    generalize (scaled num den (exponentOf num den)).2 = d at hsmall hmore
    omega
  · exact absurd hodd (by decide)

/-- There is a 64-bit number for a rounded quotient: the exponent does not become too large. -/
def InRange (num den : ℕ) : Prop :=
  exponentOf num den ≤ 970 ∨ exponentOf num den = 971 ∧ mantissaOf num den ≠ 2 ^ 53

/-- A rounded quotient has this number as the next whole one. -/
theorem ceiling?_ofRatio_eq_some_iff {count : ℤ} (hnum : 0 < num) :
    (ofRatio false num den).ceiling? = some count ↔
      InRange num den ∧ ⌈(mantissaOf num den : ℚ) * 2 ^ exponentOf num den⌉ = count := by
  have hne : (num == 0) = false := beq_false_of_ne hnum.ne'
  unfold ofRatio
  rw [hne]
  simp only [Bool.false_eq_true, if_false, Nat.pow_eq, beq_iff_eq]
  rw [← mantissaOf]
  by_cases hfull : mantissaOf num den = 2 ^ 53
  · -- A full mantissa is taken to the next exponent, which leaves the value as it is.
    have hvalue : ((2 ^ 52 : ℕ) : ℚ) * 2 ^ (exponentOf num den + 1)
        = (2 ^ 53 : ℕ) * 2 ^ exponentOf num den := by
      rw [zpow_add_one₀ two_ne_zero]
      push_cast
      ring
    have hrange : InRange num den ↔ ¬ 971 < exponentOf num den + 1 := by
      unfold InRange
      omega
    rw [if_pos hfull, hrange]
    dsimp only
    split
    · rename_i hlarge
      simp [ceiling?, hlarge]
    · rename_i hsmall
      rw [ceiling?_finite, hvalue, hfull, Option.some.injEq, and_iff_right hsmall]
  · have hrange : InRange num den ↔ ¬ 971 < exponentOf num den := by
      unfold InRange
      omega
    rw [if_neg hfull, hrange]
    dsimp only
    split
    · rename_i hlarge
      simp [ceiling?, hlarge]
    · rename_i hsmall
      rw [ceiling?_finite, Option.some.injEq, and_iff_right hsmall]

end MediaSearch.Decimal.Binary64
