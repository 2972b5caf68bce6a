/-
Counting pages.

The number of pages is the quotient of the items and the size of a page, rounded to a 64-bit number
and then up.  Rounding up alone would count the pages that have something; rounding the quotient
first can lose the last page, when it has too small a share of a full one to be seen in 53
bits.  What is lost depends on the exponent of the quotient.  A negative one leaves places behind
the point, where the share of the last page must show (`rounds_up_of_neg`).  At zero
the quotient is rounded like any other to a whole number (`rounds_up_of_zero`).  Above that only
multiples of a power of two are left, and the number of pages must be one (`rounds_up_of_pos`).
Which exponent it is follows from the number of full pages, but for one case, in which the last page
is full as well (`Cut.exponent`).
-/
import MediaSearch.Proofs.Decimal.Rounding
import MediaSearch.Proofs.Query.Paging

namespace MediaSearch.Query

open Decimal.Binary64

variable {total perPage full rest : ℕ}

/-! ### The last page -/

/-- So many pages are full, and the rest is on the last one. -/
structure Cut (total perPage full rest : ℕ) : Prop where
  /-- All items are on the pages. -/
  total_eq : total = full * perPage + rest
  /-- There is something on the last page, -/
  pos : 0 < rest
  /-- and no more than it has room for. -/
  le : rest ≤ perPage

theorem exists_cut (htotal : 0 < total) (hper : 0 < perPage) :
    ∃ full rest, Cut total perPage full rest := by
  refine ⟨(total - 1) / perPage, (total - 1) % perPage + 1, ?_, Nat.succ_pos _, ?_⟩
  · have hdiv := Nat.div_add_mod' (total - 1) perPage
    omega
  · exact Nat.mod_lt _ hper

namespace Cut

variable (hcut : Cut total perPage full rest)

include hcut

theorem total_pos : 0 < total := by
  have := hcut.total_eq
  have := hcut.pos
  omega

theorem perPage_pos : 0 < perPage :=
  hcut.pos.trans_le hcut.le

theorem full_lt : full * perPage < total := by
  have := hcut.total_eq
  have := hcut.pos
  omega

theorem total_le : total ≤ (full + 1) * perPage := by
  have := hcut.total_eq
  have := hcut.le
  rw [Nat.add_one_mul]
  omega

theorem ceilDiv_eq : total ⌈/⌉ perPage = full + 1 := by
  refine Nat.le_antisymm ?_ (Nat.succ_le_of_lt ?_)
  · rw [ceilDiv_le_iff_le_mul hcut.perPage_pos, Nat.mul_comm]
    exact hcut.total_le
  · rw [← Nat.not_le, ceilDiv_le_iff_le_mul hcut.perPage_pos, Nat.mul_comm, Nat.not_le]
    exact hcut.full_lt

end Cut

/-! ### Rounding the quotient -/

theorem mantissaOf_of_neg {num den k : ℕ} (hk : 0 < k) (he : exponentOf num den = -(k : ℤ)) :
    mantissaOf num den = roundQuotient (num * 2 ^ k) den := by
  have hneg : -(k : ℤ) < 0 := by omega
  rw [mantissaOf, he, scaled, if_pos hneg, neg_neg, Int.toNat_natCast]
  rfl

theorem mantissaOf_of_nonneg {num den k : ℕ} (he : exponentOf num den = k) :
    mantissaOf num den = roundQuotient num (den * 2 ^ k) := by
  have hnonneg : ¬ (k : ℤ) < 0 := by omega
  rw [mantissaOf, he, scaled, if_neg hnonneg, Int.toNat_natCast]
  rfl

/-- With places behind the point the count is right when the share of the last page, taken twice,
shows in them. -/
theorem rounds_up_of_neg (hcut : Cut total perPage full rest) {k : ℕ} (hk : 0 < k)
    (he : exponentOf total perPage = -(k : ℤ)) :
    ⌈(mantissaOf total perPage : ℚ) * 2 ^ exponentOf total perPage⌉ = (full : ℤ) + 1 ↔
      perPage < rest * 2 ^ (k + 1) := by
  have hpower : (0 : ℚ) < 2 ^ k := by positivity
  have hcast : ((full : ℚ) * 2 ^ k < mantissaOf total perPage ∧
      (mantissaOf total perPage : ℚ) ≤ (full + 1) * 2 ^ k) ↔
      full * 2 ^ k < mantissaOf total perPage ∧
        ¬ (full + 1) * 2 ^ k < mantissaOf total perPage := by
    rw [not_lt]
    exact_mod_cast Iff.rfl
  rw [he, zpow_neg, zpow_natCast, ← div_eq_mul_inv, Int.ceil_eq_iff, div_le_iff₀ hpower]
  push_cast
  rw [add_sub_cancel_right, lt_div_iff₀ hpower, hcast, mantissaOf_of_neg hk he,
    lt_roundQuotient_iff hcut.perPage_pos, lt_roundQuotient_iff hcut.perPage_pos]
  -- The power of two is even, so neither of the two whole numbers is odd.
  obtain ⟨half, hhalf⟩ : ∃ half, 2 ^ k = 2 * half := ⟨2 ^ (k - 1), by
    rw [← Nat.pow_succ', Nat.succ_eq_add_one, Nat.sub_add_cancel hk]⟩
  have hlow : (2 * (full * 2 ^ k) + 1) * perPage = 4 * (full * perPage * half) + perPage := by
    rw [hhalf]; ring
  have hhigh : (2 * ((full + 1) * 2 ^ k) + 1) * perPage
      = 4 * (full * perPage * half) + 4 * (perPage * half) + perPage := by
    rw [hhalf]; ring
  have htotal : 2 * (total * 2 ^ k) = 4 * (full * perPage * half) + 4 * (rest * half) := by
    rw [hcut.total_eq, hhalf]; ring
  have hshare : rest * 2 ^ (k + 1) = 4 * (rest * half) := by
    rw [Nat.pow_succ, hhalf]; ring
  have hevenLow : full * 2 ^ k % 2 = 0 := by rw [hhalf, Nat.mul_left_comm, Nat.mul_mod_right]
  have hevenHigh : (full + 1) * 2 ^ k % 2 = 0 := by
    rw [hhalf, Nat.mul_left_comm, Nat.mul_mod_right]
  have hle : rest * half ≤ perPage * half := Nat.mul_le_mul_right half hcut.le
  have hpos := hcut.perPage_pos
  rw [hlow, hhigh, htotal, hshare, hevenLow, hevenHigh]
  omega

theorem ceil_mantissaOf_of_nonneg (full : ℕ) {k : ℕ} (he : exponentOf total perPage = k) :
    ⌈(mantissaOf total perPage : ℚ) * 2 ^ exponentOf total perPage⌉ = (full : ℤ) + 1 ↔
      mantissaOf total perPage * 2 ^ k = full + 1 := by
  have hwhole : (mantissaOf total perPage : ℚ) * 2 ^ exponentOf total perPage
      = ((mantissaOf total perPage * 2 ^ k : ℤ) : ℚ) := by
    rw [he, zpow_natCast]
    push_cast
    rfl
  rw [hwhole, Int.ceil_intCast]
  exact_mod_cast Iff.rfl

/-- With no such places the quotient is rounded to the nearest whole number, a half to the even
one. -/
theorem rounds_up_of_zero (hcut : Cut total perPage full rest)
    (he : exponentOf total perPage = 0) :
    ⌈(mantissaOf total perPage : ℚ) * 2 ^ exponentOf total perPage⌉ = (full : ℤ) + 1 ↔
      perPage < 2 * rest ∨ perPage = 2 * rest ∧ full % 2 = 1 := by
  have hmantissa : mantissaOf total perPage = roundQuotient total (perPage * 2 ^ 0) :=
    mantissaOf_of_nonneg (by simpa using he)
  have hbounds : mantissaOf total perPage = full + 1 ↔
      full < mantissaOf total perPage ∧ ¬ full + 1 < mantissaOf total perPage := by
    omega
  rw [ceil_mantissaOf_of_nonneg full (k := 0) (by simpa using he), Nat.pow_zero, Nat.mul_one, hbounds,
    hmantissa, Nat.pow_zero, Nat.mul_one, lt_roundQuotient_iff hcut.perPage_pos,
    lt_roundQuotient_iff hcut.perPage_pos]
  have hlow : (2 * full + 1) * perPage = 2 * (full * perPage) + perPage := by ring
  have hhigh : (2 * (full + 1) + 1) * perPage = 2 * (full * perPage) + 3 * perPage := by ring
  have htotal := hcut.total_eq
  have hle := hcut.le
  have hpos := hcut.perPage_pos
  rw [hlow, hhigh]
  omega

/-- Above that the rounded quotient is a multiple of a power of two, and the nearest one is the
count if the count is one. -/
theorem rounds_up_of_pos (hcut : Cut total perPage full rest) {k : ℕ} (hk : 0 < k)
    (he : exponentOf total perPage = k) :
    ⌈(mantissaOf total perPage : ℚ) * 2 ^ exponentOf total perPage⌉ = (full : ℤ) + 1 ↔
      2 ^ k ∣ full + 1 := by
  rw [ceil_mantissaOf_of_nonneg full he]
  constructor
  · intro h
    exact ⟨mantissaOf total perPage, by rw [Nat.mul_comm, h]⟩
  · rintro ⟨count, hcount⟩
    have hsome : 0 < count := Nat.pos_of_ne_zero (by rintro rfl; omega)
    have hden : 0 < perPage * 2 ^ k := Nat.mul_pos hcut.perPage_pos (Nat.two_pow_pos k)
    have htwo : 2 * perPage ≤ perPage * 2 ^ k := by
      rw [Nat.mul_comm]
      exact Nat.mul_le_mul_left perPage (Nat.le_self_pow (by omega) 2)
    have hfull : full * perPage + perPage = count * (perPage * 2 ^ k) := by
      rw [← Nat.add_one_mul, hcount]; ring
    have hlow := hcut.full_lt
    have hhigh := hcut.total_le
    rw [Nat.add_one_mul] at hhigh
    have hmantissa : mantissaOf total perPage = count := by
      have hbounds : count - 1 < mantissaOf total perPage ∧ ¬ count < mantissaOf total perPage := by
        rw [mantissaOf_of_nonneg he, lt_roundQuotient_iff hden, lt_roundQuotient_iff hden]
        have hbefore : (2 * (count - 1) + 1) * (perPage * 2 ^ k) + perPage * 2 ^ k
            = 2 * (count * (perPage * 2 ^ k)) := by
          obtain ⟨before, rfl⟩ := Nat.exists_eq_add_of_lt hsome
          rw [Nat.zero_add, Nat.add_sub_cancel]; ring
        have hbehind : (2 * count + 1) * (perPage * 2 ^ k)
            = 2 * (count * (perPage * 2 ^ k)) + perPage * 2 ^ k := by ring
        omega
      omega
    rw [hmantissa, hcount, Nat.mul_comm]

/-! ### The exponent of the quotient -/

/-- The exponent is that of the number of full pages, unless the last page is full too and makes
their number a power of two. -/
theorem Cut.exponent (hcut : Cut total perPage full rest) (hfull : 0 < full) :
    exponentOf total perPage = (full.log2 : ℤ) - 52 ∨
      exponentOf total perPage = (full.log2 : ℤ) - 51 ∧ full + 1 = 2 ^ (full.log2 + 1) ∧
        rest = perPage := by
  have hfits := fits_exponentOf hcut.total_pos hcut.perPage_pos
  have hper : (0 : ℚ) < perPage := by exact_mod_cast hcut.perPage_pos
  have hlow : (2 : ℚ) ^ (full.log2 : ℤ) * perPage < 2 ^ (53 + exponentOf total perPage) * perPage :=
    calc (2 : ℚ) ^ (full.log2 : ℤ) * perPage ≤ full * perPage := by
          rw [zpow_natCast]
          gcongr
          exact_mod_cast Nat.log2_self_le hfull.ne'
      _ < total := by exact_mod_cast hcut.full_lt
      _ < 2 ^ 53 * perPage * 2 ^ exponentOf total perPage := hfits.below
      _ = 2 ^ (53 + exponentOf total perPage) * perPage := by
          rw [zpow_add₀ two_ne_zero]
          norm_num
          ring
  have hless : (full.log2 : ℤ) < 53 + exponentOf total perPage :=
    (zpow_lt_zpow_iff_right₀ one_lt_two).mp (lt_of_mul_lt_mul_right hlow hper.le)
  have htotal : (2 : ℚ) ^ (52 + exponentOf total perPage) * perPage ≤ total := by
    have hlarge := hfits.full (by omega)
    rw [zpow_add₀ two_ne_zero]
    norm_num at hlarge ⊢
    linarith
  have hhigh : (2 : ℚ) ^ (52 + exponentOf total perPage) * perPage
      ≤ 2 ^ ((full.log2 + 1 : ℕ) : ℤ) * perPage :=
    calc (2 : ℚ) ^ (52 + exponentOf total perPage) * perPage ≤ total := htotal
      _ ≤ (full + 1) * perPage := by exact_mod_cast hcut.total_le
      _ ≤ 2 ^ ((full.log2 + 1 : ℕ) : ℤ) * perPage := by
          rw [zpow_natCast]
          gcongr
          exact_mod_cast Nat.succ_le_of_lt Nat.lt_log2_self
  have hmore : 52 + exponentOf total perPage ≤ (full.log2 + 1 : ℕ) :=
    (zpow_le_zpow_iff_right₀ one_lt_two).mp (le_of_mul_le_mul_right hhigh hper)
  rcases (by omega : exponentOf total perPage = (full.log2 : ℤ) - 52 ∨
    52 + exponentOf total perPage = (full.log2 + 1 : ℕ)) with h | h
  · exact .inl h
  · rw [h, zpow_natCast] at htotal
    have hpages : 2 ^ (full.log2 + 1) * perPage ≤ total := by exact_mod_cast htotal
    have hle := Nat.le_of_mul_le_mul_right (hpages.trans hcut.total_le) hcut.perPage_pos
    have hlt : full < 2 ^ (full.log2 + 1) := Nat.lt_log2_self
    have hpower : full + 1 = 2 ^ (full.log2 + 1) := by omega
    refine .inr ⟨by omega, hpower, ?_⟩
    have hle := hcut.le
    rw [← hpower, hcut.total_eq, Nat.add_one_mul] at hpages
    omega

/-! ### When the last page is counted -/

/-- The last page is not lost in rounding. -/
inductive LastPageCounts (perPage full rest : ℕ) : Prop
  /-- It is the only page, and the quotient does not vanish; -/
  | only (first : full = 0) (shows : perPage < rest * 2 ^ 1075)
  /-- its share of a full page is more than half the way from the number of full pages to the next
  64-bit number, -/
  | share (later : 0 < full) (few : full < 2 ^ 53)
      (shows : perPage * 2 ^ full.log2 < rest * 2 ^ 53)
  /-- or is just half of it, where that is rounded up; -/
  | half (odd : full % 2 = 1) (many : 2 ^ 52 ≤ full) (few : full < 2 ^ 53)
      (shows : perPage = 2 * rest)
  /-- or there are so many pages that not every whole number is a 64-bit number any more, and theirs
  is one. -/
  | whole {mantissa exponent : ℕ} (many : 2 ^ 53 ≤ full)
      (number : full + 1 = mantissa * 2 ^ exponent) (short : mantissa < 2 ^ 53)
      (inRange : exponent ≤ 971)

/-- The one page of a list is counted unless the quotient vanishes. -/
theorem only_page_counts_iff (hcut : Cut total perPage 0 rest) :
    InRange total perPage ∧
        ⌈(mantissaOf total perPage : ℚ) * 2 ^ exponentOf total perPage⌉ = ((0 : ℕ) : ℤ) + 1 ↔
      perPage < rest * 2 ^ 1075 := by
  have hfits := fits_exponentOf hcut.total_pos hcut.perPage_pos
  have hper : (0 : ℚ) < perPage := by exact_mod_cast hcut.perPage_pos
  have htotal : total = rest := by rw [hcut.total_eq, Nat.zero_mul, Nat.zero_add]
  have hless : exponentOf total perPage < 0 := by
    by_contra hnonneg
    have hlarge := hfits.full (by omega)
    have hone : (1 : ℚ) ≤ 2 ^ exponentOf total perPage := one_le_zpow₀ one_le_two (by omega)
    have hle : (total : ℚ) ≤ perPage := by rw [htotal]; exact_mod_cast hcut.le
    nlinarith
  obtain ⟨k, hk⟩ := Int.exists_eq_neg_ofNat hless.le
  have hleast := hfits.least
  have hrange : InRange total perPage := .inl (by omega)
  rw [and_iff_right hrange, rounds_up_of_neg hcut (by omega) hk]
  rcases (by omega : k = 1074 ∨ k < 1074) with rfl | hmore
  · simp only [Nat.reduceAdd]
  · -- The exponent is not the least one, so the quotient is far from vanishing.
    have hlarge := hfits.full (by omega)
    have hpower : (0 : ℚ) < 2 ^ k := by positivity
    rw [hk, zpow_neg, zpow_natCast, ← div_eq_mul_inv, div_le_iff₀ hpower, htotal] at hlarge
    have hshows : perPage < rest * 2 ^ (k + 1) := by
      have hmul : 2 ^ 52 * perPage ≤ rest * 2 ^ k := by exact_mod_cast hlarge
      have hpos := hcut.perPage_pos
      rw [Nat.pow_succ, ← Nat.mul_assoc]
      omega
    have hvisible : rest * 2 ^ (k + 1) ≤ rest * 2 ^ 1075 := by
      gcongr
      · exact one_le_two
      · omega
    exact iff_of_true hshows (hshows.trans_le hvisible)

/-- A full last page is counted where it makes the number of pages a power of two. -/
theorem rounds_up_of_power (hcut : Cut total perPage full perPage) {k : ℕ}
    (hpower : full + 1 = 2 ^ (k + 1)) (he : exponentOf total perPage = (k : ℤ) - 51) :
    ⌈(mantissaOf total perPage : ℚ) * 2 ^ exponentOf total perPage⌉ = (full : ℤ) + 1 := by
  have hpos := hcut.perPage_pos
  rcases lt_trichotomy (exponentOf total perPage) 0 with hneg | hzero | hgt
  · obtain ⟨places, hplaces⟩ := Int.exists_eq_neg_ofNat hneg.le
    refine (rounds_up_of_neg hcut (by omega) hplaces).mpr ?_
    exact lt_mul_of_one_lt_right hpos (Nat.one_lt_two_pow (by omega))
  · exact (rounds_up_of_zero hcut hzero).mpr (.inl (by omega))
  · obtain ⟨more, hmore⟩ := Int.eq_ofNat_of_zero_le hgt.le
    refine (rounds_up_of_pos hcut (by omega) hmore).mpr ?_
    rw [hpower]
    exact Nat.pow_dvd_pow 2 (by omega)

/-- Up to `2 ^ 53` pages the last one is counted when its share shows. -/
theorem last_page_counts_iff_of_few (hcut : Cut total perPage full rest) (hfull : 0 < full)
    (hfew : full < 2 ^ 53) :
    InRange total perPage ∧
        ⌈(mantissaOf total perPage : ℚ) * 2 ^ exponentOf total perPage⌉ = (full : ℤ) + 1 ↔
      perPage * 2 ^ full.log2 < rest * 2 ^ 53 ∨
        full % 2 = 1 ∧ 2 ^ 52 ≤ full ∧ perPage = 2 * rest := by
  have hlog : full.log2 < 53 := (Nat.log2_lt hfull.ne').mpr hfew
  have hexponent := hcut.exponent hfull
  have hrange : InRange total perPage := .inl (by omega)
  rw [and_iff_right hrange]
  rcases hexponent with he | ⟨he, hpower, rfl⟩
  · by_cases hlarge : full.log2 = 52
    · have hmany : 2 ^ 52 ≤ full := hlarge ▸ Nat.log2_self_le hfull.ne'
      rw [rounds_up_of_zero hcut (by omega), hlarge]
      omega
    · have hsmall : ¬ 2 ^ 52 ≤ full := by
        rw [not_le]
        exact (Nat.log2_lt hfull.ne').mp (by omega)
      have hsplit : 2 ^ 53 = 2 ^ (52 - full.log2 + 1) * 2 ^ full.log2 := by
        rw [← Nat.pow_add]
        congr 1
        omega
      rw [rounds_up_of_neg hcut (k := 52 - full.log2) (by omega) (by omega), hsplit,
        ← Nat.mul_assoc, Nat.mul_lt_mul_right (Nat.two_pow_pos _)]
      exact (or_iff_left fun h => hsmall h.2.1).symm
  · refine iff_of_true (rounds_up_of_power hcut hpower he) (.inl ?_)
    exact Nat.mul_lt_mul_of_pos_left (Nat.pow_lt_pow_right Nat.one_lt_two hlog) hcut.perPage_pos

/-- With more pages their number must be a 64-bit number. -/
theorem last_page_counts_iff_of_many (hcut : Cut total perPage full rest) (hmany : 2 ^ 53 ≤ full) :
    InRange total perPage ∧
        ⌈(mantissaOf total perPage : ℚ) * 2 ^ exponentOf total perPage⌉ = (full : ℤ) + 1 ↔
      ∃ mantissa exponent : ℕ,
        full + 1 = mantissa * 2 ^ exponent ∧ mantissa < 2 ^ 53 ∧ exponent ≤ 971 := by
  have hfull : 0 < full := by omega
  have hlog : 53 ≤ full.log2 := (Nat.le_log2 hfull.ne').mpr hmany
  have hexponent := hcut.exponent hfull
  obtain ⟨k, hk⟩ := Int.eq_ofNat_of_zero_le (by omega : 0 ≤ exponentOf total perPage)
  have hle := mantissaOf_le hcut.total_pos hcut.perPage_pos
  have hvalue := ceil_mantissaOf_of_nonneg full hk
  constructor
  · rintro ⟨hrange, hceil⟩
    have hnumber := hvalue.mp hceil
    by_cases hcarry : mantissaOf total perPage = 2 ^ 53
    · refine ⟨2 ^ 52, k + 1, ?_, by omega, ?_⟩
      · rw [← hnumber, hcarry, Nat.pow_succ' (n := k)]
        ring
      · rcases hrange with hrange | ⟨-, hrange⟩
        · omega
        · exact absurd hcarry hrange
    · refine ⟨mantissaOf total perPage, k, hnumber.symm, by omega, ?_⟩
      rcases hrange with hrange | ⟨hrange, -⟩ <;> omega
  · rintro ⟨mantissa, exponent, hnumber, hshort, hin⟩
    have hlarge : 2 ^ (52 + k) ≤ full + 1 := by
      rcases hexponent with he | ⟨he, hpower, -⟩
      · rw [show 52 + k = full.log2 by omega]
        exact (Nat.log2_self_le hfull.ne').trans (Nat.le_succ full)
      · rw [hpower, show 52 + k = full.log2 + 1 by omega]
    have hbound : 2 ^ (52 + k) < 2 ^ (53 + exponent) := by
      calc 2 ^ (52 + k) ≤ mantissa * 2 ^ exponent := hnumber ▸ hlarge
        _ < 2 ^ 53 * 2 ^ exponent := Nat.mul_lt_mul_of_pos_right hshort (Nat.two_pow_pos _)
        _ = 2 ^ (53 + exponent) := (Nat.pow_add 2 53 exponent).symm
    have hless : k ≤ exponent := by
      have := (Nat.pow_lt_pow_iff_right Nat.one_lt_two).mp hbound
      omega
    have hceil : ⌈(mantissaOf total perPage : ℚ) * 2 ^ exponentOf total perPage⌉
        = (full : ℤ) + 1 := by
      refine (rounds_up_of_pos hcut (by omega) hk).mpr ?_
      rw [hnumber]
      exact (Nat.pow_dvd_pow 2 hless).mul_left mantissa
    refine ⟨?_, hceil⟩
    by_cases hlast : k = 971
    · have hsame : exponent = k := by omega
      have hmantissa := hvalue.mp hceil
      rw [hnumber, hsame] at hmantissa
      have heq := Nat.eq_of_mul_eq_mul_right (Nat.two_pow_pos k) hmantissa
      exact .inr ⟨by omega, by omega⟩
    · exact .inl (by omega)

theorem last_page_counts_iff (hcut : Cut total perPage full rest) :
    InRange total perPage ∧
        ⌈(mantissaOf total perPage : ℚ) * 2 ^ exponentOf total perPage⌉ = (full : ℤ) + 1 ↔
      LastPageCounts perPage full rest := by
  rcases Nat.eq_zero_or_pos full with rfl | hfull
  · rw [only_page_counts_iff hcut]
    constructor
    · exact .only rfl
    · rintro (⟨-, hshows⟩ | ⟨hlater, -, -⟩ | ⟨-, hmany, -, -⟩ | ⟨hmany, -, -, -⟩)
      · exact hshows
      all_goals omega
  rcases Nat.lt_or_ge full (2 ^ 53) with hfew | hmany
  · rw [last_page_counts_iff_of_few hcut hfull hfew]
    constructor
    · rintro (hshows | ⟨hodd, hmany, hshows⟩)
      · exact .share hfull hfew hshows
      · exact .half hodd hmany hfew hshows
    · rintro (⟨hfirst, -⟩ | ⟨-, -, hshows⟩ | ⟨hodd, hmany, -, hshows⟩ | ⟨hmany, -, -, -⟩)
      · omega
      · exact .inl hshows
      · exact .inr ⟨hodd, hmany, hshows⟩
      · omega
  · rw [last_page_counts_iff_of_many hcut hmany]
    constructor
    · rintro ⟨mantissa, exponent, hnumber, hshort, hin⟩
      exact .whole hmany hnumber hshort hin
    · rintro (⟨hfirst, -⟩ | ⟨-, hfew, -⟩ | ⟨-, -, hfew, -⟩ | ⟨-, hnumber, hshort, hin⟩)
      · omega
      · omega
      · omega
      · exact ⟨_, _, hnumber, hshort, hin⟩

/-! ### The count -/

theorem pageCount_eq_ok_iff (hper : 0 < perPage) {count : ℤ} :
    pageCount total perPage = .ok count ↔ (ofRatio false total perPage).ceiling? = some count := by
  have hne : ((perPage : ℤ) == 0) = false := beq_false_of_ne (by omega)
  have htotal : decide ((total : ℤ) < 0) = false := by simp
  have hsize : decide ((perPage : ℤ) < 0) = false := by simp
  rw [pageCount, hne, htotal, hsize]
  simp only [Bool.false_eq_true, if_false, bne_self_eq_false, Int.natAbs_natCast]
  cases (ofRatio false total perPage).ceiling? <;> simp

theorem pageCount_eq_ceilDiv_iff_of_cut (hcut : Cut total perPage full rest) :
    pageCount total perPage = .ok ((total ⌈/⌉ perPage : ℕ) : ℤ) ↔
      LastPageCounts perPage full rest := by
  rw [pageCount_eq_ok_iff hcut.perPage_pos, ceiling?_ofRatio_eq_some_iff hcut.total_pos,
    hcut.ceilDiv_eq, ← last_page_counts_iff hcut]
  push_cast
  rfl

theorem pageCount_zero (hper : 0 < perPage) : pageCount ((0 : ℕ) : ℤ) perPage = .ok 0 := by
  rw [pageCount_eq_ok_iff hper]
  show (finite false 0 (-1074)).ceiling? = some 0
  rw [ceiling?_finite, Nat.cast_zero, zero_mul, Int.ceil_zero]

/-- Rounding the quotient leaves the number of pages as it is: there is none, or the last one is not
lost. -/
def CountKept (total perPage : ℕ) : Prop :=
  total = 0 ∨ ∃ full rest, Cut total perPage full rest ∧ LastPageCounts perPage full rest

/-- The number of pages is the quotient, rounded up, exactly if rounding keeps it. -/
theorem pageCount_eq_ceilDiv_iff (hper : 0 < perPage) :
    pageCount total perPage = .ok ((total ⌈/⌉ perPage : ℕ) : ℤ) ↔ CountKept total perPage := by
  rcases Nat.eq_zero_or_pos total with rfl | htotal
  · rw [zero_ceilDiv]
    exact iff_of_true (pageCount_zero hper) (.inl rfl)
  · constructor
    · intro h
      obtain ⟨full, rest, hcut⟩ := exists_cut htotal hper
      exact .inr ⟨full, rest, hcut, (pageCount_eq_ceilDiv_iff_of_cut hcut).mp h⟩
    · rintro (hnone | ⟨full, rest, hcut, hcounts⟩)
      · omega
      · exact (pageCount_eq_ceilDiv_iff_of_cut hcut).mpr hcounts

/-- Of at most `2 ^ 53` items the last page is lost only if the quotient vanishes. -/
theorem lastPageCounts_iff_of_le (hcut : Cut total perPage full rest) (hfew : total ≤ 2 ^ 53) :
    LastPageCounts perPage full rest ↔ perPage < total * 2 ^ 1075 := by
  have hpos := hcut.pos
  rcases Nat.eq_zero_or_pos full with rfl | hfull
  · have htotal : total = rest := by rw [hcut.total_eq, Nat.zero_mul, Nat.zero_add]
    rw [htotal]
    constructor
    · rintro (⟨-, hshows⟩ | ⟨hlater, -, -⟩ | ⟨-, hmany, -, -⟩ | ⟨hmany, -, -, -⟩)
      · exact hshows
      all_goals omega
    · exact .only rfl
  · have hshown : perPage * 2 ^ full.log2 < rest * 2 ^ 53 :=
      calc perPage * 2 ^ full.log2 ≤ perPage * full :=
            Nat.mul_le_mul_left perPage (Nat.log2_self_le hfull.ne')
        _ = full * perPage := Nat.mul_comm perPage full
        _ < total := hcut.full_lt
        _ ≤ 1 * 2 ^ 53 := by omega
        _ ≤ rest * 2 ^ 53 := Nat.mul_le_mul_right (2 ^ 53) hpos
    have hless : full < 2 ^ 53 :=
      ((Nat.le_mul_of_pos_right full hcut.perPage_pos).trans_lt hcut.full_lt).trans_le hfew
    have hvisible : perPage < total * 2 ^ 1075 :=
      calc perPage ≤ full * perPage := Nat.le_mul_of_pos_left perPage hfull
        _ < total := hcut.full_lt
        _ ≤ total * 2 ^ 1075 := Nat.le_mul_of_pos_right total (by positivity)
    exact iff_of_true (.share hfull hless hshown) hvisible

theorem countKept_iff_of_le (hper : 0 < perPage) (hfew : total ≤ 2 ^ 53) :
    CountKept total perPage ↔ total = 0 ∨ perPage < total * 2 ^ 1075 := by
  constructor
  · rintro (hnone | ⟨full, rest, hcut, hcounts⟩)
    · exact .inl hnone
    · exact .inr ((lastPageCounts_iff_of_le hcut hfew).mp hcounts)
  · rintro (hnone | hvisible)
    · exact .inl hnone
    · rcases Nat.eq_zero_or_pos total with hnone | htotal
      · exact .inl hnone
      · obtain ⟨full, rest, hcut⟩ := exists_cut htotal hper
        exact .inr ⟨full, rest, hcut, (lastPageCounts_iff_of_le hcut hfew).mpr hvisible⟩

/-! ### Counting the pages of a list -/

/-- A number counts the pages of a list: it is what each of them says, and exactly the pages up
to it have something. -/
def Counts {α : Type} (items : List α) (perPage : ℕ) (count : ℤ) : Prop :=
  ∀ page : ℕ, 1 ≤ page → ∃ p, paginate items page perPage = .ok p ∧ p.pageCount = .ok count ∧
    (p.items ≠ [] ↔ (page : ℤ) ≤ count)

theorem counts_iff {α : Type} {items : List α} {count : ℤ} (hper : 1 ≤ perPage) :
    Counts items perPage count ↔ pageCount items.length perPage = .ok count ∧
      count = ((items.length ⌈/⌉ perPage : ℕ) : ℤ) := by
  have hpages : Counts items perPage count ↔ ∀ page : ℕ, 1 ≤ page →
      pageCount items.length perPage = .ok count ∧
        (page ≤ items.length ⌈/⌉ perPage ↔ (page : ℤ) ≤ count) := by
    refine forall₂_congr fun page hpage => ?_
    rw [paginate_eq_pageOf items hpage hper]
    simp only [Except.ok.injEq, exists_eq_left', ne_eq, pageOf_eq_nil_iff hper hpage, not_lt]
    rfl
  rw [hpages]
  constructor
  · intro h
    obtain ⟨hcount, -⟩ := h 1 le_rfl
    refine ⟨hcount, ?_⟩
    have hbehind := (h (items.length ⌈/⌉ perPage + 1) (Nat.succ_pos _)).2
    rcases Nat.eq_zero_or_pos (items.length ⌈/⌉ perPage) with hnone | hsome
    · have hempty : items.length = 0 := by
        have hle := (ceilDiv_le_iff_le_mul hper).mp hnone.le
        omega
      rw [hempty, pageCount_zero hper] at hcount
      rw [hnone, ← Except.ok.inj hcount]
      rfl
    · have hlast := (h (items.length ⌈/⌉ perPage) hsome).2
      omega
  · rintro ⟨hcount, rfl⟩ page -
    exact ⟨hcount, by omega⟩

/--
**The pages are counted right, unless rounding the quotient loses the last one.**  Pages have
something exactly up to the quotient of the items and the size of a page, rounded up.  The number of
pages is that quotient if rounding it to 64 bits first does not lose the last page; if it does, the
pages do not say how many of them have something.  Of a list with at most `2 ^ 53` items the last
page is lost only when all of them take up no more than one part in `2 ^ 1075` of a page.
-/
theorem pages_counted_iff {α : Type} (hper : 1 ≤ perPage) :
    (∀ items : List α,
      (∀ page : ℕ, 1 ≤ page → ∃ p, paginate items page perPage = .ok p ∧
        (p.items ≠ [] ↔ page ≤ items.length ⌈/⌉ perPage)) ∧
      ((∃ count, Counts items perPage count) ↔ CountKept items.length perPage)) ∧
    (∀ total : ℕ, pageCount total perPage = .ok ((total ⌈/⌉ perPage : ℕ) : ℤ) ↔
      CountKept total perPage) ∧
    ∀ total ≤ 2 ^ 53, CountKept total perPage ↔ total = 0 ∨ perPage < total * 2 ^ 1075 := by
  refine ⟨fun items => ⟨fun page hpage => ?_, ?_⟩, fun total => pageCount_eq_ceilDiv_iff hper,
    fun total hfew => countKept_iff_of_le hper hfew⟩
  · refine ⟨_, paginate_eq_pageOf items hpage hper, ?_⟩
    rw [ne_eq, pageOf_eq_nil_iff hper hpage, not_lt]
  · rw [← pageCount_eq_ceilDiv_iff hper]
    constructor
    · rintro ⟨count, hcounts⟩
      obtain ⟨hcount, rfl⟩ := (counts_iff hper).mp hcounts
      exact hcount
    · exact fun hcount => ⟨_, (counts_iff hper).mpr ⟨hcount, rfl⟩⟩

/-- Pages of two, the last one with one item: it is counted behind one full page, and also behind
`2 ^ 52 + 1` of them, because their number is odd and the half is rounded up. -/
theorem pages_counted_behind_odd :
    1 ≤ 2 ∧ (∃ count, Counts ["lake", "hill", "wood"] 2 count) ∧
      pageCount (2 ^ 53 + 3 : ℕ) (2 : ℕ) = .ok ((2 ^ 52 + 2 : ℕ) : ℤ) := by
  obtain ⟨hlists, hnumbers, hfew⟩ := @pages_counted_iff 2 String one_le_two
  have hcut : Cut (2 ^ 53 + 3) 2 (2 ^ 52 + 1) 1 := ⟨by norm_num, by norm_num, by norm_num⟩
  have hkept : CountKept (2 ^ 53 + 3) 2 :=
    .inr ⟨_, _, hcut, .half (by norm_num) (by norm_num) (by norm_num) (by norm_num)⟩
  refine ⟨one_le_two, (hlists _).2.mpr ((hfew 3 (by norm_num)).mpr (.inr (by decide +kernel))), ?_⟩
  rw [← hcut.ceilDiv_eq]
  exact (hnumbers _).mpr hkept

/-- Room for more items than a 64-bit number can tell from an infinity. -/
def vastPage : ℕ := 10 ^ 400

/-- One item on such a page is on no page, by the count. -/
theorem not_always_counted :
    ¬ ∀ (items : List String) (perPage : ℕ), 1 ≤ perPage → ∃ count, Counts items perPage count := by
  intro h
  have hper : 1 ≤ vastPage := by decide +kernel
  obtain ⟨count, hcounts⟩ := h ["lake"] vastPage hper
  obtain ⟨hcount, hceil⟩ := (counts_iff hper).mp hcounts
  have hcut : Cut 1 vastPage 0 1 := ⟨by rw [Nat.zero_mul], Nat.one_pos, hper⟩
  have hnone : pageCount ((1 : ℕ) : ℤ) vastPage = .ok 0 := by decide +kernel
  have hzero : count = 0 := (Except.ok.inj (hnone.symm.trans hcount)).symm
  rw [List.length_singleton, hcut.ceilDiv_eq, hzero] at hceil
  exact absurd hceil (by decide)

end MediaSearch.Query
