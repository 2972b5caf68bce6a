/-
Numbers in decimal digits.

The value of digits one behind the other is that of the front ones, moved up by the number of the
others, and these add up to less than the place they are moved to (`digitsValue_append`,
`digitsValue_lt`).  So zeros in front change nothing: a number that is written in a fixed width is
a run of that many digits and is read back as itself (`isRun_padded`, `digitsValue_padded`).
-/
import MediaSearch.Proofs.Text.Readers

namespace MediaSearch.Text

variable {digits : List Char}

theorem digitsValue_eq_ofDigitChars (digits : List Char) :
    digitsValue digits = Nat.ofDigitChars 10 digits 0 :=
  Nat.ofDigitChars_eq_foldl.symm

theorem digitsValue_append (digits more : List Char) :
    digitsValue (digits ++ more)
      = digitsValue digits * Nat.pow 10 more.length + digitsValue more := by
  simp only [digitsValue_eq_ofDigitChars, Nat.pow_eq]
  rw [Nat.ofDigitChars_append, Nat.ofDigitChars_eq_ofDigitChars_zero, Nat.mul_comm]

/-- The digits of a natural number give the number back. -/
theorem digitsValue_toDigits (n : Nat) : digitsValue (Nat.toDigits 10 n) = n :=
  Nat.ofDigitChars_ten_toDigits

theorem digitsValue_replicate_zero (count : Nat) : digitsValue (List.replicate count '0') = 0 := by
  rw [digitsValue_eq_ofDigitChars, Nat.ofDigitChars_replicate_zero, Nat.mul_zero]

/-- So many digits make less than the power of ten with as many zeros. -/
theorem digitsValue_lt (h : ∀ c ∈ digits, c.isDigit = true) :
    digitsValue digits < Nat.pow 10 digits.length := by
  induction digits with
  | nil => exact Nat.one_pos
  | cons c rest ih =>
      obtain ⟨hc, hrest⟩ := List.forall_mem_cons.mp h
      have hrest := ih hrest
      have hdigit : digitsValue [c] ≤ 9 := by
        have hbounds : 48 ≤ c.toNat ∧ c.toNat ≤ 57 := Char.isDigit_iff_toNat.mp hc
        show 10 * 0 + (c.toNat - 48) ≤ 9
        omega
      have hmoved : digitsValue [c] * Nat.pow 10 rest.length ≤ 9 * Nat.pow 10 rest.length :=
        Nat.mul_le_mul_right _ hdigit
      rw [← List.singleton_append, digitsValue_append]
      show _ < Nat.pow 10 rest.length * 10
      omega

/-! ### Numbers in a fixed width -/

theorem toList_padded (width n : Nat) :
    (padded width n).toList
      = List.replicate (width - (Nat.toDigits 10 n).length) '0' ++ Nat.toDigits 10 n := by
  have hdigits : (toString n).toList = Nat.toDigits 10 n := by
    rw [Nat.toString_eq_repr, Nat.toList_repr]
  rw [padded, String.toList_append, String.toList_ofList, hdigits, ← String.length_toList, hdigits]

theorem digitsValue_padded (width n : Nat) : digitsValue (padded width n).toList = n := by
  rw [toList_padded, digitsValue_append, digitsValue_replicate_zero, Nat.zero_mul, Nat.zero_add,
    digitsValue_toDigits]

/-- A number that fits is written in exactly the width. -/
theorem isRun_padded {width n : Nat} (hwidth : 0 < width) (h : n < Nat.pow 10 width) :
    IsRun width width (padded width n).toList := by
  have hfits : (Nat.toDigits 10 n).length ≤ width :=
    (Nat.length_toDigits_le_iff (by decide) hwidth).mpr h
  have hlength : (padded width n).toList.length = width := by
    rw [toList_padded, List.length_append, List.length_replicate]
    omega
  refine ⟨fun c hc => ?_, hlength.ge, hlength.le⟩
  rw [toList_padded] at hc
  rcases List.mem_append.mp hc with hc | hc
  · rw [List.eq_of_mem_replicate hc]
    rfl
  · exact Nat.isDigit_of_mem_toDigits (by decide) (by decide) hc

end MediaSearch.Text
