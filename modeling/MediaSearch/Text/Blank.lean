/-
What counts as a blank.

Two classes are in use.  `isBlank` is the wide one: it separates words in a query,
and `strip` drops it from both ends of a text.  `isPlainBlank` is the six ASCII
blanks, for the formats that are defined over ASCII alone.
-/

namespace MediaSearch.Text

/-- Whether a character is a blank: the ASCII blanks, the four ASCII separators, the next-line
and no-break characters, and the Unicode space, line and paragraph separators. -/
def isBlank (c : Char) : Bool :=
  let n := c.toNat
  (9 ≤ n && n ≤ 13) || (28 ≤ n && n ≤ 32) || n == 0x85 || n == 0xA0 || n == 0x1680
    || (0x2000 ≤ n && n ≤ 0x200A) || n == 0x2028 || n == 0x2029 || n == 0x202F || n == 0x205F
    || n == 0x3000

/-- Whether a character is one of the six ASCII blanks. -/
def isPlainBlank (c : Char) : Bool :=
  let n := c.toNat
  (9 ≤ n && n ≤ 13) || n == 32

/-- A text without the blanks at its two ends. -/
def strip (text : List Char) : List Char :=
  ((text.dropWhile isBlank).reverse.dropWhile isBlank).reverse

/-- `strip` on a string. -/
def stripped (text : String) : String :=
  String.ofList (strip text.toList)

/-- An ASCII blank is a blank of the wide class too. -/
theorem isBlank_of_isPlainBlank {c : Char} (h : isPlainBlank c = true) : isBlank c = true := by
  simp only [isPlainBlank, isBlank, Bool.or_eq_true, Bool.and_eq_true, decide_eq_true_eq,
    beq_iff_eq] at h ⊢
  omega

end MediaSearch.Text
