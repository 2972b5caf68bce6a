/-
Looking for a text in another finds it exactly when it is there as a piece in a row.
-/
import Mathlib.Data.List.Infix
import MediaSearch.Text.Search

namespace MediaSearch.Text

theorem occursIn_eq_true_iff {needle text : List Char} :
    occursIn needle text = true ↔ needle <:+: text := by
  induction text with
  | nil => rw [occursIn, List.isEmpty_iff, List.infix_nil]
  | cons c rest ih =>
      rw [occursIn, Bool.or_eq_true, List.isPrefixOf_iff_prefix, ih, List.infix_cons_iff]

end MediaSearch.Text
