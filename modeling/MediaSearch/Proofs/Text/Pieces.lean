/-
Pieces that have been joined are found again.

A piece without the mark in it ends where the next mark is, so joining such pieces and cutting
at the marks gives them back (`pieces_joined`).  With the mark in one of them it would not: it
would come back as several.
-/
import Mathlib.Data.List.Basic
import MediaSearch.Text.Pieces

namespace MediaSearch.Text

variable {mark : Char}

theorem pieces_mark (rest : List Char) : pieces mark (mark :: rest) = [] :: pieces mark rest := by
  rw [pieces, if_pos (beq_self_eq_true mark)]

theorem pieces_cons_of_ne {c : Char} {rest piece : List Char} {others : List (List Char)}
    (hc : c ≠ mark) (hrest : pieces mark rest = piece :: others) :
    pieces mark (c :: rest) = (c :: piece) :: others := by
  rw [pieces, if_neg (by simpa using hc), hrest]

/-- A text in front of some piece belongs to it. -/
theorem pieces_append {text rest piece : List Char} {others : List (List Char)}
    (hrest : pieces mark rest = piece :: others) (htext : mark ∉ text) :
    pieces mark (text ++ rest) = (text ++ piece) :: others := by
  induction text with
  | nil => exact hrest
  | cons c text ih =>
      have hc : c ≠ mark := fun h => htext (h ▸ List.mem_cons_self)
      exact pieces_cons_of_ne hc (ih fun h => htext (List.mem_cons_of_mem _ h))

theorem pieces_of_not_mem {text : List Char} (h : mark ∉ text) : pieces mark text = [text] := by
  have hlast : pieces mark (text ++ []) = [text ++ []] := pieces_append rfl h
  rwa [List.append_nil] at hlast

theorem joined_cons {piece : List Char} {others : List (List Char)} (h : others ≠ []) :
    joined mark (piece :: others) = piece ++ mark :: joined mark others := by
  cases others with
  | nil => exact absurd rfl h
  | cons next others => rfl

/-- **Cutting undoes joining.** -/
theorem pieces_joined {texts : List (List Char)} (hne : texts ≠ [])
    (hclean : ∀ text ∈ texts, mark ∉ text) : pieces mark (joined mark texts) = texts := by
  induction texts with
  | nil => exact absurd rfl hne
  | cons text texts ih =>
      have htext : mark ∉ text := hclean text List.mem_cons_self
      by_cases hothers : texts = []
      · subst hothers
        exact pieces_of_not_mem htext
      · have hagain : pieces mark (mark :: joined mark texts) = [] :: texts := by
          rw [pieces_mark, ih hothers fun text h => hclean text (List.mem_cons_of_mem _ h)]
        rw [joined_cons hothers, pieces_append hagain htext, List.append_nil]

/-- There is always a piece. -/
theorem pieces_ne_nil (mark : Char) (text : List Char) : pieces mark text ≠ [] := by
  cases text with
  | nil => simp [pieces]
  | cons c rest =>
      unfold pieces
      split
      · simp
      · split <;> simp

/-- No piece has the mark in it, and every character of a piece is in the text. -/
theorem of_mem_pieces {text piece : List Char} {c : Char} (h : piece ∈ pieces mark text)
    (hc : c ∈ piece) : c ≠ mark ∧ c ∈ text := by
  induction text generalizing piece with
  | nil =>
      rw [pieces, List.mem_singleton] at h
      subst h
      cases hc
  | cons d rest ih =>
      obtain ⟨first, others, hrest⟩ := List.exists_cons_of_ne_nil (pieces_ne_nil mark rest)
      have hlater : ∀ {p : List Char}, p ∈ pieces mark rest → c ∈ p → c ≠ mark ∧ c ∈ d :: rest :=
        fun hp hcp => (ih hp hcp).imp_right (List.mem_cons_of_mem _)
      by_cases hd : d = mark
      · subst hd
        rw [pieces_mark] at h
        rcases List.mem_cons.mp h with rfl | h
        · cases hc
        · exact hlater h hc
      · rw [pieces_cons_of_ne hd hrest] at h
        rw [hrest] at hlater
        rcases List.mem_cons.mp h with rfl | h
        · rcases List.mem_cons.mp hc with rfl | hc
          · exact ⟨hd, List.mem_cons_self⟩
          · exact hlater List.mem_cons_self hc
        · exact hlater (List.mem_cons_of_mem _ h) hc

/-- What is in joined texts is in one of them or between them. -/
theorem mem_joined {texts : List (List Char)} {c : Char} (h : c ∈ joined mark texts) :
    c = mark ∨ ∃ text ∈ texts, c ∈ text := by
  induction texts with
  | nil => exact nomatch h
  | cons text texts ih =>
      by_cases hothers : texts = []
      · subst hothers
        exact Or.inr ⟨text, List.mem_cons_self, h⟩
      · rw [joined_cons hothers] at h
        rcases List.mem_append.mp h with h | h
        · exact Or.inr ⟨text, List.mem_cons_self, h⟩
        · rcases List.mem_cons.mp h with rfl | h
          · exact Or.inl rfl
          · refine (ih h).imp_right ?_
            rintro ⟨later, hlater, hc⟩
            exact ⟨later, List.mem_cons_of_mem _ hlater, hc⟩

end MediaSearch.Text
