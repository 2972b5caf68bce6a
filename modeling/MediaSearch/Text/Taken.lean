/-
What a reader took from the front of a list.

A reader that has succeeded has read something: what is left is shorter than what
it was given.  That makes a reader that calls itself on the rest terminate by the
length of its input, with no bound to be guessed.
-/

namespace MediaSearch

/-- A value read from the front of a list, and the shorter rest. -/
structure Taken (α : Type) {τ : Type} (input : List τ) where
  /-- What was read. -/
  value : α
  /-- What is left. -/
  rest : List τ
  /-- Something was read. -/
  shorter : rest.length < input.length

namespace Taken

/-- The same value, with more in front of what it was read from. -/
def widen {α τ : Type} {input : List τ} (t : Taken α input) {longer : List τ}
    (h : input.length ≤ longer.length) : Taken α longer :=
  ⟨t.value, t.rest, Nat.lt_of_lt_of_le t.shorter h⟩

/-- Another value in place of the one read. -/
def map {α β τ : Type} {input : List τ} (f : α → β) (t : Taken α input) : Taken β input :=
  ⟨f t.value, t.rest, t.shorter⟩

end Taken

end MediaSearch
