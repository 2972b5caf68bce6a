/-
Lists of values under keys.

A key stands in such a list once, in the place where it came first, with the value
that came last.
-/

namespace MediaSearch

/-- A list of values under keys, in order. -/
abbrev Keyed (κ α : Type) := List (κ × α)

namespace Keyed

/-- The list with a value under a key: in the key's place if it has one, else at the end. -/
@[simp]
def put {κ α : Type} [BEq κ] (key : κ) (value : α) : Keyed κ α → Keyed κ α
  | [] => [(key, value)]
  | (other, old) :: rest =>
    if other == key then (key, value) :: rest else (other, old) :: put key value rest

/-- The values of a list, each under its key. -/
def ofValues {κ α : Type} [BEq κ] (key : α → κ) (values : List α) : Keyed κ α :=
  values.foldl (fun list value => put (key value) value list) []

/-- The values in order. -/
def values {κ α : Type} (list : Keyed κ α) : List α :=
  list.map (·.2)

end Keyed

end MediaSearch
