/-
Tables that values are put into by path.

Tables that are missing on the way are made, and an array of tables is entered at its
last one.  An array or a table that was given as one value is closed: nothing can be
put into it afterwards.
-/
import MediaSearch.Keyed
import MediaSearch.Toml.Value

namespace MediaSearch.Toml

/-- A table with a change made to the table at a path. -/
def changeAt (change : Table → Option Table) : List String → Table → Option Table
  | [], members => change members
  | name :: path, members =>
    match (members.lookup name).getD (.table []) with
    | .table inner =>
      (changeAt change path inner).map fun inner => Keyed.put name (.table inner) members
    | .array items =>
      match items.getLast? with
      | some (.table inner) =>
        (changeAt change path inner).map fun inner =>
          Keyed.put name (.array (items.dropLast ++ [.table inner])) members
      | _ => none
    | _ => none

/-- A table with a value under a name that it does not have yet. -/
def add (name : String) (value : Value) (members : Table) : Option Table :=
  match members.lookup name with
  | none => some (Keyed.put name value members)
  | some _ => none

/-- A table with one more empty table at the end of the array under a name. -/
def addElement (name : String) (members : Table) : Option Table :=
  match (members.lookup name).getD (.array []) with
  | .array items => some (Keyed.put name (.array (items ++ [.table []])) members)
  | _ => none

/-- A table, and the paths in it at which something is closed. -/
structure Nest where
  /-- The members of the table. -/
  members : Table
  /-- The paths of the values that nothing can be put into. -/
  closed : List (List String)

namespace Nest

/-- An empty table. -/
def empty : Nest := ⟨[], []⟩

/-- Whether a path leads to something closed or into it. -/
def isClosed (n : Nest) (path : List String) : Bool :=
  n.closed.any fun start => start.isPrefixOf path

/-- The table with a value at a path where nothing is yet. -/
def put? (n : Nest) (path : List String) (value : Value) : Option Nest :=
  if n.isClosed path then none
  else
    (changeAt (add (path.getLast?.getD "") value) path.dropLast n.members).map fun members =>
      ⟨members, if value.isNest then path :: n.closed else n.closed⟩

end Nest

end MediaSearch.Toml
