/-
What the statements of a document do to its table.

A table is opened once.  A table that came about through a key with points can be
added to while the same table is open, but not be opened itself later on.  Opening one
more table of an array lets everything inside start afresh.
-/
import MediaSearch.Toml.Nest

namespace MediaSearch.Toml

/-- A statement. -/
inductive Statement
  /-- A value under a key, relative to the table that is open. -/
  | assign (key : List String) (value : Value)
  /-- A table that is opened. -/
  | table (key : List String)
  /-- A table that is added to an array and opened. -/
  | element (key : List String)

/-- A document that has been read up to some statement. -/
structure Document where
  /-- What it holds. -/
  nest : Nest
  /-- The path of the table that is open. -/
  header : List String
  /-- The paths of tables that cannot be opened again. -/
  opened : List (List String)
  /-- Paths that join them as soon as another table is opened. -/
  dotted : List (List String)

namespace Document

/-- A document that nothing is in. -/
def empty : Document := ⟨.empty, [], [], []⟩

/-- The paths that lead to a key, apart from the key itself. -/
def leadingTo (header key : List String) : List (List String) :=
  (List.range key.dropLast.length).map fun i => header ++ key.take (i + 1)

/-- The document after a value. -/
def assign (d : Document) (key : List String) (value : Value) : Option Document :=
  let way := leadingTo d.header key
  if way.any d.opened.contains then none
  else
    (d.nest.put? (d.header ++ key) value).map fun nest =>
      { d with nest := nest, dotted := way ++ d.dotted }

/-- The document with all that has been opened so far settled. -/
def settle (d : Document) : Document :=
  { d with opened := d.dotted ++ d.opened, dotted := [] }

/-- The document after the opening of a table. -/
def openTable (d : Document) (key : List String) : Option Document :=
  let d := d.settle
  if d.opened.contains key || d.nest.isClosed key then none
  else
    (changeAt some key d.nest.members).map fun members =>
      { d with
        nest := { d.nest with members := members }
        header := key
        opened := key :: d.opened }

/-- The document after the opening of one more table of an array. -/
def openElement (d : Document) (key : List String) : Option Document :=
  let d := d.settle
  if d.nest.isClosed key then none
  else
    let outside := fun (paths : List (List String)) => paths.filter fun p => !key.isPrefixOf p
    (changeAt (addElement (key.getLast?.getD "")) key.dropLast d.nest.members).map fun members =>
      { d with
        nest := ⟨members, outside d.nest.closed⟩
        header := key
        opened := key :: outside d.opened }

/-- The document after a statement. -/
def step (d : Document) : Statement → Option Document
  | .assign key value => d.assign key value
  | .table key => d.openTable key
  | .element key => d.openElement key

end Document

end MediaSearch.Toml
