/-
Paths of files.

A path is a root, empty for a relative path, and the names from there on.  Empty
names and single dots are dropped when a path is read; double dots are kept, because
what they lead to depends on what is there.  Two slashes at the front, and no more
than two, are a root of their own.
-/
import MediaSearch.Text.Pieces

namespace MediaSearch.Files

/-- A path. -/
structure Path where
  /-- The root: nothing, one slash or two. -/
  root : String
  /-- The names, from the root on. -/
  parts : List String
  deriving DecidableEq, Repr, Inhabited

namespace Path

/-- The names between the slashes of a text. -/
def partsOf (text : String) : List String :=
  ((Text.pieces '/' text.toList).map String.ofList).filter fun part => part != "" && part != "."

/-- A path as it is written. -/
def ofString (text : String) : Path :=
  let slashes := (text.toList.takeWhile (· == '/')).length
  ⟨if slashes == 0 then "" else if slashes == 2 then "//" else "/", partsOf text⟩

/-- A path as text. -/
def text (p : Path) : String :=
  if p.root.isEmpty && p.parts.isEmpty then "."
  else p.root ++ String.ofList (Text.joined '/' (p.parts.map String.toList))

/-- Whether a path starts at a root. -/
def isAbsolute (p : Path) : Bool :=
  !p.root.isEmpty

/-- The path of something inside a directory. -/
def child (p : Path) (name : String) : Path :=
  { p with parts := p.parts ++ [name] }

/-- The last name of a path. -/
def name (p : Path) : String :=
  p.parts.getLast?.getD ""

/-- The directory that a path is in. -/
def parent (p : Path) : Path :=
  { p with parts := p.parts.dropLast }

/-- A path, a relative one from a given directory on. -/
def startingAt (p start : Path) : Path :=
  if p.isAbsolute then p else { start with parts := start.parts ++ p.parts }

/-- The names of a path with the double dots taken back one name each, those at the root away. -/
def withoutDots (parts : List String) : List String :=
  (parts.foldl (fun kept part => if part == ".." then kept.drop 1 else part :: kept) []).reverse

/-- The path from the root that a path stands for where nothing is a link. -/
def resolve (p cwd : Path) : Path :=
  ⟨"/", withoutDots (p.startingAt cwd).parts⟩

/-- A path with a tilde at its start replaced by the home directory.  Nobody else's home is
known. -/
def expandHome? (p home : Path) : Option Path :=
  match p.root.isEmpty, p.parts with
  | true, first :: others =>
    if first == "~" then some { home with parts := home.parts ++ others }
    else if first.toList.head? == some '~' then none
    else some p
  | _, _ => some p

/-- Whether no file can have this path, because of a character that no name can have. -/
def isImpossible (p : Path) : Bool :=
  p.parts.any fun part => part.toList.contains '\x00'

end Path

end MediaSearch.Files
