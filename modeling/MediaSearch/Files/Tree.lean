/-
A tree of files in memory.
-/
import MediaSearch.Files.Access
import MediaSearch.Keyed

namespace MediaSearch.Files

/-- A file or a directory with what is in it. -/
inductive Node
  /-- A file with its content. -/
  | file (content : ByteArray)
  /-- A directory with the nodes in it by name. -/
  | directory (entries : List (String × Node))
  deriving Inhabited

namespace Node

/-- An empty directory. -/
def empty : Node := directory []

/-- What kind of node it is. -/
def kind : Node → Kind
  | file _ => .file
  | directory _ => .directory

/-- Walks along names from the innermost of some directories, each standing in the next one. -/
def walk : List Node → List String → Except FileError Node
  | node :: _, [] => .ok node
  | [], _ => .error .missing
  | directory entries :: outer, name :: names =>
    if name == ".." then walk (if outer.isEmpty then [directory entries] else outer) names
    else
      match entries.lookup name with
      | some node => walk (node :: directory entries :: outer) names
      | none => .error .missing
  | file _ :: _, _ :: _ => .error .notADirectory

/-- The node at some names. -/
def find (root : Node) (names : List String) : Except FileError Node :=
  walk [root] names

/-- The tree with a node put at some names; directories that are missing are made. -/
def put (node : Node) : List String → Node → Except FileError Node
  | [], _ => .ok node
  | name :: names, directory entries => do
    let inner ← put node names ((entries.lookup name).getD empty)
    pure (directory (Keyed.put name inner entries))
  | _ :: _, file _ => .error .notADirectory

/-- The tree without the node at some names. -/
def remove : List String → Node → Node
  | [name], directory entries => directory (entries.filter fun entry => entry.1 != name)
  | name :: names, directory entries =>
    match entries.lookup name with
    | some inner => directory (Keyed.put name (remove names inner) entries)
    | none => directory entries
  | _, node => node

end Node

/-- Files in memory: the whole tree, and where relative paths and the home directory are. -/
structure Tree where
  /-- The root. -/
  root : Node
  /-- The directory that relative paths start from, which is the home directory too. -/
  cwd : Path

namespace Tree

/-- A tree with nothing in it but the directory that relative paths start from. -/
def fresh (cwd : Path) : Tree :=
  match Node.put .empty cwd.parts .empty with
  | .ok root => ⟨root, cwd⟩
  | .error _ => ⟨.empty, cwd⟩

/-- The node at a path. -/
def find (t : Tree) (p : Path) : Except FileError Node :=
  t.root.find (p.startingAt t.cwd).parts

/-- The tree with a node at a path, whatever was there before. -/
def put (t : Tree) (p : Path) (node : Node) : Except FileError Tree := do
  pure { t with root := ← Node.put node (p.resolve t.cwd).parts t.root }

/-- The tree without what is at a path. -/
def remove (t : Tree) (p : Path) : Tree :=
  { t with root := Node.remove (p.resolve t.cwd).parts t.root }

/-- The content of a file. -/
def read (t : Tree) (p : Path) : Except FileError ByteArray := do
  match ← t.find p with
  | .file content => pure content
  | .directory _ => throw .isADirectory

/-- The tree with a file written. -/
def write (t : Tree) (p : Path) (text : String) : Except FileError Tree := do
  if let .ok (.directory _) := t.find p then throw .isADirectory
  match ← t.find p.parent with
  | .directory _ => t.put p (.file text.toUTF8)
  | .file _ => throw .notADirectory

/-- The tree with a directory and those above it. -/
def makeDirectory (t : Tree) (p : Path) : Except FileError Tree :=
  match t.find p with
  | .ok (.directory _) => .ok t
  | .ok (.file _) => .error .taken
  | .error .missing => t.put p .empty
  | .error e => .error e

/-- A change of the tree that may fail. -/
def change (step : Tree → Except FileError Tree) : StateM Tree (Except FileError Unit) := do
  match step (← get) with
  | .ok t =>
    set t
    pure (.ok ())
  | .error e => pure (.error e)

/-- The files of a tree whose relative paths start from a given directory. -/
def access (cwd : Path) : Access (StateM Tree) where
  cwd := cwd
  home := cwd
  kind? p := do pure (((← get).find p).toOption.map Node.kind)
  read p := do pure ((← get).read p)
  write p text := change fun t => t.write p text
  makeDirectory p := change fun t => t.makeDirectory p

end Tree

end MediaSearch.Files
