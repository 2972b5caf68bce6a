/-
What the program does with files.

`Access m` is everything that is asked of the place where the files are, as actions
of a monad `m`; whatever needs files takes it as a parameter.  `Files/Tree.lean` gives
it for a tree in memory.
-/
import MediaSearch.Files.Path

namespace MediaSearch.Files

/-- What stands at a path. -/
inductive Kind
  | file
  | directory
  deriving DecidableEq, Repr

/-- Why a file cannot be used. -/
inductive FileError
  /-- There is nothing at the path. -/
  | missing
  /-- There is something at the path already. -/
  | taken
  /-- A part of the path is no directory. -/
  | notADirectory
  /-- The path is a directory. -/
  | isADirectory
  /-- Anything else. -/
  | other
  deriving DecidableEq, Repr

namespace FileError

/-- Why, in words. -/
def reason : FileError → String
  | missing => "No such file or directory"
  | taken => "File exists"
  | notADirectory => "Not a directory"
  | isADirectory => "Is a directory"
  | other => "Input/output error"

/-- The number that the system gives the reason. -/
def number : FileError → Nat
  | missing => 2
  | taken => 17
  | notADirectory => 20
  | isADirectory => 21
  | other => 5

end FileError

/-- The files that the program works with. -/
structure Access (m : Type → Type) where
  /-- The directory that relative paths start from. -/
  cwd : Path
  /-- The home directory. -/
  home : Path
  /-- What stands at a path. -/
  kind? : Path → m (Option Kind)
  /-- The content of a file. -/
  read : Path → m (Except FileError ByteArray)
  /-- Writes a file; its directory has to be there. -/
  write : Path → String → m (Except FileError Unit)
  /-- Makes a directory and those above it, where they are not there. -/
  makeDirectory : Path → m (Except FileError Unit)

namespace Access

variable {m : Type → Type} [Monad m]

/-- Whether there is something at a path. -/
def isThere (files : Access m) (p : Path) : m Bool := do
  pure (← files.kind? p).isSome

/-- Whether a path is a directory. -/
def isDirectory (files : Access m) (p : Path) : m Bool := do
  pure ((← files.kind? p) == some .directory)

/-- The first of some texts that is the path of a file.  A text that ends in a slash asks for a
directory and is no path of a file. -/
def firstFile (files : Access m) : List String → m (Option String)
  | [] => pure none
  | text :: texts => do
    let last := (Text.pieces '/' text.toList).getLast?.getD []
    if last != [] && last != ['.'] && (← files.kind? (Path.ofString text)) == some .file then
      pure (some text)
    else firstFile files texts

end Access

end MediaSearch.Files
