/-
The command line.

Everything that touches the world is here: the files, the clock and the streams.
-/
import MediaSearch.Calendar.ZoneNames
import MediaSearch.Cli.Run
import Std.Time.DateTime.Timestamp

namespace MediaSearch

open Files (Access FileError Kind Path)

/-- Why an action on a file has failed. -/
def fileError : IO.Error → FileError
  | .noFileOrDirectory .. => .missing
  | .alreadyExists .. => .taken
  | .inappropriateType .. => .notADirectory
  | _ => .other

/-- An action on a file, with its failure. -/
def attempt {α : Type} (action : IO α) : IO (Except FileError α) := do
  match ← action.toBaseIO with
  | .ok value => pure (.ok value)
  | .error e => pure (.error (fileError e))

/-- What stands at a path. -/
def kindAt (path : Path) : IO (Option Kind) := do
  let place := (← IO.currentDir) / path.text
  match ← place.metadata.toBaseIO with
  | .ok data => pure (some (if data.type matches .dir then .directory else .file))
  | .error _ => pure none

/-- An action on a file that fails in a way of its own on a directory. -/
def onFile {α : Type} (path : Path) (action : IO α) : IO (Except FileError α) := do
  if (← kindAt path) == some .directory then pure (.error .isADirectory) else attempt action

/-- Makes a directory and those above it. -/
def makeDirectory (path : Path) : IO (Except FileError Unit) := do
  if (← kindAt path) == some .file then pure (.error .taken)
  else attempt (IO.FS.createDirAll path.text)

/-- The files of the system. -/
def systemFiles : IO (Access IO) := do
  let cwd := Path.ofString (← IO.currentDir).toString
  let home := ((← IO.getEnv "HOME").map Path.ofString).getD cwd
  pure {
    cwd, home
    kind? := kindAt
    read := fun path => onFile path (IO.FS.readBinFile path.text)
    write := fun path text => onFile path (IO.FS.writeFile path.text text)
    makeDirectory := makeDirectory }

/-- The instant at which the program runs. -/
def currentInstant : IO Calendar.Instant := do
  let now ← Std.Time.Timestamp.now
  pure (now.toNanosecondsSinceUnixEpoch.toInt / 1000)

end MediaSearch

open MediaSearch in
/-- Runs the program on its arguments. -/
def main (args : List String) : IO UInt32 := do
  let outcome ← Cli.run (← systemFiles) Calendar.ZoneSource.tables (← currentInstant) args
  IO.print outcome.output
  IO.eprint outcome.errors
  if outcome.escape?.isSome then IO.eprintln "Unexpected failure"
  pure outcome.code.toUInt32
