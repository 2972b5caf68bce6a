/-
The command that writes a configuration file.

The file is read back after it has been written, so that what is reported about it is
what the next run will find in it.
-/
import MediaSearch.Cli.Command
import MediaSearch.Config.Load
import MediaSearch.Config.Template

namespace MediaSearch.Cli

open Calendar (ZoneSource)
open Files (Access Path FileError)

/-! ### The call -/

/-- What can be set. -/
inductive InitOption
  | force
  | output
  | workDir
  | timezone
  | help
  deriving DecidableEq, Repr

namespace InitOption

/-- The option that names work directories. -/
def workDirSwitch : Switch InitOption := ⟨.workDir, ["--work-dir", "-w"], true⟩

/-- What a call may look like. -/
def grammar : Grammar InitOption :=
  ⟨[⟨.force, ["--force", "-f"], false⟩, ⟨.output, ["--output", "-o"], true⟩, workDirSwitch,
    ⟨.timezone, ["--timezone", "-z"], true⟩, helpSwitch .help], true⟩

end InitOption

/-- What is asked for. -/
structure InitRequest where
  /-- Whether a file that is there may be replaced. -/
  force : Bool
  /-- Where to write the file, if not to the default place. -/
  output? : Option Path
  /-- The work directories to put into it. -/
  workDirs : List Path
  /-- The time zone to put into it. -/
  timezone? : Option String

/-- The request that words make. -/
def InitRequest.ofWords (words : Words InitOption) (file? : Option String) :
    Except Outcome InitRequest := do
  let callee : Callee := .command .initConfig
  if let some path := file? then
    throw (callee.invalidValue InitOption.workDirSwitch
      ("Directory " ++ Text.quoted path ++ " is a file."))
  callee.noOperands words.operands
  pure ⟨words.has .force, (words.value? .output).map Path.ofString,
    (words.values .workDir).map Path.ofString, words.value? .timezone⟩

/-- Where the file is to be written. -/
def InitRequest.target (request : InitRequest) (home : Path) : Path :=
  request.output?.getD (Config.defaultPath home)

/-! ### The answer -/

/-- A file that cannot be written ends the run. -/
def writeFailure (error : FileError) (path : Path) : Outcome :=
  .failure 1 ("Failed to write config file: [Errno " ++ toString error.number ++ "] "
    ++ error.reason ++ ": " ++ Text.quoted path.text) none

/-- What is told about a file that has been written. -/
def writtenText (path : Path) (config : Config) : String :=
  consoleLine ("Created config file: " ++ path.text)
    ++ consoleLine
      (if config.workDirs.isEmpty then
        "Add your crawl work directories under  work_dirs, or pass --work-dir."
      else "Default work directories: " ++ toString config.workDirs.length)

variable {m : Type → Type} [Monad m]

/-- Reads a file back that has been written. -/
def readBack (files : Access m) (zones : ZoneSource) (path : Path) : m Outcome := do
  match ← (Config.load files zones (some path)).run with
  | .error e => pure (configFailure "Written config does not load: " e)
  | .ok (config, warnings) =>
    let told := String.join (warnings.map warningLine)
    pure ((Outcome.success (writtenText path config)).after told)

/-- Writes a configuration file with the directories above it. -/
def writeConfig (files : Access m) (zones : ZoneSource) (path : Path) (text : String) :
    m Outcome := do
  match ← files.makeDirectory path.parent with
  | .error e => pure (writeFailure e path.parent)
  | .ok _ =>
    match ← files.write path text with
    | .error e => pure (writeFailure e path)
    | .ok _ => readBack files zones path

/-- Writes the file that is asked for, in its place and with the work directories in theirs. -/
def writeSeeded (files : Access m) (zones : ZoneSource) (request : InitRequest) : m Outcome := do
  let place := Config.place files.home files.cwd
  match place (request.target files.home) with
  | .error e => pure (.escaped (.config e))
  | .ok path =>
    if !request.force && (← files.isThere path) then
      pure (.failure 1 ("Config file already exists: " ++ path.text)
        (some "Use --force to overwrite"))
    else
      match request.workDirs.mapM place with
      | .error e => pure (.escaped (.config e))
      | .ok workDirs =>
        writeConfig files zones path
          (Config.fill Config.starter request.timezone? (workDirs.map Path.text))

/-- Answers a request. -/
def answerInit (files : Access m) (zones : ZoneSource) (request : InitRequest) : m Outcome :=
  match request.timezone? with
  | none => writeSeeded files zones request
  | some name =>
    match zones.named name with
    | .found _ => writeSeeded files zones request
    | .unknown =>
      pure (.failure 1 ("Unknown timezone: " ++ name)
        (some "Use an IANA name such as America/New_York"))
    | .fails => pure (.escaped .zone)

/-- The command that writes a configuration file. -/
def initCommand (files : Access m) (zones : ZoneSource) (args : List String) : m Outcome := do
  match (Callee.command .initConfig).words InitOption.grammar .help args with
  | .error outcome => pure outcome
  | .ok words =>
    match InitRequest.ofWords words (← files.firstFile (words.values .workDir)) with
    | .error outcome => pure outcome
    | .ok request => answerInit files zones request

end MediaSearch.Cli
