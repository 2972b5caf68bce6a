/-
The configuration, and how it is taken from the table of a TOML document.

Options stand in sections.  Any of them may be missing and then keeps its default;
other options and other sections are not looked at.
-/
import MediaSearch.Calendar.ZoneSource
import MediaSearch.Files.Access
import MediaSearch.Query.Search
import MediaSearch.Text.Search
import MediaSearch.Toml.Value

namespace MediaSearch

open Calendar (Zone ZoneSource)
open Files (Path FileError)

/-- What can be configured. -/
structure Config where
  /-- The name of the time zone that dates in queries are read in. -/
  timezone : String
  /-- How many results a page has. -/
  perPage : Int
  /-- The work directories that are searched when none are given. -/
  workDirs : List Path
  /-- Whether output is coloured. -/
  coloredOutput : Bool
  /-- The file that it was read from, if there was one. -/
  source? : Option Path

/-- Why there is no configuration. -/
inductive ConfigError
  /-- The file is no TOML document. -/
  | malformed (path : Path)
  /-- An option has a value that it cannot have. -/
  | invalid (option reason : String)
  /-- An option is looked for in a section that is no table. -/
  | notATable
  /-- The file is no UTF-8 text. -/
  | notText
  /-- A whole number in the file has more digits than are read. -/
  | tooManyDigits
  /-- Looking the time zone up has failed. -/
  | zoneFails
  /-- The file cannot be read. -/
  | unreadable (error : FileError)
  /-- The home directory that a path starts from is not known. -/
  | unknownHome
  /-- A path has a character that no path can have. -/
  | impossiblePath
  deriving DecidableEq, Repr

/-- What to tell about an error; nothing when it is one that is not foreseen. -/
def ConfigError.message? : ConfigError → Option String
  | malformed path => some ("Invalid config at " ++ path.text)
  | invalid option reason =>
    some ("Invalid config value for '" ++ option ++ "': " ++ reason)
  | _ => none

namespace Config

/-- The configuration with nothing set. -/
def default : Config :=
  { timezone := Zone.defaultName
    perPage := Query.defaultPerPage
    workDirs := []
    coloredOutput := true
    source? := none }

/-- The zone that a configuration names. -/
def zoneIn (zones : ZoneSource) (config : Config) : Except ConfigError Zone :=
  match zones.named config.timezone with
  | .found zone => .ok zone
  | .unknown => .error (.invalid "search.timezone" "unknown timezone")
  | .fails => .error .zoneFails

/-! ### Options -/

/-- The text that a value is. -/
def asText? : Toml.Value → Option String
  | .string text => some text
  | _ => none

/-- The whole number that a value is. -/
def asInt? : Toml.Value → Option Int
  | .int n => some n
  | _ => none

/-- The truth value that a value is. -/
def asBool? : Toml.Value → Option Bool
  | .bool b => some b
  | _ => none

/-- The paths that a value lists. -/
def asPaths? : Toml.Value → Option (List Path)
  | .array items => items.mapM fun item => (asText? item).map Path.ofString
  | _ => none

/-- The value of an option in a section, if it is set.  A section that is a text or an array
is as good as none, unless it has the option's name in it. -/
def option? (data : Toml.Table) (heading option : String) :
    Except ConfigError (Option Toml.Value) :=
  match data.lookup heading with
  | none => .ok none
  | some (.table members) => .ok (members.lookup option)
  | some (.string text) =>
    if Text.occursIn option.toList text.toList then .error .notATable else .ok none
  | some (.array items) =>
    if items.any fun item => asText? item == some option then .error .notATable else .ok none
  | some _ => .error .notATable

/-- What an option is set to: `missing` if it is not set, and an error if it has a value that
`read` does not take. -/
def setting {α : Type} (data : Toml.Table) (heading option reason : String) (missing : α)
    (read : Toml.Value → Option α) : Except ConfigError α := do
  match ← option? data heading option with
  | none => pure missing
  | some value =>
    match read value with
    | some setting => pure setting
    | none => throw (.invalid (heading ++ "." ++ option) reason)

/-- The configuration that a table gives. -/
def ofTable (data : Toml.Table) (source? : Option Path) : Except ConfigError Config := do
  let timezone ←
    setting data "search" "timezone" "must be a string" default.timezone asText?
  let perPage ←
    setting data "search" "per_page" "must be an integer" default.perPage asInt?
  let workDirs ←
    setting data "paths" "work_dirs" "must be a list of string paths" default.workDirs asPaths?
  let coloredOutput ←
    setting data "display" "colored_output" "must be a boolean" default.coloredOutput asBool?
  pure ⟨timezone, perPage, workDirs, coloredOutput, source?⟩

end Config

end MediaSearch
