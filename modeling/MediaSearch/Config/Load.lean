/-
Reading the configuration file and checking what it says.

A file that is not there and a work directory that is not there are only worth a
warning: neither may have come into being yet.
-/
import MediaSearch.Config.Basic
import MediaSearch.Toml.Reader

namespace MediaSearch.Config

open Calendar (ZoneSource)
open Files (Access Path)

/-- The place of the configuration file when none is asked for. -/
def defaultPath (home : Path) : Path :=
  [".config", "crawlview", "config.toml"].foldl Path.child home

/-- The place that a path stands for, starting from the home directory after a tilde. -/
def place (home cwd p : Path) : Except ConfigError Path :=
  match p.expandHome? home with
  | none => .error .unknownHome
  | some p => if p.isImpossible then .error .impossiblePath else .ok (p.resolve cwd)

/-- The warning that there is no configuration file. -/
def noFileWarning (path : Path) : String :=
  "No config file found at " ++ path.text
    ++ ". Using defaults. Create config with: crawlview init-config"

variable {m : Type → Type} [Monad m]

/-- The warnings about work directories that are not there. -/
def missingWarnings (files : Access m) : List Path → m (List String)
  | [] => pure []
  | path :: paths => do
    let found ← files.isDirectory path
    let others ← missingWarnings files paths
    pure (if found then others else ("Work directory not found: " ++ path.text) :: others)

/-- A configuration that makes sense, with its work directories in their places, and warnings. -/
def validate (files : Access m) (zones : ZoneSource) (config : Config) :
    ExceptT ConfigError m (Config × List String) := do
  let _ ← MonadExcept.ofExcept (config.zoneIn zones)
  if config.perPage < 1 then throw (.invalid "search.per_page" "must be at least 1")
  let workDirs ← MonadExcept.ofExcept (config.workDirs.mapM (place files.home files.cwd))
  let warnings ← liftM (missingWarnings files workDirs)
  pure ({ config with workDirs := workDirs }, warnings)

/-- The configuration that the content of a file gives. -/
def ofContent (path : Path) (content : ByteArray) : Except ConfigError Config :=
  match String.fromUTF8? content with
  | none => .error .notText
  | some text =>
    match Toml.read text with
    | .error .malformed => .error (.malformed path)
    | .error .tooManyDigits => .error .tooManyDigits
    | .ok data => ofTable data (some path)

/-- The configuration in the file at a path, or in the default place, and warnings. -/
def load (files : Access m) (zones : ZoneSource) (path? : Option Path) :
    ExceptT ConfigError m (Config × List String) := do
  let path ← MonadExcept.ofExcept (place files.home files.cwd (path?.getD (defaultPath files.home)))
  if ← files.isThere path then
    match ← files.read path with
    | .error e => throw (.unreadable e)
    | .ok content => validate files zones (← MonadExcept.ofExcept (ofContent path content))
  else
    let (config, warnings) ← validate files zones .default
    pure (config, noFileWarning path :: warnings)

end MediaSearch.Config
