/-
Work directories.

A crawler leaves one for each site: `config.json` names the site, `crawled.json` holds
its items.  An entry that is no item is passed over with a warning; of two items with
one key the later one stands in the earlier one's place.
-/
import MediaSearch.Files.Access
import MediaSearch.Item.Json
import MediaSearch.Json.Reader

namespace MediaSearch

open Files (Access Path FileError)

/-- A work directory that has been read. -/
structure WorkDir where
  /-- Where it is. -/
  path : Path
  /-- The site. -/
  site : String
  /-- The short name of the site. -/
  slug : String
  /-- The items, one for each key. -/
  items : List Item

/-- Why a work directory cannot be read. -/
inductive WorkDirFault
  /-- There is no directory at the path. -/
  | notADirectory
  /-- The home directory that the path starts from is not known. -/
  | unknownHome
  /-- A file cannot be read. -/
  | unreadable (file : String) (error : FileError)
  /-- A file is no JSON text. -/
  | malformed (file : String)
  /-- The configuration has no site. -/
  | noSite
  /-- The short name is no text. -/
  | slugNotText
  /-- The items are no array. -/
  | itemsNotArray
  deriving DecidableEq, Repr

namespace WorkDir

/-- The file that names the site. -/
def configFile : String := "config.json"

/-- The file that holds the items. -/
def crawledFile : String := "crawled.json"

/-- What is wrong, in words. -/
def faultText : WorkDirFault → String
  | .notADirectory => "not a directory"
  | .unknownHome => "Could not determine home directory."
  | .unreadable file error => "unable to open " ++ file ++ ": " ++ error.reason
  | .malformed file => file ++ " was not well-formatted"
  | .noSite => configFile ++ " must be an object with a 'site' string"
  | .slugNotText => "'slug' in " ++ configFile ++ " must be a string"
  | .itemsNotArray => crawledFile ++ " must contain a JSON array"

/-- A fault of a work directory. -/
structure Error where
  /-- The directory. -/
  path : Path
  /-- What is wrong. -/
  fault : WorkDirFault
  deriving DecidableEq, Repr

/-- The message that a fault is reported with. -/
def Error.message (e : Error) : String :=
  "Cannot load work directory " ++ e.path.text ++ ": " ++ faultText e.fault

/-! ### Items -/

/-- An entry that is no item: its index and what is wrong with it. -/
structure Skipped where
  /-- The index of the entry, from 0. -/
  index : Nat
  /-- What is wrong. -/
  error : FormatError

/-- The warning that a skipped entry is reported with. -/
def Skipped.message (path : Path) (s : Skipped) : String :=
  "Skipping item " ++ toString s.index ++ " in " ++ path.text ++ ": " ++ s.error.message

/-- The entries of a list that are items, and those that are not. -/
def sortOut (slug : String) (index : Nat) : List Json.Value → List Item × List Skipped
  | [] => ([], [])
  | entry :: entries =>
    let (items, skipped) := sortOut slug (index + 1) entries
    match Item.ofJson slug entry with
    | .ok item => (item :: items, skipped)
    | .error error => (items, ⟨index, error⟩ :: skipped)

/-- The items of `crawled.json`, one for each key, and the entries that are skipped. -/
def loadItems (slug : String) : Json.Value → Except WorkDirFault (List Item × List Skipped)
  | .array entries =>
    let (items, skipped) := sortOut slug 0 entries
    .ok ((Keyed.ofValues Item.key items).values, skipped)
  | _ => .error .itemsNotArray

/-- The site and its short name, which is the site's name where there is none. -/
def siteOf : Json.Value → Except WorkDirFault (String × String)
  | .object members =>
    match members.lookup "site", members.lookup "slug" with
    | some (.string site), none => .ok (site, site)
    | some (.string site), some .null => .ok (site, site)
    | some (.string site), some (.string slug) => .ok (site, slug)
    | some (.string _), some _ => .error .slugNotText
    | _, _ => .error .noSite
  | _ => .error .noSite

/-! ### Directories -/

variable {m : Type → Type} [Monad m]

/-- The value of a JSON file in a directory. -/
def readJson (files : Access m) (path : Path) (file : String) :
    ExceptT WorkDirFault m Json.Value := do
  match ← files.read (path.child file) with
  | .error e => throw (.unreadable file e)
  | .ok content =>
    match (String.fromUTF8? content).bind Json.Value.read? with
    | some value => pure value
    | none => throw (.malformed file)

/-- The work directory at a path, and the entries that were skipped. -/
def loadAt (files : Access m) (path : Path) : ExceptT WorkDirFault m (WorkDir × List Skipped) := do
  if !(← files.isDirectory path) then throw .notADirectory
  let (site, slug) ← siteOf (← readJson files path configFile)
  if ← files.isThere (path.child crawledFile) then
    let (items, skipped) ← loadItems slug (← readJson files path crawledFile)
    pure (⟨path, site, slug, items⟩, skipped)
  else pure (⟨path, site, slug, []⟩, [])

/-- The work directory at a path that may start with a tilde, with the warnings about it. -/
def load (files : Access m) (path : Path) : ExceptT Error m (WorkDir × List String) := do
  match path.expandHome? files.home with
  | none => throw ⟨path, .unknownHome⟩
  | some path =>
    match ← (loadAt files path).run with
    | .ok (workDir, skipped) => pure (workDir, skipped.map (Skipped.message path))
    | .error fault => throw ⟨path, fault⟩

/-- The work directories at several paths up to the first that cannot be read; the warnings are
given in any case. -/
def loadAll (files : Access m) : List Path → m (Except Error (List WorkDir) × List String)
  | [] => pure (.ok [], [])
  | path :: paths => do
    match ← (load files path).run with
    | .error e => pure (.error e, [])
    | .ok (workDir, warnings) =>
      let (others, more) ← loadAll files paths
      pure (others.map (workDir :: ·), warnings ++ more)

end WorkDir

end MediaSearch
