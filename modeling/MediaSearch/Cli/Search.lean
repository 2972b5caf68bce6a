/-
The command that searches items.
-/
import MediaSearch.Cli.Cells
import MediaSearch.Cli.Command
import MediaSearch.Query.Shown
import MediaSearch.Cli.Reference
import MediaSearch.Json.Printer
import MediaSearch.WorkDir

namespace MediaSearch.Cli

open Calendar
open Files (Access Path)

/-! ### The call -/

/-- What can be set. -/
inductive SearchOption
  | workDir
  | page
  | perPage
  | format
  | now
  | help
  deriving DecidableEq, Repr

/-- A form that results are written in. -/
inductive ResultFormat
  /-- A table. -/
  | table
  /-- One site and key on each line. -/
  | keys
  /-- A JSON object. -/
  | json
  deriving DecidableEq, Repr

/-- The forms by name. -/
def ResultFormat.named : List (String × ResultFormat) :=
  [("table", .table), ("keys", .keys), ("json", .json)]

/-- What is asked for. -/
structure SearchRequest where
  /-- The query. -/
  query : String
  /-- The work directories to search instead of the configured ones. -/
  workDirs : List Path
  /-- The page. -/
  page : Int
  /-- How many results a page has, if not as many as configured. -/
  perPage? : Option Int
  /-- The form of the results. -/
  format : ResultFormat
  /-- The reference time as it is written. -/
  now? : Option String

namespace SearchRequest

/-- The spellings of an option. -/
def switch : SearchOption → Switch SearchOption
  | .workDir => ⟨.workDir, ["--work-dir", "-w"], true⟩
  | .page => ⟨.page, ["--page", "-p"], true⟩
  | .perPage => ⟨.perPage, ["--per-page", "-n"], true⟩
  | .format => ⟨.format, ["--format", "-f"], true⟩
  | .now => ⟨.now, ["--now"], true⟩
  | .help => helpSwitch .help

/-- What a call may look like. -/
def grammar : Grammar SearchOption :=
  ⟨[switch .workDir, switch .page, switch .perPage, switch .format, switch .now, switch .help],
    true⟩

/-- The command. -/
def callee : Callee := .command .search

/-- A number that is 1 or more. -/
def count (text : String) : Except String Int :=
  match Text.wholeNumber? text with
  | none => .error (Text.quoted text ++ " is not a valid integer range.")
  | some n => if n < 1 then .error (toString n ++ " is not in the range x>=1.") else .ok n

/-- The form with a name. -/
def formatNamed (name : String) : Except String ResultFormat :=
  match ResultFormat.named.lookup name with
  | some format => .ok format
  | none =>
    let names := ResultFormat.named.map fun (other, _) => "'" ++ other ++ "'"
    .error (Text.quoted name ++ " is not one of " ++ ", ".intercalate names ++ ".")

/-- A request with an option set to what it is given; `file?` is the first of the work directories
that is a file. -/
def set (words : Words SearchOption) (file? : Option String) (request : SearchRequest)
    (option : SearchOption) : Except Outcome SearchRequest :=
  let checked {α : Type} (e : Except String α) : Except Outcome α :=
    e.mapError (callee.invalidValue (switch option))
  let value := (words.value? option).getD ""
  match option with
  | .workDir =>
    match file? with
    | some path => checked (.error ("Directory " ++ Text.quoted path ++ " is a file."))
    | none => .ok { request with workDirs := (words.values .workDir).map Path.ofString }
  | .page => (checked (count value)).map fun n => { request with page := n }
  | .perPage => (checked (count value)).map fun n => { request with perPage? := some n }
  | .format => (checked (formatNamed value)).map fun f => { request with format := f }
  | .now => .ok { request with now? := some value }
  | .help => .ok request

/-- The request that words make. -/
def ofWords (words : Words SearchOption) (file? : Option String) :
    Except Outcome SearchRequest := do
  let request ← (words.given.map (·.1)).foldlM (set words file?) ⟨"", [], 1, none, .table, none⟩
  pure { request with query := ← callee.joinedOperands "QUERY" words.operands }

end SearchRequest

/-! ### The answer -/

/-- How much is told about what is going on. -/
structure Detail where
  /-- What has been loaded. -/
  verbose : Bool
  /-- What the query has been understood as. -/
  debug : Bool

/-- The columns of the table of results. -/
def resultColumns : List Column :=
  [⟨"Published", .left⟩, ⟨"Site", .left⟩, ⟨"Title", .left⟩, ⟨"Tags", .left⟩, ⟨"Files", .right⟩,
   ⟨"Key", .left⟩]

/-- The row of an item. -/
def resultRow (z : Zone) (item : Item) : List String :=
  [publishedCell z item.published, item.site, item.title, tagsCell item.tags,
   toString item.flatFiles.length, item.key]

/-- The line above the table. -/
def searchLine (query : String) (page : Query.Page Item) (count : Int) : String :=
  consoleLine ("Search: " ++ query ++ " (" ++ toString page.total ++ " results, page "
    ++ toString page.page ++ "/" ++ toString (max count 1) ++ ")")

/-- A page as a JSON object. -/
def pageJson (page : Query.Page Item) (count : Int) : Json.Value :=
  .object [("page", .int page.page), ("per_page", .int page.perPage), ("total", .int page.total),
    ("page_count", .int count),
    ("items", .array (page.items.map fun item =>
      .object (Keyed.put "site" (.string item.site) [] ++ item.toMembers)))]

/-- The site and the key of an item. -/
def keyLine (item : Item) : String :=
  item.site ++ "/" ++ item.key ++ "\n"

/-- A page of results in a form. -/
def resultText (z : Zone) (query : String) (page : Query.Page Item) (format : ResultFormat) :
    Except Query.CountError String :=
  if format = .json then
    page.pageCount.map fun count => (pageJson page count).pretty ++ "\n"
  else if page.total == 0 then .ok (consoleLine ("No results for: " ++ query))
  else if format = .keys then .ok (String.join (page.items.map keyLine))
  else
    page.pageCount.map fun count =>
      searchLine query page count ++ frame resultColumns (page.items.map (resultRow z))

/-- What a query finds among items. -/
def searchItems (clock : Query.Clock) (condition : Query.Expr) (items : List Item) (perPage : Int)
    (request : SearchRequest) : Outcome :=
  match Query.search clock condition items request.page perPage with
  | .error (.eval e) => .escaped (.eval e)
  | .error (.page e) => .escaped (.page e)
  | .ok page =>
    match resultText clock.zone request.query page request.format with
    | .error e => .escaped (.count e)
    | .ok text => .success text

/-- What is told about a work directory that has been loaded. -/
def loadedLine (workDir : WorkDir) : String :=
  consoleLine ("Loaded " ++ toString workDir.items.length ++ " items from " ++ workDir.slug ++ " ("
    ++ workDir.path.text ++ ")")

/-- A fault of a work directory ends the run. -/
def workDirFailure (e : WorkDir.Error) : Outcome :=
  match e.fault with
  | .unknownHome => .escaped .unknownHome
  | _ => .failure 2 e.message none

/-! ### The command -/

variable {m : Type → Type} [Monad m]

/-- Searches the items of work directories. -/
def searchIn (files : Access m) (detail : Detail) (clock : Query.Clock) (condition : Query.Expr)
    (paths : List Path) (perPage : Int) (request : SearchRequest) : m Outcome := do
  if paths.isEmpty then
    pure (.failure 2 "No work directories to search"
      (some "Pass --work-dir or set paths.work_dirs in the config file"))
  else
    match (← WorkDir.loadAll files paths).1 with
    | .error e => pure (workDirFailure e)
    | .ok loaded =>
      let told := if detail.verbose then String.join (loaded.map loadedLine) else ""
      pure ((searchItems clock condition (loaded.flatMap WorkDir.items) perPage request).after told)

/-- Answers a request. -/
def answerSearch (files : Access m) (zones : ZoneSource) (now : Instant) (config : Config)
    (detail : Detail) (request : SearchRequest) : m Outcome :=
  match config.zoneIn zones with
  | .error e => pure (.escaped (.config e))
  | .ok zone =>
    match request.now?.elim (some (.instant now)) reference? with
    | none =>
      pure (SearchRequest.callee.misuse
        ("Invalid value for --now: not an ISO 8601 datetime: " ++ request.now?.getD ""))
    | some reference =>
      let clock : Query.Clock := ⟨reference, zone⟩
      match Query.parse clock request.query with
      | .error (.timeFails f) => pure (.escaped (.time f))
      | .error (.rejected r) => pure (.failure 1 ("Parse error: " ++ r.message) none)
      | .ok condition => do
        let paths := if request.workDirs.isEmpty then config.workDirs else request.workDirs
        let told :=
          if detail.debug then consoleLine ("[DEBUG] Parsed query: " ++ condition.shown) else ""
        let outcome ←
          searchIn files detail clock condition paths (request.perPage?.getD config.perPage) request
        pure (outcome.after told)

/-- The command that searches items. -/
def searchCommand (files : Access m) (zones : ZoneSource) (now : Instant) (config : Config)
    (detail : Detail) (args : List String) : m Outcome := do
  match SearchRequest.callee.words SearchRequest.grammar .help args with
  | .error outcome => pure outcome
  | .ok words =>
    let file? ← files.firstFile (words.values .workDir)
    match SearchRequest.ofWords words file? with
    | .error outcome => pure outcome
    | .ok request => answerSearch files zones now config detail request

end MediaSearch.Cli
