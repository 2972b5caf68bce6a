/-
The configuration file to start from.
-/
import MediaSearch.Text.Pieces
import MediaSearch.Toml.Printer

namespace MediaSearch.Config

/-- The lines of a configuration file that sets every option to its default. -/
def starterLines : List String := [
  "# crawlview configuration",
  "#",
  "# Default location: ~/.config/crawlview/config.toml",
  "",
  "[search]",
  "# IANA timezone used to interpret dates such as \"today\", \"2025\" or",
  "# \"1/15/2025\" in after/before/during.",
  "timezone = \"America/New_York\"",
  "",
  "# Number of results shown per page.",
  "per_page = 15",
  "",
  "[paths]",
  "# Crawl work directories searched when no --work-dir is given.",
  "# Each holds a config.json and, once crawled, a crawled.json.",
  "work_dirs = []",
  "",
  "[display]",
  "# Use colored terminal output (also disabled by --no-color or NO_COLOR).",
  "colored_output = true"]

/-- The configuration file to start from. -/
def starter : String :=
  String.join (starterLines.map (· ++ "\n"))

/-- What a line that sets the time zone starts with. -/
def timezoneStart : List Char := "timezone = ".toList

/-- The line that sets no work directories. -/
def noWorkDirs : List Char := "work_dirs = []".toList

/-- A template with other text in place of each of some of its lines. -/
def replaceLines (isOne : List Char → Bool) (text template : String) : String :=
  String.ofList (Text.joined '\n'
    ((Text.pieces '\n' template.toList).map fun line => if isOne line then text.toList else line))

/-- A template with a time zone in it, if one is given. -/
def fillTimezone (timezone? : Option String) (template : String) : String :=
  match timezone? with
  | some timezone =>
    replaceLines (timezoneStart.isPrefixOf ·) (Toml.textLine "timezone" timezone) template
  | none => template

/-- A template with work directories in it, if there are any. -/
def fillWorkDirs (workDirs : List String) (template : String) : String :=
  if workDirs.isEmpty then template
  else replaceLines (· == noWorkDirs) (Toml.textsLines "work_dirs" workDirs) template

/-- A template with a time zone and work directories in it; what is not given stays as it is.
The time zone is in it already when the work directories are put there. -/
def fill (template : String) (timezone? : Option String) (workDirs : List String) : String :=
  fillWorkDirs workDirs (fillTimezone timezone? template)

end MediaSearch.Config
