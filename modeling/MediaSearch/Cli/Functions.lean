/-
The command that lists the functions of the query language.
-/
import MediaSearch.Cli.Command

namespace MediaSearch.Cli

/-- A function as it is explained. -/
structure FunctionEntry where
  /-- Its name. -/
  name : String
  /-- Its arguments. -/
  arguments : String
  /-- What it asks of an item. -/
  description : String

/-- Every function, in the order in which they are explained. -/
def functionEntries : List FunctionEntry :=
  [⟨"and", "EXPR...", "all arguments must match"⟩,
   ⟨"or", "EXPR...", "any argument must match"⟩,
   ⟨"not", "EXPR", "negates the argument"⟩,
   ⟨"tag", "STRING", "exact tag match (case-insensitive)"⟩,
   ⟨"type", "STRING", "file type: \"image\", \"video\", or \"text\""⟩,
   ⟨"site", "STRING", "site slug match (case-sensitive)"⟩,
   ⟨"fulltext", "STRING", "search in title, meta, description, url, and text files"⟩,
   ⟨"title", "STRING", "substring match in title (case-insensitive)"⟩,
   ⟨"meta", "STRING", "substring match in any meta key or value (case-insensitive)"⟩,
   ⟨"desc", "STRING", "substring match in description (case-insensitive)"⟩,
   ⟨"url", "STRING", "substring match in source URL (case-insensitive)"⟩,
   ⟨"after", "TIME", "items published at or after the time"⟩,
   ⟨"before", "TIME", "items published at or before the time"⟩,
   ⟨"during", "TIME", "items published within a time range"⟩]

/-- Queries that show how the functions are used. -/
def queryExamples : List String :=
  ["(tag \"foobar\")",
   "(and (tag \"foobar\") (type \"image\") (not (type \"video\")))",
   "(or (title \"example\") (fulltext \"search term\"))",
   "(after \"2024-01-01T00:00:00Z\")",
   "(during \"last week\")",
   "(and (site \"blog\") (before \"2 months ago\"))"]

/-- The formats of time strings. -/
def timeFormats : List String :=
  ["2024-01-01T00:00:00Z (RFC 3339)",
   "2 weeks ago, a month ago",
   "today, yesterday, this/last week, this/last month, this/last year",
   "january, sept (most recent one)",
   "2025",
   "1704067200000 (Unix milliseconds)",
   "1/15/2025, Jan 15th, 2025, 2025-01-15"]

/-- The list of the functions, with formats of time strings and examples. -/
def functionsText : String :=
  let columns : List Column := [⟨"Function", .left⟩, ⟨"Arguments", .left⟩, ⟨"Description", .left⟩]
  let rows := functionEntries.map fun entry => [entry.name, entry.arguments, entry.description]
  let indented := fun (lines : List String) =>
    String.join (lines.map fun line => consoleLine ("  " ++ line))
  titled "Available Functions" (frame columns rows)
    ++ "\n" ++ consoleLine "Time formats (after, before, during)" ++ indented timeFormats
    ++ "\n" ++ consoleLine "Examples" ++ indented queryExamples

/-- The command that lists the functions of the query language. -/
def functionsCommand (args : List String) : Outcome :=
  let callee : Callee := .command .functions
  let checked : Except Outcome Unit := do
    let words ← callee.words ⟨[helpSwitch ()], true⟩ () args
    callee.noOperands words.operands
  match checked with
  | .error outcome => outcome
  | .ok _ => .success functionsText

end MediaSearch.Cli
