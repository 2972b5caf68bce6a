/-
What a run of the program leaves behind.
-/
import MediaSearch.Cli.Console
import MediaSearch.Config.Basic
import MediaSearch.Query.Search

namespace MediaSearch.Cli

/-- A failure that the program does not foresee: it ends the run without a message. -/
inductive Escape
  /-- The configuration. -/
  | config (error : ConfigError)
  /-- Looking a time zone up. -/
  | zone
  /-- A time string. -/
  | time (failure : TimeString.Failure)
  /-- The test of an item. -/
  | eval (error : Query.EvalError)
  /-- The page of a result. -/
  | page (error : Query.PageError)
  /-- The number of pages. -/
  | count (error : Query.CountError)
  /-- The home directory that a path starts from is not known. -/
  | unknownHome
  deriving DecidableEq

/-- What a run leaves behind. -/
structure Outcome where
  /-- The exit code. -/
  code : Nat
  /-- What is written to standard output. -/
  output : String
  /-- What is written to standard error. -/
  errors : String
  /-- The failure that was not foreseen, if there was one. -/
  escape? : Option Escape

namespace Outcome

/-- A run that has written something and ended well. -/
def success (output : String) : Outcome :=
  ⟨0, output, "", none⟩

/-- A message about an error, with a hint if there is one. -/
def errorLines (message : String) (hint? : Option String) : String :=
  consoleLine ("Error: " ++ message)
    ++ (match hint? with
      | none => ""
      | some hint => consoleLine ("  Hint: " ++ hint))

/-- A run that ends with a message about an error. -/
def failure (code : Nat) (message : String) (hint? : Option String) : Outcome :=
  ⟨code, "", errorLines message hint?, none⟩

/-- A run that ends in a failure that is not foreseen. -/
def escaped (escape : Escape) : Outcome :=
  ⟨1, "", "", some escape⟩

/-- The run with something written to standard error before it. -/
def after (errors : String) (o : Outcome) : Outcome :=
  { o with errors := errors ++ o.errors }

end Outcome

/-- A configuration that cannot be read ends the run; `label` stands in front of the message. -/
def configFailure (label : String) (e : ConfigError) : Outcome :=
  match e.message? with
  | some message => .failure 1 (label ++ message) none
  | none => .escaped (.config e)

/-- A warning. -/
def warningLine (message : String) : String :=
  consoleLine ("Warning: " ++ message)

end MediaSearch.Cli
