/-
The commands, and what is said about a wrong call.

A wrong call ends the run with exit code 2.  Most mistakes are reported below the line
that shows how the command is called; a mistake with the value of an option is
reported alone.
-/
import MediaSearch.Cli.Options
import MediaSearch.Cli.Outcome

namespace MediaSearch.Cli

/-- A command. -/
inductive Command
  /-- Lists the functions of the query language. -/
  | functions
  /-- Shows how a command is called. -/
  | help
  /-- Writes a configuration file. -/
  | initConfig
  /-- Shows what a time string stands for. -/
  | parseTime
  /-- Searches items. -/
  | search
  deriving DecidableEq, Repr

namespace Command

/-- Every command. -/
def everyone : List Command := [functions, help, initConfig, parseTime, search]

/-- The name of a command. -/
def name : Command → String
  | functions => "functions"
  | help => "help"
  | initConfig => "init-config"
  | parseTime => "parse-time"
  | search => "search"

/-- The command with a name. -/
def ofName? (name : String) : Option Command :=
  everyone.find? fun command => command.name == name

/-- What follows a command's name in a call. -/
def form : Command → String
  | functions => "[OPTIONS]"
  | help => "[OPTIONS] [COMMAND]..."
  | initConfig => "[OPTIONS]"
  | parseTime => "[OPTIONS] VALUE..."
  | search => "[OPTIONS] QUERY..."

end Command

/-- The name of the program. -/
def programName : String := "crawlview"

/-- What follows the program's name in a call. -/
def programForm : String := "[OPTIONS] COMMAND [ARGS]..."

/-- What is called: the program or one of its commands. -/
structure Callee where
  /-- The names, from the program's on. -/
  path : String
  /-- What follows them in a call. -/
  form : String

namespace Callee

/-- The program. -/
def program : Callee := ⟨programName, programForm⟩

/-- A command of the program. -/
def command (c : Command) : Callee := ⟨programName ++ " " ++ c.name, c.form⟩

/-- The line that shows how it is called. -/
def usageLine (callee : Callee) : String :=
  "Usage: " ++ callee.path ++ " " ++ callee.form ++ "\n"

/-- The run that shows how it is called. -/
def help (callee : Callee) : Outcome :=
  .success callee.usageLine

/-- The run that ends with a mistake in the call. -/
def misuse (callee : Callee) (message : String) : Outcome :=
  ⟨2, "",
    callee.usageLine ++ "Try '" ++ callee.path ++ " --help' for help.\n\nError: " ++ message
      ++ "\n",
    none⟩

/-- The run that ends with a mistake in an option. -/
def optionMisuse (callee : Callee) (e : OptionError) : Outcome :=
  match e with
  | .unknown _ _ => callee.misuse e.message
  | _ => ⟨2, "", "Error: " ++ e.message ++ "\n", none⟩

/-- The run that ends with a value that an option cannot have. -/
def invalidValue {ω : Type} (callee : Callee) (switch : Switch ω) (message : String) : Outcome :=
  let names := " / ".intercalate (switch.names.map fun name => "'" ++ name ++ "'")
  callee.misuse ("Invalid value for " ++ names ++ ": " ++ message)

/-- The words behind the name; a call for help or a mistake ends the run. -/
def words {ω : Type} [BEq ω] (callee : Callee) (g : Grammar ω) (help : ω) (args : List String) :
    Except Outcome (Words ω) :=
  match g.words args with
  | .error e => .error (callee.optionMisuse e)
  | .ok words => if words.has help then .error callee.help else .ok words

/-- Ends the run if there are operands although none are taken. -/
def noOperands (callee : Callee) : List String → Except Outcome Unit
  | [] => .ok ()
  | [only] => .error (callee.misuse ("Got unexpected extra argument (" ++ only ++ ")"))
  | several =>
    .error (callee.misuse ("Got unexpected extra arguments (" ++ " ".intercalate several ++ ")"))

/-- The operands joined by blanks; without any the run ends. -/
def joinedOperands (callee : Callee) (name : String) (operands : List String) :
    Except Outcome String :=
  if operands.isEmpty then .error (callee.misuse ("Missing argument '" ++ name ++ "...'."))
  else .ok (" ".intercalate operands)

end Callee

/-- The call for help that every command knows. -/
def helpSwitch {ω : Type} (option : ω) : Switch ω := ⟨option, ["--help"], false⟩

end MediaSearch.Cli
