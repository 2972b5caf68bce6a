/-
The program: its own options, its configuration, and its commands.

The command is looked for before the configuration is read, and the configuration is
read before the words behind the command are looked at.
-/
import MediaSearch.Cli.Functions
import MediaSearch.Cli.InitConfig
import MediaSearch.Cli.ParseTime
import MediaSearch.Cli.Search

namespace MediaSearch.Cli

open Calendar
open Files (Access Path)

/-! ### The program's options -/

/-- What can be set. -/
inductive ProgramOption
  | config
  | noColor
  | verbose
  | debug
  | quiet
  | pager
  | noPager
  | version
  | help
  deriving DecidableEq, Repr

/-- What a call may look like. -/
def programGrammar : Grammar ProgramOption :=
  ⟨[⟨.config, ["--config", "-c"], true⟩, ⟨.noColor, ["--no-color"], false⟩,
    ⟨.verbose, ["--verbose", "-v"], false⟩, ⟨.debug, ["--debug"], false⟩,
    ⟨.quiet, ["--quiet", "-q"], false⟩, ⟨.pager, ["--pager"], false⟩,
    ⟨.noPager, ["--no-pager"], false⟩, ⟨.version, ["--version"], false⟩, helpSwitch .help], false⟩

/-- The version of the program. -/
def version : String := "0.1.0"

/-- What the program is asked for. -/
structure ProgramRequest where
  /-- The configuration file, if not the default one. -/
  config? : Option Path
  /-- How much is told. -/
  detail : Detail
  /-- Whether warnings are left out. -/
  quiet : Bool
  /-- The command and the words behind it. -/
  rest : List String

/-- Whether an option is answered at once, whatever else is there. -/
def isEager (option : ProgramOption) : Bool :=
  option = .help || option = .version

/-- The request that the words in front of the command make. -/
def ProgramRequest.ofArgs (args : List String) : Except Outcome ProgramRequest :=
  match programGrammar.words args with
  | .error e => .error (Callee.program.optionMisuse e)
  | .ok words =>
    match (words.given.map (·.1)).find? isEager with
    | some .version => .error (.success (programName ++ ", version " ++ version ++ "\n"))
    | some _ => .error Callee.program.help
    | none =>
      let debug := words.has .debug
      .ok ⟨(words.value? .config).map Path.ofString, ⟨words.has .verbose || debug, debug⟩,
        words.has .quiet, words.operands⟩

/-! ### The commands -/

/-- The mistake of a command that does not exist. -/
def unknownCommand (name : String) : Outcome :=
  let close := (closeNames (Command.everyone.map Command.name) name).map Text.quoted
  Callee.program.misuse ("No such command " ++ Text.quoted name ++ "."
    ++ (match close with
      | [] => ""
      | [only] => " Did you mean " ++ only ++ "?"
      | several => " (Possible commands: " ++ ", ".intercalate several ++ ")"))

/-- The command that shows how a command is called. -/
def helpCommand (args : List String) : Outcome :=
  match (Callee.command .help).words ⟨[helpSwitch ()], true⟩ () args with
  | .error outcome => outcome
  | .ok words =>
    let path := (Callee.command .help).path
    match words.operands with
    | [] => Callee.help ⟨path, programForm⟩
    | name :: _ =>
      match Command.ofName? name with
      | some command => Callee.help ⟨path, command.form⟩
      | none => .failure 1 ("Unknown command: " ++ name) none

variable {m : Type → Type} [Monad m]

/-- Runs a command on the words behind it. -/
def runCommand (files : Access m) (zones : ZoneSource) (now : Instant) (config : Config)
    (detail : Detail) (args : List String) : Command → m Outcome
  | .functions => pure (functionsCommand args)
  | .help => pure (helpCommand args)
  | .initConfig => initCommand files zones args
  | .parseTime => pure (timeCommand zones now config args)
  | .search => searchCommand files zones now config detail args

/-- Reads the configuration and runs a command. -/
def runConfigured (files : Access m) (zones : ZoneSource) (now : Instant)
    (request : ProgramRequest) (command : Command) (args : List String) : m Outcome := do
  match ← (Config.load files zones request.config?).run with
  | .error e => pure (configFailure "" e)
  | .ok (config, warnings) =>
    let told := if request.quiet then "" else String.join (warnings.map warningLine)
    pure ((← runCommand files zones now config request.detail args command).after told)

/-- A name that is no command's: one that looks like an option is read as one first. -/
def runUnknown (name : String) (rest : List String) : Outcome :=
  match ProgramRequest.ofArgs (name :: rest) with
  | .error outcome => outcome
  | .ok _ => unknownCommand name

/-- Runs the program. -/
def run (files : Access m) (zones : ZoneSource) (now : Instant) (args : List String) : m Outcome :=
  if args.isEmpty then pure ⟨2, "", Callee.program.usageLine, none⟩
  else
    match ProgramRequest.ofArgs args with
    | .error outcome => pure outcome
    | .ok request =>
      match request.rest with
      | [] => pure (Callee.program.misuse "Missing command.")
      | name :: rest =>
        match Command.ofName? name with
        | some command => runConfigured files zones now request command rest
        | none => pure (runUnknown name rest)

end MediaSearch.Cli
