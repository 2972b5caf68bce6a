/-
The command that shows what a time string stands for.
-/
import MediaSearch.Cli.Cells
import MediaSearch.Cli.Command
import MediaSearch.Cli.Reference
import MediaSearch.Json.Printer

namespace MediaSearch.Cli

open Calendar

/-- What can be set. -/
inductive TimeOption
  | now
  | timezone
  | json
  | help
  deriving DecidableEq, Repr

/-- What a call may look like. -/
def timeGrammar : Grammar TimeOption :=
  ⟨[⟨.now, ["--now"], true⟩, ⟨.timezone, ["--timezone", "-z"], true⟩, ⟨.json, ["--json"], false⟩,
    helpSwitch .help], true⟩

/-- A time as a JSON object. -/
def timeJson : TimeSpec → Json.Value
  | .moment time => .object [("kind", .string "moment"), ("at", .int time)]
  | .span first last _ =>
    .object [("kind", .string "range"), ("start", .int first), ("end", .int last)]

/-- A time as a zone shows it. -/
def timeLines (z : Zone) : TimeSpec → String
  | .moment time => consoleLine ("Moment " ++ momentText z time)
  | .span first last _ =>
    consoleLine "Range" ++ consoleLine ("  start: " ++ momentText z first)
      ++ consoleLine ("  end:   " ++ momentText z last)

/-- What a time string stands for. -/
def answerTime (z : Zone) (reference : TimeString.Reference) (json : Bool) (text : String) :
    Outcome :=
  match TimeString.resolve text reference z with
  | .error (.unreadable text) =>
    .failure 1 ((TimeString.Failure.unreadable text).message?.getD "") none
  | .error f => .escaped (.time f)
  | .ok spec => .success (if json then (timeJson spec).compact ++ "\n" else timeLines z spec)

/-- The zone with the name that is given, or else that of the configuration. -/
def zoneFor (zones : ZoneSource) (config : Config) : Option String → Except Outcome Zone
  | none => (config.zoneIn zones).mapError fun e => .escaped (.config e)
  | some name =>
    match zones.named name with
    | .found zone => .ok zone
    | .unknown => .error (.failure 1 ("Unknown timezone: " ++ name) none)
    | .fails => .error (.escaped .zone)

/-- The command that shows what a time string stands for. -/
def timeCommand (zones : ZoneSource) (now : Instant) (config : Config) (args : List String) :
    Outcome :=
  let callee : Callee := .command .parseTime
  let checked : Except Outcome (Words TimeOption × String × Zone) := do
    let words ← callee.words timeGrammar .help args
    let text ← callee.joinedOperands "VALUE" words.operands
    pure (words, text, ← zoneFor zones config (words.value? .timezone))
  match checked with
  | .error outcome => outcome
  | .ok (words, text, zone) =>
    match (words.value? .now).elim (some (.instant now)) reference? with
    | some reference => answerTime zone reference (words.has .json) text
    | none =>
      .failure 1 ("Invalid --now value: " ++ (words.value? .now).getD "")
        (some "Use ISO 8601, e.g. 2025-01-15T12:00:00")

end MediaSearch.Cli
