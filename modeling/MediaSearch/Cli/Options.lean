/-
Options and operands on a command line.

A word that starts with a dash is an option, or several of one letter each; every
other word is an operand, and so is every word behind two dashes.  The value of an
option stands in the same word or in the next one.
-/
import MediaSearch.Cli.Suggest
import MediaSearch.Text.Quoted

namespace MediaSearch.Cli

/-- An option with its spellings. -/
structure Switch (ω : Type) where
  /-- What it sets. -/
  option : ω
  /-- Its spellings: two dashes and a word, or one dash and a letter. -/
  names : List String
  /-- Whether a value follows. -/
  takesValue : Bool

/-- Whether a word starts with two dashes. -/
def isLong (word : String) : Bool :=
  ['-', '-'].isPrefixOf word.toList

/-- What options and operands a command line has. -/
structure Grammar (ω : Type) where
  /-- The options. -/
  switches : List (Switch ω)
  /-- Whether options may follow operands. -/
  mixed : Bool

/-- The words of a command line, sorted out. -/
structure Words (ω : Type) where
  /-- The options with their values, in order. -/
  given : List (ω × String)
  /-- The operands. -/
  operands : List String

/-- What is wrong with an option. -/
inductive OptionError
  /-- There is no such option. -/
  | unknown (name : String) (close : List String)
  /-- The value is missing. -/
  | needsValue (name : String)
  /-- There is a value, but the option takes none. -/
  | takesNoValue (name : String)
  deriving DecidableEq, Repr

/-- What is wrong, in words. -/
def OptionError.message : OptionError → String
  | unknown name close =>
    "No such option: " ++ name
      ++ (match close with
        | [] => ""
        | [only] => " Did you mean " ++ only ++ "?"
        | several =>
          " (Possible options: " ++ ", ".intercalate (several.mergeSort (· ≤ ·)) ++ ")")
  | needsValue name => "Option " ++ Text.quoted name ++ " requires an argument."
  | takesNoValue name => "Option " ++ Text.quoted name ++ " does not take a value."

namespace Words

variable {ω : Type}

/-- No words. -/
def empty : Words ω := ⟨[], []⟩

/-- The words with options in front. -/
def withOptions (options : List (ω × String)) (words : Words ω) : Words ω :=
  { words with given := options ++ words.given }

/-- The words with an operand in front. -/
def withOperand (operand : String) (words : Words ω) : Words ω :=
  { words with operands := operand :: words.operands }

/-- Whether an option is there. -/
def has [BEq ω] (words : Words ω) (option : ω) : Bool :=
  words.given.any fun (other, _) => other == option

/-- The values of an option, in order. -/
def values [BEq ω] (words : Words ω) (option : ω) : List String :=
  words.given.filterMap fun (other, value) => if other == option then some value else none

/-- The value of an option; of several the last one. -/
def value? [BEq ω] (words : Words ω) (option : ω) : Option String :=
  (words.values option).getLast?

end Words

namespace Grammar

variable {ω : Type}

/-- The option with a spelling. -/
def find? (g : Grammar ω) (name : String) : Option (Switch ω) :=
  g.switches.find? fun switch => switch.names.contains name

/-- The spellings of more than one letter. -/
def longNames (g : Grammar ω) : List String :=
  (g.switches.flatMap Switch.names).filter isLong

/-- The options in a word, and the one among them that the next word is the value of. -/
abbrev Reading (ω : Type) := List (ω × String) × Option (ω × String)

/-- The options in a word of letters. -/
def letters (g : Grammar ω) : List Char → Except OptionError (Reading ω)
  | [] => .ok ([], none)
  | c :: rest =>
    let name := String.ofList ['-', c]
    match g.find? name with
    | none => .error (.unknown name [])
    | some switch =>
      if !switch.takesValue then
        (letters g rest).map fun (options, open?) => ((switch.option, "") :: options, open?)
      else if rest.isEmpty then .ok ([], some (switch.option, name))
      else .ok ([(switch.option, String.ofList rest)], none)

/-- The options in a word that starts with a dash. -/
def optionsIn (g : Grammar ω) (word : String) : Except OptionError (Reading ω) :=
  let cs := word.toList
  let name := String.ofList (cs.takeWhile (· != '='))
  let attached? :=
    match cs.dropWhile (· != '=') with
    | [] => none
    | _ :: value => some (String.ofList value)
  match if isLong name then g.find? name else none with
  | some switch =>
    match switch.takesValue, attached? with
    | true, some value => .ok ([(switch.option, value)], none)
    | true, none => .ok ([], some (switch.option, name))
    | false, none => .ok ([(switch.option, "")], none)
    | false, some _ => .error (.takesNoValue name)
  | none =>
    if isLong word then .error (.unknown name (closeNames g.longNames name))
    else letters g (cs.drop 1)

/-- Whether a word is an option. -/
def isOption (word : String) : Bool :=
  ['-'].isPrefixOf word.toList && 1 < word.length

/-- A command line, sorted out. -/
def words (g : Grammar ω) : List String → Except OptionError (Words ω)
  | [] => .ok .empty
  | word :: rest =>
    if word == "--" then .ok ⟨[], rest⟩
    else if isOption word then
      match g.optionsIn word with
      | .error e => .error e
      | .ok (options, none) => (words g rest).map (Words.withOptions options)
      | .ok (options, some (option, name)) =>
        match rest with
        | [] => .error (.needsValue name)
        | value :: rest =>
          (words g rest).map (Words.withOptions (options ++ [(option, value)]))
    else if g.mixed then (words g rest).map (Words.withOperand word)
    else .ok ⟨[], word :: rest⟩

end Grammar

end MediaSearch.Cli
