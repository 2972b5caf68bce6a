/-
TOML values, and what can be wrong with a text that should have them in it.
-/
import MediaSearch.Decimal.Binary64

namespace MediaSearch.Toml

/-- A TOML value. -/
inductive Value
  /-- A text. -/
  | string (value : String)
  /-- A whole number. -/
  | int (value : Int)
  /-- A number with a point or an exponent, or one that is not finite. -/
  | float (value : Decimal.Binary64)
  /-- A truth value. -/
  | bool (value : Bool)
  /-- A date, a time or both, as it is written. -/
  | time (written : String)
  /-- An array. -/
  | array (items : List Value)
  /-- A table. -/
  | table (members : List (String × Value))
  deriving Inhabited

/-- The members of a table. -/
abbrev Table := List (String × Value)

/-- Why a text is no TOML document. -/
inductive Flaw
  /-- It goes against the syntax. -/
  | malformed
  /-- A whole number has more digits than are read. -/
  | tooManyDigits
  deriving DecidableEq

/-- Something that the syntax demands. -/
def demanded {α : Type} : Option α → Except Flaw α
  | some a => .ok a
  | none => .error .malformed

/-- Whether other values can stand in a value. -/
def Value.isNest : Value → Bool
  | array _ => true
  | table _ => true
  | _ => false

end MediaSearch.Toml
