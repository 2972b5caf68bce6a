/-
JSON values in messages.

Texts stand in quotes, `null`, `true` and `false` are written `None`, `True` and
`False`, and the members of arrays and objects are separated by a comma and a space.
-/
import MediaSearch.Decimal.Shortest
import MediaSearch.Text.Quoted
import MediaSearch.Json.Value

namespace MediaSearch.Json

/-- How a number that is not finite is spelled outside JSON texts. -/
def plainSpelling : Decimal.Binary64.Spelling := ⟨"inf", "nan"⟩

namespace Value

mutual

/-- A value as a message shows it. -/
def display : Value → String
  | null => "None"
  | bool value => if value then "True" else "False"
  | int value => toString value
  | float value => value.text plainSpelling
  | string value => Text.quoted value
  | array items => "[" ++ displayItems items ++ "]"
  | object members => "\x7b" ++ displayMembers members ++ "\x7d"

/-- The items of an array. -/
def displayItems : List Value → String
  | [] => ""
  | [item] => display item
  | item :: items => display item ++ ", " ++ displayItems items

/-- The members of an object. -/
def displayMembers : List (String × Value) → String
  | [] => ""
  | [(name, value)] => Text.quoted name ++ ": " ++ display value
  | (name, value) :: members =>
    Text.quoted name ++ ": " ++ display value ++ ", " ++ displayMembers members

end

end Value

end MediaSearch.Json
