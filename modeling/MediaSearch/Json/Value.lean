/-
JSON values.

The members of an object are kept as pairs, in order.  Whole numbers are exact and
apart from the numbers with a point or an exponent.
-/
import MediaSearch.Decimal.Binary64

namespace MediaSearch.Json

/-- A JSON value. -/
inductive Value
  /-- `null` -/
  | null
  /-- `true` or `false` -/
  | bool (value : Bool)
  /-- A whole number. -/
  | int (value : Int)
  /-- A number with a point or an exponent, or one of the values that are not finite. -/
  | float (value : Decimal.Binary64)
  /-- A text. -/
  | string (value : String)
  /-- An array. -/
  | array (items : List Value)
  /-- An object. -/
  | object (members : List (String × Value))
  deriving Inhabited

namespace Value

/-- The member of an object with a name. -/
def member? (name : String) : Value → Option Value
  | object members => members.lookup name
  | _ => none

/-- The name of the value's type, as messages give it. -/
def typeName : Value → String
  | null => "NoneType"
  | bool _ => "bool"
  | int _ => "int"
  | float _ => "float"
  | string _ => "str"
  | array _ => "list"
  | object _ => "dict"

/-- Whether a value counts as set: neither null, false, zero nor empty. -/
def isSet : Value → Bool
  | null => false
  | bool value => value
  | int value => value != 0
  | float value => !value.isZero
  | string value => !value.isEmpty
  | array items => !items.isEmpty
  | object members => !members.isEmpty

end Value

end MediaSearch.Json
