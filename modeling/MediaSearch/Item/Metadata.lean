/-
Searching metadata.

Metadata is any JSON value.  What can be found in it is every text, every member's
name and every number as it is written out; truth values and nulls never match.
-/
import MediaSearch.Decimal.Shortest
import MediaSearch.Json.Display
import MediaSearch.Text.Search

namespace MediaSearch.Json.Value

mutual

/-- Whether a text in small letters occurs somewhere in a value. -/
@[simp]
def mentions (needle : List Char) : Value → Bool
  | string value => Text.mentions value needle
  | object members => membersMention needle members
  | array items => itemsMention needle items
  | int value => Text.mentions (toString value) needle
  | float value => Text.mentions (value.text plainSpelling) needle
  | bool _ => false
  | null => false

/-- Whether a text in small letters occurs in an item of an array. -/
@[simp]
def itemsMention (needle : List Char) : List Value → Bool
  | [] => false
  | item :: items => mentions needle item || itemsMention needle items

/-- Whether a text in small letters occurs in a member of an object or in its name. -/
@[simp]
def membersMention (needle : List Char) : List (String × Value) → Bool
  | [] => false
  | (name, value) :: members =>
    Text.mentions name needle || mentions needle value || membersMention needle members

end

/-- Whether a text occurs in a value, in any case. -/
def contains (value : Value) (text : String) : Bool :=
  value.mentions (Text.lower text.toList)

end MediaSearch.Json.Value
