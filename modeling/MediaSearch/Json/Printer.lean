/-
JSON values as JSON text.

The text is ASCII: every other character is escaped by its UTF-16 units.  There are
two layouts, one line and indented by two blanks a level.
-/
import MediaSearch.Decimal.Shortest
import MediaSearch.Text.Quoted
import MediaSearch.Json.Value

namespace MediaSearch.Json

/-- How a number that is not finite is spelled in JSON texts. -/
def jsonSpelling : Decimal.Binary64.Spelling := ⟨"Infinity", "NaN"⟩

/-- One UTF-16 unit as an escape. -/
def unitEscape (unit : Nat) : List Char :=
  '\\' :: 'u' :: Text.hexDigits 4 unit

/-- One character of a text. -/
def escapedChar (c : Char) : List Char :=
  let n := c.toNat
  if c == '"' || c == '\\' then ['\\', c]
  else if c == '\n' then ['\\', 'n']
  else if c == '\r' then ['\\', 'r']
  else if c == '\t' then ['\\', 't']
  else if n == 8 then ['\\', 'b']
  else if n == 12 then ['\\', 'f']
  else if 32 ≤ n && n < 127 then [c]
  else if n < 0x10000 then unitEscape n
  else unitEscape (0xD800 + (n - 0x10000) / 0x400) ++ unitEscape (0xDC00 + (n - 0x10000) % 0x400)

/-- A text with its quotes. -/
def quotedText (text : String) : String :=
  String.ofList ('"' :: text.toList.flatMap escapedChar ++ ['"'])

/-- Where the parts of an array or object go. -/
inductive Layout
  /-- All on one line. -/
  | line
  /-- One part a line, indented by so many blanks. -/
  | block (indent : Nat)

namespace Layout

/-- The layout of the parts of a part. -/
def deeper : Layout → Layout
  | line => line
  | block indent => block (indent + 2)

/-- What stands before the first part. -/
def opening : Layout → String
  | line => ""
  | block indent => "\n" ++ "".pushn ' ' (indent + 2)

/-- What stands between two parts. -/
def between : Layout → String
  | line => ", "
  | block indent => ",\n" ++ "".pushn ' ' (indent + 2)

/-- What stands behind the last part. -/
def closing : Layout → String
  | line => ""
  | block indent => "\n" ++ "".pushn ' ' indent

end Layout

namespace Value

mutual

/-- A value in a layout. -/
def print (layout : Layout) : Value → String
  | null => "null"
  | bool value => if value then "true" else "false"
  | int value => toString value
  | float value => value.text jsonSpelling
  | string value => quotedText value
  | array [] => "[]"
  | array (item :: items) =>
    "[" ++ layout.opening ++ print layout.deeper item ++ printItems layout items
      ++ layout.closing ++ "]"
  | object [] => "\x7b\x7d"
  | object ((name, value) :: members) =>
    "\x7b" ++ layout.opening ++ quotedText name ++ ": " ++ print layout.deeper value
      ++ printMembers layout members ++ layout.closing ++ "\x7d"

/-- The further items of an array. -/
def printItems (layout : Layout) : List Value → String
  | [] => ""
  | item :: items => layout.between ++ print layout.deeper item ++ printItems layout items

/-- The further members of an object. -/
def printMembers (layout : Layout) : List (String × Value) → String
  | [] => ""
  | (name, value) :: members =>
    layout.between ++ quotedText name ++ ": " ++ print layout.deeper value
      ++ printMembers layout members

end

/-- A value on one line. -/
def compact (value : Value) : String := value.print .line

/-- A value over several lines. -/
def pretty (value : Value) : String := value.print (.block 0)

end Value

end MediaSearch.Json
