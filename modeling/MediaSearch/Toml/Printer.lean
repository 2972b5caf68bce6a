/-
Lines of TOML that set a text or a list of texts.

Every text goes between double quotes on one line, so a text can hold anything and
still be read back as it is.
-/
import MediaSearch.Text.Quoted

namespace MediaSearch.Toml

/-- The escape of a character, for one that cannot stand for itself. -/
def escapeOf? (c : Char) : Option (List Char) :=
  if c == '"' then some ['\\', '"']
  else if c == '\\' then some ['\\', '\\']
  else if c == '\x08' then some ['\\', 'b']
  else if c == '\t' then some ['\\', 't']
  else if c == '\n' then some ['\\', 'n']
  else if c == '\x0c' then some ['\\', 'f']
  else if c == '\r' then some ['\\', 'r']
  else if c.toNat < 32 || c.toNat == 127 then some ('\\' :: 'u' :: Text.hexDigits 4 c.toNat)
  else none

/-- A text between quotes. -/
def quoted (text : String) : String :=
  String.ofList ('"' :: (text.toList.flatMap fun c => (escapeOf? c).getD [c]) ++ ['"'])

/-- A line that sets a text. -/
def textLine (key value : String) : String :=
  key ++ " = " ++ quoted value

/-- The lines that set a list of texts, one line for each. -/
def textsLines (key : String) (values : List String) : String :=
  key ++ " = [\n" ++ String.join (values.map fun value => "    " ++ quoted value ++ ",\n") ++ "]"

end MediaSearch.Toml
