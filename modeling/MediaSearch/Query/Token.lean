/-
The tokens of a query.

A query is made of parentheses and texts.  A text can be written in double quotes,
where a backslash makes the next character literal, and then it may hold anything.
-/

namespace MediaSearch.Query

/-- A token. -/
inductive Token
  /-- `(` -/
  | opening
  /-- `)` -/
  | closing
  /-- A text. -/
  | text (value : String)
  deriving DecidableEq, Repr

/-- One character between quotes. -/
def quotedChar (c : Char) : List Char :=
  if c == '\\' || c == '"' then ['\\', c] else [c]

/-- A text in double quotes. -/
def inQuotes (text : List Char) : List Char :=
  '"' :: text.flatMap quotedChar ++ ['"']

/-- A token as it can be written in a query. -/
def Token.print : Token → String
  | opening => "("
  | closing => ")"
  | text value => String.ofList (inQuotes value.toList)

end MediaSearch.Query
