/-
The pieces of an HTML text.
-/

namespace MediaSearch.Markup

/-- A piece of an HTML text. -/
inductive Token
  /-- Characters of the text, references decoded. -/
  | text (content : List Char)
  /-- Characters that stand as they are written, in a place of their own. -/
  | verbatim (content : List Char)
  /-- The start of an element. -/
  | start (name : String)
  /-- An element that is closed where it starts. -/
  | closed (name : String)
  /-- The end of an element. -/
  | finish (name : String)
  /-- Something without text: a comment, a declaration, an instruction. -/
  | gap
  deriving Repr

end MediaSearch.Markup
