/-
The pieces of a text between the occurrences of a character.

A text has one piece more than it has the character in it, so an empty text is one
empty piece.
-/

namespace MediaSearch.Text

/-- The pieces of a text between the occurrences of a character. -/
def pieces (mark : Char) : List Char → List (List Char)
  | [] => [[]]
  | c :: rest =>
    if c == mark then [] :: pieces mark rest
    else
      match pieces mark rest with
      | piece :: others => (c :: piece) :: others
      | [] => [[c]]

/-- Pieces with a character between them. -/
def joined (mark : Char) : List (List Char) → List Char
  | [] => []
  | [piece] => piece
  | piece :: others => piece ++ mark :: joined mark others

end MediaSearch.Text
