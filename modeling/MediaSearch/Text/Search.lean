/-
Texts inside texts.
-/
import MediaSearch.Text.Lower

namespace MediaSearch.Text

/-- Whether a text occurs somewhere in another. -/
def occursIn (needle : List Char) : List Char → Bool
  | [] => needle.isEmpty
  | c :: rest => needle.isPrefixOf (c :: rest) || occursIn needle rest

/-- Whether a text in small letters occurs in another once that is in small letters too. -/
def mentions (text : String) (needle : List Char) : Bool :=
  occursIn needle (lower text.toList)

end MediaSearch.Text
