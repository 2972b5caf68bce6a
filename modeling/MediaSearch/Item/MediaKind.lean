/-
The kinds of media that a query can ask for.
-/

namespace MediaSearch

/-- A kind of media. -/
inductive MediaKind
  | image
  | video
  | text
  deriving DecidableEq, Repr

/-- The kinds by their names. -/
def MediaKind.named : List (String × MediaKind) :=
  [("image", .image), ("video", .video), ("text", .text)]

/-- The name of a kind. -/
def MediaKind.name : MediaKind → String
  | image => "image"
  | video => "video"
  | text => "text"

end MediaSearch
