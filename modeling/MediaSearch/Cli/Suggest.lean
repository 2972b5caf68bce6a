/-
Names that were probably meant by one that does not exist.

Two words are close when enough of their letters line up: the longest piece that they
have in common, then the longest one before it and the longest one behind it, and so
on.  Of two pieces with the same length the one that comes first in the first word
counts, and then the one that comes first in the second.
-/

namespace MediaSearch.Cli

/-- How many letters two words have in common at their starts. -/
def commonStart : List Char → List Char → Nat
  | a :: as, b :: bs => if a == b then commonStart as bs + 1 else 0
  | _, _ => 0

/-- A piece that two words have in common. -/
structure CommonPiece where
  /-- Where it starts in the first word. -/
  first : Nat
  /-- Where it starts in the second word. -/
  second : Nat
  /-- How long it is. -/
  length : Nat

/-- The longer one of two pieces, the first one if they are as long. -/
def CommonPiece.longer (a b : CommonPiece) : CommonPiece :=
  if a.length < b.length then b else a

/-- The longest common piece that starts at the front of the first word. -/
def longestAt (first : Nat) (a : List Char) (b : List Char) : CommonPiece :=
  (List.range b.length).foldl
    (fun best second => best.longer ⟨first, second, commonStart a (b.drop second)⟩) ⟨0, 0, 0⟩

/-- The longest common piece of two words. -/
def longestCommon (a b : List Char) : CommonPiece :=
  (List.range a.length).foldl
    (fun best first => best.longer (longestAt first (a.drop first) b)) ⟨0, 0, 0⟩

/-- How many letters of two words line up, looking for pieces at most so many times over. -/
def linedUp : Nat → List Char → List Char → Nat
  | 0, _, _ => 0
  | depth + 1, a, b =>
    let piece := longestCommon a b
    if piece.length == 0 then 0
    else
      piece.length + linedUp depth (a.take piece.first) (b.take piece.second)
        + linedUp depth (a.drop (piece.first + piece.length))
            (b.drop (piece.second + piece.length))

/-- How close a name comes to a word: so many letters out of so many. -/
def closeness (name word : String) : Nat × Nat :=
  (2 * linedUp name.length name.toList word.toList, name.length + word.length)

/-- Whether one closeness is less than another, as fractions. -/
def isLess (a b : Nat × Nat) : Bool :=
  a.1 * b.2 < b.1 * a.2

/-- Whether a name comes close to a word: three fifths of the letters line up. -/
def isClose (name word : String) : Bool :=
  !isLess (closeness name word) (3, 5)

/-- Up to three names that come close to a word, the closest one first. -/
def closeNames (names : List String) (word : String) : List String :=
  let found := names.filter fun name => isClose name word
  (found.mergeSort fun a b => !isLess (closeness a word) (closeness b word)).take 3

end MediaSearch.Cli
