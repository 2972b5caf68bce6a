/-
Looking for places in a text.
-/

namespace MediaSearch.Text

/-- What follows the first place from which `after?` can read on, with what comes before it. -/
def findFrom? {α : Type} (after? : List Char → Option α) : List Char → Option (List Char × α)
  | [] => (after? []).map fun found => ([], found)
  | c :: rest =>
    match after? (c :: rest) with
    | some found => some ([], found)
    | none => (findFrom? after? rest).map fun (before, found) => (c :: before, found)

/-- What follows the first character of a kind. -/
def after? (c : Char) (text : List Char) : Option (List Char) :=
  match text.dropWhile (· != c) with
  | [] => none
  | _ :: rest => some rest

/-- What follows a word, in any case of its ASCII letters; the word is in small letters. -/
def afterWord? : List Char → List Char → Option (List Char)
  | [], text => some text
  | _ :: _, [] => none
  | w :: word, c :: text => if c.toLower == w then afterWord? word text else none

end MediaSearch.Text
