/-
The functions of the query language, by name.
-/
import MediaSearch.Query.Expr

namespace MediaSearch.Query

/-- A function with one text as its argument. -/
inductive Leaf
  /-- A part of the item matches the argument. -/
  | text (field : Field)
  /-- The argument names a kind of media. -/
  | kind
  /-- The argument is a time string. -/
  | published (relation : Relation)
  deriving DecidableEq, Repr

/-- A function. -/
inductive Function
  /-- `and` -/
  | all
  /-- `or` -/
  | any
  /-- `not` -/
  | not
  /-- A function with one text as its argument. -/
  | leaf (leaf : Leaf)
  deriving DecidableEq, Repr

namespace Leaf

/-- The functions with one text as their argument, by name. -/
def named : List (String × Leaf) :=
  [("tag", .text .tag), ("type", .kind), ("site", .text .site), ("fulltext", .text .fulltext),
   ("title", .text .title), ("meta", .text .metadata), ("desc", .text .description),
   ("url", .text .url), ("after", .published .after), ("before", .published .before),
   ("during", .published .during)]

end Leaf

namespace Function

/-- Every function by name. -/
def named : List (String × Function) :=
  [("and", .all), ("or", .any), ("not", .not)] ++ Leaf.named.map fun (name, l) => (name, .leaf l)

/-- The function with a name in small letters. -/
def ofName? (name : String) : Option Function :=
  named.lookup name

end Function

end MediaSearch.Query
