/-
What a query asks of an item.

An `Expr` is a tree of conditions.  A condition on the time of publication keeps its
time string as it was written: it is resolved again whenever the condition is
tested, so that `today` stays today.
-/
import MediaSearch.Item.MediaKind

namespace MediaSearch.Query

/-- The parts of an item that a text is compared with. -/
inductive Field
  /-- The text of a tag, as a whole, in any case. -/
  | tag
  /-- The site's short name, exactly. -/
  | site
  /-- Any of the texts below, or the content of a text file. -/
  | fulltext
  /-- Part of the title, in any case. -/
  | title
  /-- Part of the metadata, in any case. -/
  | metadata
  /-- Part of the description, in any case. -/
  | description
  /-- Part of the address, in any case. -/
  | url
  deriving DecidableEq, Repr

/-- How the time of publication is compared. -/
inductive Relation
  /-- At the time or later; of a span, at its end or later. -/
  | after
  /-- At the time or earlier; of a span, at its start or earlier. -/
  | before
  /-- Within a span. -/
  | during
  deriving DecidableEq, Repr

/-- A condition on an item. -/
inductive Expr
  /-- Every one of the conditions holds. -/
  | all (conditions : List Expr)
  /-- One of the conditions holds. -/
  | any (conditions : List Expr)
  /-- The condition does not hold. -/
  | not (condition : Expr)
  /-- A part of the item matches a text. -/
  | text (field : Field) (value : String)
  /-- One of the item's files is of a kind. -/
  | kind (kind : MediaKind)
  /-- The time of publication stands in a relation to a time string. -/
  | published (relation : Relation) (time : String)
  /-- Something that is no condition, kept by the text that shows it. -/
  | foreign (shown : String)
  deriving BEq, Repr, Inhabited

end MediaSearch.Query
