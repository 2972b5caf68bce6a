/-
Searching a list of items.
-/
import MediaSearch.Query.Eval
import MediaSearch.Query.Page

namespace MediaSearch.Query

/-- The items that meet a condition, in order. -/
def select (clock : Clock) (condition : Expr) : List Item → Except EvalError (List Item)
  | [] => .ok []
  | item :: items => do
    let found ← condition.holds clock item
    let others ← select clock condition items
    pure (if found then item :: others else others)

/-- Items with the newest first; of two published at the same time the first stays first. -/
def newestFirst (items : List Item) : List Item :=
  items.mergeSort fun a b => b.published ≤ a.published

/-- How many items a page has when nothing else is asked for. -/
def defaultPerPage : Int := 15

/-- Why a search has no result. -/
inductive SearchError
  /-- An item cannot be tested. -/
  | eval (error : EvalError)
  /-- There is no such page. -/
  | page (error : PageError)
  deriving DecidableEq

/-- One page of the items that meet a condition, the newest first. -/
def search (clock : Clock) (condition : Expr) (items : List Item) (page perPage : Int) :
    Except SearchError (Page Item) := do
  let found ← (select clock condition items).mapError .eval
  (paginate (newestFirst found) page perPage).mapError .page

end MediaSearch.Query
