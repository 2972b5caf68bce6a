/-
One page of a result at a time.
-/
import MediaSearch.Decimal.Binary64

namespace MediaSearch.Query

/-- One page of a list. -/
structure Page (α : Type) where
  /-- What is on the page. -/
  items : List α
  /-- The number of the page, from 1. -/
  page : Int
  /-- How many items a full page has. -/
  perPage : Int
  /-- How many items there are on all pages. -/
  total : Nat
  deriving Repr

/-- Why there is no such page. -/
inductive PageError
  /-- The number of the page is less than 1. -/
  | page (value : Int)
  /-- The size of a page is less than 1. -/
  | perPage (value : Int)
  deriving DecidableEq, Repr

/-- The message that an error is reported with. -/
def PageError.message : PageError → String
  | page value => "page must be at least 1, got " ++ toString value
  | perPage value => "per_page must be at least 1, got " ++ toString value

/-- A page of a list; a page behind the last one is empty. -/
def paginate {α : Type} (items : List α) (page perPage : Int) : Except PageError (Page α) :=
  if page < 1 then .error (.page page)
  else if perPage < 1 then .error (.perPage perPage)
  else
    let start := ((page - 1) * perPage).toNat
    .ok ⟨(items.drop start).take perPage.toNat, page, perPage, items.length⟩

/-- Why the pages cannot be counted. -/
inductive CountError
  /-- A page has no items. -/
  | noItemsPerPage
  /-- The quotient is too large. -/
  | tooMany
  deriving DecidableEq, Repr

/-- How many pages there are: the quotient as a 64-bit number, rounded up. -/
def pageCount (total perPage : Int) : Except CountError Int :=
  if perPage == 0 then .error .noItemsPerPage
  else
    let negative := decide (total < 0) != decide (perPage < 0)
    match (Decimal.Binary64.ofRatio negative total.natAbs perPage.natAbs).ceiling? with
    | some count => .ok count
    | none => .error .tooMany

/-- How many pages the result of a page has. -/
def Page.pageCount {α : Type} (p : Page α) : Except CountError Int :=
  Query.pageCount p.total p.perPage

end MediaSearch.Query
