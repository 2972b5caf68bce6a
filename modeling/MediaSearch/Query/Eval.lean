/-
Testing items against an expression.

Conditions are tested from left to right, and no further than the answer needs: a
condition that is not reached cannot fail.  A time string is resolved against the
clock of the test, not the one that the query was read with.
-/
import MediaSearch.Item.Metadata
import MediaSearch.Item.Text
import MediaSearch.Query.Parser

namespace MediaSearch.Query

/-- Why an item cannot be tested. -/
inductive EvalError
  /-- A time string no longer stands for anything. -/
  | unresolved (time : String)
  /-- A time string fails for another reason than its form. -/
  | timeFails (failure : TimeString.Failure)
  /-- There is something in the expression that is no condition. -/
  | foreign (shown : String)
  /-- The description's markup is refused. -/
  | markupRefused
  deriving DecidableEq

/-- The message that an error is reported with, where it has one. -/
def EvalError.message? : EvalError → Option String
  | unresolved time =>
    some ("Time string should have been validated while parsing: " ++ Text.quoted time)
  | timeFails failure => failure.message?
  | foreign shown => some ("Unknown search expression: " ++ shown)
  | markupRefused => none

/-- What a time string of an expression stands for. -/
def resolved (clock : Clock) (time : String) : Except EvalError TimeSpec :=
  match TimeString.resolve time clock.now clock.zone with
  | .ok spec => .ok spec
  | .error (.unreadable _) => .error (.unresolved time)
  | .error failure => .error (.timeFails failure)

/-- Whether a time of publication stands in a relation to a time. -/
def Relation.holds (published : Int) (spec : TimeSpec) : Relation → Bool
  | after => spec.forAfter ≤ published
  | before => published ≤ spec.forBefore
  | during => spec.contains published

/-- Whether a text in small letters occurs in the description. -/
def descriptionMentions (item : Item) (needle : List Char) : Except EvalError Bool :=
  match item.description.text? with
  | some text => .ok (Text.mentions text needle)
  | none => .error .markupRefused

/-- Whether a text in small letters occurs in one of the item's text files. -/
def filesMention (item : Item) (needle : List Char) : Bool :=
  item.flatFiles.values.any fun file =>
    match file with
    | .inlineText _ content => Text.mentions content needle
    | _ => false

/-- Whether a part of an item matches a text. -/
def Field.matches (item : Item) (value : String) (field : Field) : Except EvalError Bool :=
  let needle := Text.lower value.toList
  match field with
  | .tag => .ok (item.tags.any fun tag => Text.lowered tag.value == String.ofList needle)
  | .site => .ok (item.site == value)
  | .title => .ok (Text.mentions item.title needle)
  | .url => .ok (Text.mentions item.url needle)
  | .description => descriptionMentions item needle
  | .metadata => .ok (item.metadata.mentions needle)
  | .fulltext => do
    if Text.mentions item.title needle || Text.mentions item.url needle then pure true
    else if ← descriptionMentions item needle then pure true
    else pure (item.metadata.mentions needle || filesMention item needle)

mutual

/-- Whether an item meets a condition. -/
def Expr.holds (clock : Clock) (item : Item) : Expr → Except EvalError Bool
  | .all conditions => Expr.allHold clock item conditions
  | .any conditions => Expr.anyHolds clock item conditions
  | .not condition => do pure !(← Expr.holds clock item condition)
  | .text field value => field.matches item value
  | .kind wanted => .ok (item.flatFiles.values.any fun file => file.kind? == some wanted)
  | .published relation time => do
    pure (relation.holds item.published (← resolved clock time))
  | .foreign shown => .error (.foreign shown)

/-- Whether an item meets every condition, up to the first that it does not meet. -/
def Expr.allHold (clock : Clock) (item : Item) : List Expr → Except EvalError Bool
  | [] => .ok true
  | condition :: conditions => do
    if ← Expr.holds clock item condition then Expr.allHold clock item conditions else pure false

/-- Whether an item meets a condition, up to the first that it meets. -/
def Expr.anyHolds (clock : Clock) (item : Item) : List Expr → Except EvalError Bool
  | [] => .ok false
  | condition :: conditions => do
    if ← Expr.holds clock item condition then pure true else Expr.anyHolds clock item conditions

end

section

variable {clock : Clock} {item : Item}

@[simp] theorem not_holds {condition : Expr} :
    (Expr.not condition).holds clock item = condition.holds clock item >>= fun b => pure !b := by
  rw [Expr.holds]

@[simp] theorem text_holds {field : Field} {value : String} :
    (Expr.text field value).holds clock item = field.matches item value := by
  rw [Expr.holds]

@[simp] theorem kind_holds {wanted : MediaKind} :
    (Expr.kind wanted).holds clock item
      = .ok (item.flatFiles.values.any fun file => file.kind? == some wanted) := by
  rw [Expr.holds]

@[simp] theorem published_holds {relation : Relation} {time : String} :
    (Expr.published relation time).holds clock item
      = resolved clock time >>= fun spec => pure (relation.holds item.published spec) := by
  rw [Expr.holds]

@[simp] theorem foreign_holds {shown : String} :
    (Expr.foreign shown).holds clock item = .error (.foreign shown) := by
  rw [Expr.holds]

end

end MediaSearch.Query
