/-
From the tokens of a query to its expression.

A form is an opening parenthesis, the name of a function in any case, its arguments
and a closing parenthesis.  `and` and `or` take one form or more, `not` takes one,
and every other function takes one text.  Arguments are checked while they are
read: a time string has to stand for something at the time of reading.
-/
import MediaSearch.Text.Lower
import MediaSearch.Text.Taken
import MediaSearch.Query.Function
import MediaSearch.Query.Lexer
import MediaSearch.Query.Rejection

namespace MediaSearch.Query

open Calendar

/-- What time strings are read against. -/
structure Clock where
  /-- The reference time. -/
  now : TimeString.Reference
  /-- The zone. -/
  zone : Zone

/-- The condition that a function of one text makes of its argument. -/
def Leaf.build (clock : Clock) (leaf : Leaf) (argument : String) : Except ParseError Expr :=
  match leaf with
  | .text field => .ok (.text field argument)
  | .kind =>
    match MediaKind.named.lookup (Text.lowered argument) with
    | some found => .ok (.kind found)
    | none => .error (.rejected (.unknownKind argument))
  | .published relation =>
    match TimeString.resolve argument clock.now clock.zone with
    | .ok spec =>
      if relation = .during && !spec.isSpan then .error (.rejected (.notASpan argument))
      else .ok (.published relation argument)
    | .error (.unreadable _) => .error (.rejected (.unreadableTime argument))
    | .error failure => .error (.timeFails failure)

/-- The argument of a function of one text, up to the end of its form; `name` is the function's
name as it is written. -/
def leafForm (clock : Clock) (name : String) (leaf : Leaf) (tokens : List Token) :
    Except ParseError (Taken Expr tokens) :=
  match tokens with
  | [] => .error (.rejected .incomplete)
  | .opening :: _ => .error (.rejected (.formAsText name))
  | .closing :: _ => .error (.rejected (.noText name))
  | .text argument :: .closing :: rest =>
    match leaf.build clock argument with
    | .ok expr => .ok ⟨expr, rest, by simp only [List.length_cons]; omega⟩
    | .error e => .error e
  | .text _ :: _ => .error (.rejected (.notOneText name))

mutual

/-- One form. -/
def form (clock : Clock) (tokens : List Token) : Except ParseError (Taken Expr tokens) :=
  match tokens with
  | [] => .error (.rejected .incomplete)
  | .text value :: _ => .error (.rejected (.textAsForm value))
  | .closing :: _ => .error (.rejected .closesNothing)
  | [.opening] => .error (.rejected .incomplete)
  | .opening :: .opening :: _ => .error (.rejected (.notAName .opening))
  | .opening :: .closing :: _ => .error (.rejected (.notAName .closing))
  | .opening :: .text name :: rest =>
    let within : rest.length ≤ (Token.opening :: Token.text name :: rest).length := by
      simp only [List.length_cons]; omega
    match Function.ofName? (Text.lowered name) with
    | none => .error (.rejected (.unknownFunction name))
    | some .all =>
      match forms clock rest with
      | .error e => .error e
      | .ok children =>
        if children.value.isEmpty then .error (.rejected (.noForm "and"))
        else .ok ((children.map .all).widen within)
    | some .any =>
      match forms clock rest with
      | .error e => .error e
      | .ok children =>
        if children.value.isEmpty then .error (.rejected (.noForm "or"))
        else .ok ((children.map .any).widen within)
    | some .not =>
      match form clock rest with
      | .error e => .error e
      | .ok ⟨child, .closing :: behind, shorter⟩ =>
        .ok ⟨.not child, behind, by simp only [List.length_cons] at shorter ⊢; omega⟩
      | .ok _ => .error (.rejected .notOneForm)
    | some (.leaf leaf) =>
      match leafForm clock name leaf rest with
      | .error e => .error e
      | .ok expr => .ok (expr.widen within)
termination_by (tokens.length, 0)

/-- Forms up to a closing parenthesis, which is read too. -/
def forms (clock : Clock) (tokens : List Token) : Except ParseError (Taken (List Expr) tokens) :=
  match tokens with
  | [] => .error (.rejected .incomplete)
  | .closing :: rest => .ok ⟨[], rest, by simp⟩
  | token :: rest =>
    match form clock (token :: rest) with
    | .error e => .error e
    | .ok first =>
      have := first.shorter
      match forms clock first.rest with
      | .error e => .error e
      | .ok others =>
        .ok ⟨first.value :: others.value, others.rest, Nat.lt_trans others.shorter first.shorter⟩
termination_by (tokens.length, 1)

end

/-- The form that starts at a place in the tokens, and the place behind it. -/
def formAt (clock : Clock) (tokens : List Token) (place : Nat) : Except ParseError (Expr × Nat) :=
  match form clock (tokens.drop place) with
  | .error e => .error e
  | .ok taken => .ok (taken.value, tokens.length - taken.rest.length)

/-- The expression of a query. -/
def parse (clock : Clock) (query : String) : Except ParseError Expr :=
  match tokenize? query with
  | none => .error (.rejected .incomplete)
  | some tokens =>
    match form clock tokens with
    | .error e => .error e
    | .ok expr =>
      if expr.rest.isEmpty then .ok expr.value
      else .error (.rejected (.leftover expr.rest))

end MediaSearch.Query
