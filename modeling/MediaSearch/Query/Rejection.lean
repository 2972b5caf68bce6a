/-
Why a query is rejected.

There are five kinds of rejection; each cause belongs to one, and has its own words.
-/
import MediaSearch.Query.Token
import MediaSearch.TimeString.Resolve

namespace MediaSearch.Query

/-- Why a query is rejected. -/
inductive Rejection
  /-- The query ends too early. -/
  | incomplete
  /-- A text stands where a form has to start. -/
  | textAsForm (value : String)
  /-- A parenthesis is closed that is not open. -/
  | closesNothing
  /-- A form starts with something that is no name. -/
  | notAName (token : Token)
  /-- Tokens follow the expression. -/
  | leftover (tokens : List Token)
  /-- No function has the name. -/
  | unknownFunction (name : String)
  /-- `and` or `or` without a form. -/
  | noForm (name : String)
  /-- `not` with more than one form. -/
  | notOneForm
  /-- A form where a text has to stand. -/
  | formAsText (name : String)
  /-- No text where one has to stand. -/
  | noText (name : String)
  /-- More than one text, or an end where the form has to be closed. -/
  | notOneText (name : String)
  /-- No kind of media has the name. -/
  | unknownKind (argument : String)
  /-- A moment where a span has to stand. -/
  | notASpan (argument : String)
  /-- The argument is no time string. -/
  | unreadableTime (argument : String)
  deriving DecidableEq, Repr

namespace Rejection

/-- The five kinds of rejection. -/
inductive Kind
  | unexpectedToken
  | unexpectedEnd
  | invalidFunction
  | invalidArgument
  | invalidTimestamp
  deriving DecidableEq, Repr

/-- The kind of a rejection. -/
def kind : Rejection → Kind
  | incomplete => .unexpectedEnd
  | textAsForm _ | closesNothing | notAName _ | leftover _ => .unexpectedToken
  | unknownFunction _ => .invalidFunction
  | noForm _ | notOneForm | formAsText _ | noText _ | notOneText _ | unknownKind _ | notASpan _ =>
    .invalidArgument
  | unreadableTime _ => .invalidTimestamp

/-- What is wrong, in words. -/
def detail : Rejection → String
  | incomplete => ""
  | textAsForm value => "Unexpected string token at top level: " ++ value
  | closesNothing => "Unexpected ')'"
  | notAName token => token.print
  | leftover tokens =>
    "Unexpected tokens after expression: " ++ " ".intercalate (tokens.map Token.print)
  | unknownFunction name => name
  | noForm name => name ++ " requires at least one argument"
  | notOneForm => "not requires exactly one argument"
  | formAsText name => name ++ " requires a string argument"
  | noText name => name ++ " requires an argument"
  | notOneText name => name ++ " requires exactly one argument"
  | unknownKind argument => "type must be 'image', 'video', or 'text', got: " ++ argument
  | notASpan argument => "during requires a time range, not a specific moment: " ++ argument
  | unreadableTime argument => argument

/-- The message that a rejection is reported with. -/
def message (r : Rejection) : String :=
  match r.kind with
  | .unexpectedToken => "Unexpected token: " ++ r.detail
  | .unexpectedEnd => "Unexpected end of input"
  | .invalidFunction => "Invalid function: " ++ r.detail
  | .invalidArgument => "Invalid argument: " ++ r.detail
  | .invalidTimestamp => "Invalid timestamp: " ++ r.detail

end Rejection

/-- Why reading a query stops: it is rejected, or one of its time strings cannot be worked out for
another reason than its form. -/
inductive ParseError
  /-- The query is rejected. -/
  | rejected (reason : Rejection)
  /-- A time string fails. -/
  | timeFails (failure : TimeString.Failure)
  deriving DecidableEq

end MediaSearch.Query
