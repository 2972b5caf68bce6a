/-
Texts in TOML.

There are four ways to write a text: in double or single quotes, and in three of
either over several lines.  Only double quotes know escapes.  Over several lines the
first line feed is dropped, and up to two quotes may stand before the closing ones.
-/
import MediaSearch.Text.Digits

namespace MediaSearch.Toml

/-- Whether a character cannot stand in a text of one line or in a comment. -/
def isIllegal (c : Char) : Bool :=
  (c.toNat < 32 && c != '\t') || c.toNat == 127

/-- Whether a character cannot stand in a text of several lines. -/
def isIllegalOverLines (c : Char) : Bool :=
  isIllegal c && c != '\n'

/-- A text and what follows it. -/
abbrev Reading := Option (List Char × List Char)

/-- A reading with a character in front of its text. -/
def Reading.cons (c : Char) (r : Reading) : Reading :=
  r.map fun (text, rest) => (c :: text, rest)

/-- The character that a one-letter escape stands for. -/
def escape? : Char → Option Char
  | 'b' => some '\x08'
  | 't' => some '\t'
  | 'n' => some '\n'
  | 'f' => some '\x0c'
  | 'r' => some '\r'
  | '"' => some '"'
  | '\\' => some '\\'
  | _ => none

/-- The character with a number in hexadecimal digits. -/
def hexChar? (digits : List Char) : Option Char :=
  if digits.all Text.isHexDigit then
    let n := Text.hexValue digits
    if h : n.isValidChar then some (Char.ofNatAux n h) else none
  else none

/-- A text up to its closing double quote. -/
def basic : List Char → Reading
  | [] => none
  | '"' :: rest => some ([], rest)
  | '\\' :: 'u' :: a :: b :: c :: d :: rest => do
    let c ← hexChar? [a, b, c, d]
    (basic rest).cons c
  | '\\' :: 'U' :: a :: b :: c :: d :: e :: f :: g :: h :: rest => do
    let c ← hexChar? [a, b, c, d, e, f, g, h]
    (basic rest).cons c
  | '\\' :: c :: rest => do
    let c ← escape? c
    (basic rest).cons c
  | c :: rest => if c == '\\' || isIllegal c then none else (basic rest).cons c

/-- A text up to its closing single quote. -/
def literal : List Char → Reading
  | [] => none
  | c :: rest =>
    if c == '\'' then some ([], rest) else if isIllegal c then none else (literal rest).cons c

/-- Up to two quotes that belong to a text although its closing ones have been read. -/
def extraQuotes (quote : Char) : List Char → List Char × List Char
  | a :: b :: rest =>
    if a != quote then ([], a :: b :: rest)
    else if b != quote then ([a], b :: rest)
    else ([a, b], rest)
  | [a] => if a == quote then ([a], []) else ([], [a])
  | [] => ([], [])

/-- Where a text of several lines is after a backslash at the end of a line. -/
inductive Fold
  /-- Not there. -/
  | none
  /-- On that line still. -/
  | before
  /-- On the lines after it. -/
  | after
  deriving DecidableEq

/-- A text of several lines up to its three closing double quotes. -/
def basicLines (fold : Fold) : List Char → Reading
  | [] => none
  | c :: rest =>
    if fold = .before then
      if c == ' ' || c == '\t' then basicLines .before rest
      else if c == '\n' then basicLines .after rest
      else none
    else if fold = .after && (c == ' ' || c == '\t' || c == '\n') then basicLines .after rest
    else
      match c, rest with
      | '"', '"' :: '"' :: behind => some (extraQuotes '"' behind)
      | '\\', 'u' :: p :: q :: r :: s :: behind => do
        let c ← hexChar? [p, q, r, s]
        (basicLines .none behind).cons c
      | '\\', 'U' :: p :: q :: r :: s :: t :: u :: v :: w :: behind => do
        let c ← hexChar? [p, q, r, s, t, u, v, w]
        (basicLines .none behind).cons c
      | '\\', '\n' :: behind => basicLines .after behind
      | '\\', ' ' :: behind => basicLines .before behind
      | '\\', '\t' :: behind => basicLines .before behind
      | '\\', e :: behind => do
        let c ← escape? e
        (basicLines .none behind).cons c
      | c, rest =>
        if c == '\\' || isIllegalOverLines c then none else (basicLines .none rest).cons c

/-- A text of several lines up to its three closing single quotes. -/
def literalLines : List Char → Reading
  | [] => none
  | '\'' :: '\'' :: '\'' :: rest => some (extraQuotes '\'' rest)
  | c :: rest => if isIllegalOverLines c then none else (literalLines rest).cons c

/-- A text without a line feed at its start. -/
def withoutFirstFeed : List Char → List Char
  | '\n' :: rest => rest
  | rest => rest

/-- A text in any of the four ways. -/
def text? : List Char → Reading
  | '"' :: '"' :: '"' :: rest => basicLines .none (withoutFirstFeed rest)
  | '\'' :: '\'' :: '\'' :: rest => literalLines (withoutFirstFeed rest)
  | '"' :: rest => basic rest
  | '\'' :: rest => literal rest
  | _ => none

end MediaSearch.Toml
