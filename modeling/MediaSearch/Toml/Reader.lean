/-
The statements of a TOML document.

A statement sets a value under a key, opens a table or opens one more table of an
array.  A value can hold others, so arrays and inline tables are read by readers
that call each other, each on a shorter text.  The first flaw ends the reading, whatever
is behind it.
-/
import MediaSearch.Text.Taken
import MediaSearch.Toml.Document
import MediaSearch.Toml.Scalar
import MediaSearch.Toml.Text

namespace MediaSearch.Toml

/-! ### Blanks and comments -/

/-- What follows blanks on the same line. -/
def skipBlanks (text : List Char) : List Char :=
  text.dropWhile fun c => c == ' ' || c == '\t'

/-- What follows blanks, line feeds and comments, unless a comment has an illegal character. -/
def skipLines (inComment : Bool) : List Char → Option (List Char)
  | [] => some []
  | c :: rest =>
    if c == '\n' then skipLines false rest
    else if inComment then if isIllegal c then none else skipLines true rest
    else if c == ' ' || c == '\t' then skipLines false rest
    else if c == '#' then skipLines true rest
    else some (c :: rest)

/-- What follows the end of a line, behind blanks and a comment. -/
def lineEnd? (text : List Char) : Option (List Char) :=
  match skipBlanks text with
  | [] => some []
  | '\n' :: rest => some rest
  | '#' :: rest =>
    if (rest.takeWhile (· != '\n')).any isIllegal then none
    else some ((rest.dropWhile (· != '\n')).drop 1)
  | _ => none

/-! ### Keys -/

/-- Whether a character can stand in a key without quotes. -/
def isBareKey (c : Char) : Bool :=
  c.isAlphanum || c == '-' || c == '_'

/-- One part of a key, and what follows it. -/
def keyPart? (text : List Char) : Option (String × List Char) :=
  match text with
  | [] => none
  | '"' :: rest => (basic rest).map fun (part, rest) => (String.ofList part, rest)
  | '\'' :: rest => (literal rest).map fun (part, rest) => (String.ofList part, rest)
  | c :: rest =>
    if isBareKey c then
      some (String.ofList (c :: rest.takeWhile isBareKey), rest.dropWhile isBareKey)
    else none

/-- A key of parts with points between them, and what follows it and blanks. -/
def key? (text : List Char) : Option (List String × List Char) :=
  match keyPart? text with
  | none => none
  | some (part, rest) =>
    match skipBlanks rest with
    | '.' :: behind =>
      let next := skipBlanks behind
      if next.length < text.length then
        (key? next).map fun (parts, rest) => (part :: parts, rest)
      else none
    | rest => some ([part], rest)
termination_by text.length

/-- A key, its equals sign and blanks, and what follows them. -/
def keyAndSign? (text : List Char) : Option (List String × List Char) := do
  let (key, rest) ← key? text
  match rest with
  | '=' :: rest => pure (key, skipBlanks rest)
  | _ => none

/-! ### Values -/

/-- A reading as one that leaves less than it was given. -/
def shortened {α : Type} (text : List Char) (found : α × List Char) : Except Flaw (Taken α text) :=
  if h : found.2.length < text.length then .ok ⟨found.1, found.2, h⟩ else .error .malformed

mutual

/-- A value. -/
def readValue : (text : List Char) → Except Flaw (Taken Value text)
  | '[' :: rest => (readItems rest).map fun found => (found.map .array).widen (by simp)
  | '\x7b' :: rest =>
    match skipBlanks rest with
    | '\x7d' :: behind => shortened _ (.table [], behind)
    | start =>
      if h : start.length ≤ rest.length then
        (readMembers .empty start).map fun found =>
          (found.map fun nest => Value.table nest.members).widen
            (by simp only [List.length_cons]; omega)
      else .error .malformed
  | text =>
    match text? text with
    | some (found, rest) => shortened text (.string (String.ofList found), rest)
    | none => readScalar text >>= shortened text
termination_by text => 2 * text.length

/-- The items of an array that is open, and its end. -/
def readItems (text : List Char) : Except Flaw (Taken (List Value) text) :=
  match skipLines false text with
  | none => .error .malformed
  | some (']' :: rest) => shortened text ([], rest)
  | some start =>
    if _h : start.length ≤ text.length then
      match readValue start with
      | .error e => .error e
      | .ok first =>
        match skipLines false first.rest with
        | some (']' :: rest) => shortened text ([first.value], rest)
        | some (',' :: rest) =>
          if _h : rest.length < text.length then
            (readItems rest).map fun others =>
              (others.map (first.value :: ·)).widen (by omega)
          else .error .malformed
        | _ => .error .malformed
    else .error .malformed
termination_by 2 * text.length + 1

/-- The members of an inline table that is open, behind those that are in it already, and its
end. -/
def readMembers (nest : Nest) (text : List Char) : Except Flaw (Taken Nest text) :=
  match keyAndSign? text with
  | none => .error .malformed
  | some (key, start) =>
    if _h : start.length < text.length then
      match readValue start with
      | .error e => .error e
      | .ok first =>
        match nest.put? key first.value with
        | none => .error .malformed
        | some nest =>
          match skipBlanks first.rest with
          | '\x7d' :: rest => shortened text (nest, rest)
          | ',' :: behind =>
            let next := skipBlanks behind
            if _h : next.length < text.length then
              (readMembers nest next).map fun found => found.widen (by omega)
            else .error .malformed
          | _ => .error .malformed
    else .error .malformed
termination_by 2 * text.length + 1

end

/-! ### Statements -/

/-- A statement at the front of a text. -/
def readStatement (text : List Char) : Except Flaw (Statement × List Char) :=
  match text with
  | '[' :: '[' :: rest =>
    match key? (skipBlanks rest) with
    | some (key, ']' :: ']' :: rest) => .ok (.element key, rest)
    | _ => .error .malformed
  | '[' :: rest =>
    match key? (skipBlanks rest) with
    | some (key, ']' :: rest) => .ok (.table key, rest)
    | _ => .error .malformed
  | text => do
    let (key, start) ← demanded (keyAndSign? text)
    let found ← readValue start
    pure (.assign key found.value, found.rest)

/-- The document after the statements of a text.  A statement takes effect before the next is
looked at. -/
def readStatements (d : Document) (text : List Char) : Except Flaw Document :=
  let start := skipBlanks text
  match start with
  | [] => .ok d
  | '\n' :: rest => if rest.length < text.length then readStatements d rest else .error .malformed
  | '#' :: _ =>
    match lineEnd? start with
    | some rest => if rest.length < text.length then readStatements d rest else .error .malformed
    | none => .error .malformed
  | start =>
    match readStatement start with
    | .error e => .error e
    | .ok (said, behind) =>
      match d.step said, lineEnd? behind with
      | some d, some rest =>
        if rest.length < text.length then readStatements d rest else .error .malformed
      | _, _ => .error .malformed
termination_by text.length

/-- A text with every carriage return before a line feed taken out. -/
def withoutReturns : List Char → List Char
  | '\r' :: '\n' :: rest => '\n' :: withoutReturns rest
  | c :: rest => c :: withoutReturns rest
  | [] => []

/-- The table that a TOML document is. -/
def read (text : String) : Except Flaw Table :=
  (readStatements .empty (withoutReturns text.toList)).map fun d => d.nest.members

end MediaSearch.Toml
