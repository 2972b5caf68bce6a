/-
Numbers, truth values, dates and times in TOML.

Each reader takes the longest piece of its form at the front of a text and leaves the
rest, whatever it is: a piece that goes on in a wrong way is found out by what has to
follow it.
-/
import MediaSearch.Calendar.Date
import MediaSearch.Text.Digits
import MediaSearch.Toml.Value

namespace MediaSearch.Toml

open Text

/-- What follows a word. -/
def afterText? (word text : List Char) : Option (List Char) :=
  if word.isPrefixOf text then some (text.drop word.length) else none

/-! ### Numbers -/

/-- Digits behind a first one, each of which may have an underscore before it. -/
def moreDigits (isOne : Char → Bool) : List Char → List Char × List Char
  | '_' :: c :: rest =>
    if isOne c then
      let (digits, rest) := moreDigits isOne rest
      (c :: digits, rest)
    else ([], '_' :: c :: rest)
  | c :: rest =>
    if isOne c then
      let (digits, rest) := moreDigits isOne rest
      (c :: digits, rest)
    else ([], c :: rest)
  | [] => ([], [])

/-- One digit or more, with underscores between them. -/
def digits? (isOne : Char → Bool) : List Char → Option (List Char × List Char)
  | c :: rest =>
    if isOne c then
      let (digits, rest) := moreDigits isOne rest
      some (c :: digits, rest)
    else none
  | [] => none

/-- The value of digits in a base. -/
def valueIn (base : Nat) (digits : List Char) : Nat :=
  digits.foldl (fun value c => base * value + hexDigit c) 0

/-- A whole number in one of the other bases, behind its zero. -/
def otherBase? : List Char → Option (Value × List Char)
  | 'x' :: rest => (digits? isHexDigit rest).map fun (ds, rest) => (.int (valueIn 16 ds), rest)
  | 'b' :: rest =>
    (digits? (fun c => c == '0' || c == '1') rest).map fun (ds, rest) => (.int (valueIn 2 ds), rest)
  | 'o' :: rest =>
    (digits? (fun c => '0' ≤ c && c ≤ '7') rest).map fun (ds, rest) => (.int (valueIn 8 ds), rest)
  | _ => none

/-- The digits behind a point, if there is a fraction. -/
def fraction? : List Char → Option (List Char × List Char)
  | '.' :: rest => digits? Char.isDigit rest
  | _ => none

/-- The power of ten, if there is an exponent. -/
def exponent? : List Char → Option (Int × List Char)
  | c :: rest =>
    if c == 'e' || c == 'E' then
      let (back, rest) :=
        match rest with
        | '-' :: rest => (true, rest)
        | '+' :: rest => (false, rest)
        | rest => (false, rest)
      (digits? Char.isDigit rest).map fun (ds, rest) =>
        (if back then -(digitsValue ds : Int) else digitsValue ds, rest)
    else none
  | [] => none

/-- A sign, which is none if there is none: whether it is a minus, and what follows it. -/
def sign : List Char → Bool × List Char
  | '-' :: rest => (true, rest)
  | '+' :: rest => (false, rest)
  | rest => (false, rest)

/-- A number in base ten, behind its sign. -/
def decimal? (negative : Bool) (text : List Char) : Option (Except Flaw Value × List Char) := do
  let (whole, rest) ←
    match text with
    | '0' :: rest => some (['0'], rest)
    | text => digits? Char.isDigit text
  let (places, rest, isFraction) :=
    match fraction? rest with
    | some (ds, rest) => (ds, rest, true)
    | none => ([], rest, false)
  let (power, rest, hasPower) :=
    match exponent? rest with
    | some (power, rest) => (power, rest, true)
    | none => (0, rest, false)
  let digits := digitsValue (whole ++ places)
  let value : Except Flaw Value :=
    if isFraction || hasPower then .ok (.float (.ofDecimal negative digits (power - places.length)))
    else if maxDigits < whole.length then .error .tooManyDigits
    else .ok (.int (if negative then -digits else digits))
  pure (value, rest)

/-- A number. -/
def number? (text : List Char) : Option (Except Flaw Value × List Char) :=
  let other : Option (Except Flaw Value × List Char) :=
    match text with
    | '0' :: rest => (otherBase? rest).map fun (value, rest) => (.ok value, rest)
    | _ => none
  other.or (decimal? (sign text).1 (sign text).2)

/-- One of the numbers that are not finite. -/
def notFinite? (text : List Char) : Option (Value × List Char) :=
  let (negative, rest) := sign text
  match afterText? "inf".toList rest, afterText? "nan".toList rest with
  | some rest, _ => some (.float (.infinite negative), rest)
  | none, some rest => some (.float .notANumber, rest)
  | none, none => none

/-! ### Truth values -/

/-- A truth value. -/
def bool? (text : List Char) : Option (Value × List Char) :=
  match afterText? "true".toList text, afterText? "false".toList text with
  | some rest, _ => some (.bool true, rest)
  | none, some rest => some (.bool false, rest)
  | none, none => none

/-! ### Dates and times -/

/-- Two digits between bounds. -/
def twoDigits? (least most : Nat) : List Char → Option (Nat × List Char)
  | a :: b :: rest =>
    let n := digitsValue [a, b]
    if a.isDigit && b.isDigit && least ≤ n && n ≤ most then some (n, rest) else none
  | _ => none

/-- What follows a time of day. -/
def afterTime? (text : List Char) : Option (List Char) := do
  let (_, rest) ← twoDigits? 0 23 text
  let (_, rest) ← twoDigits? 0 59 (← char? ':' rest)
  let (_, rest) ← twoDigits? 0 59 (← char? ':' rest)
  match rest with
  | '.' :: c :: behind => if c.isDigit then pure (behind.dropWhile Char.isDigit) else pure rest
  | _ => pure rest

/-- What follows an offset from universal time. -/
def afterOffset? : List Char → Option (List Char)
  | 'Z' :: rest | 'z' :: rest => some rest
  | c :: rest => do
    if c != '+' && c != '-' then none
    let (_, rest) ← twoDigits? 0 23 rest
    let (_, rest) ← twoDigits? 0 59 (← char? ':' rest)
    pure rest
  | [] => none

/-- What follows a time of day behind a date, if there is one, and its offset. -/
def afterDate (text : List Char) : List Char :=
  let time? := do
    let (_, rest) ← oneOf? (fun c => c == 'T' || c == 't' || c == ' ') text
    afterTime? rest
  match time? with
  | some rest => (afterOffset? rest).getD rest
  | none => text

/-- A date with its fields, and what follows it; the fields need not name a day that exists. -/
def date? (text : List Char) : Option (Nat × Nat × Nat × List Char) := do
  let (century, rest) ← twoDigits? 0 99 text
  let (year, rest) ← twoDigits? 0 99 rest
  let (month, rest) ← twoDigits? 1 12 (← char? '-' rest)
  let (day, rest) ← twoDigits? 1 31 (← char? '-' rest)
  pure (100 * century + year, month, day, rest)

/-- A date or a time, as it is written; nothing at all when the text is not one, and a day that
does not exist is an error. -/
def time? (text : List Char) : Option (Option (Value × List Char)) :=
  let taken := fun (rest : List Char) =>
    (Value.time (String.ofList (text.take (text.length - rest.length))), rest)
  match date? text with
  | some (year, month, day, rest) =>
    some ((Calendar.Date.of? year month day).map fun _ => taken (afterDate rest))
  | none => (afterTime? text).map fun rest => some (taken rest)

/-- A value that has no other values in it and is no text. -/
def readScalar (text : List Char) : Except Flaw (Value × List Char) :=
  match bool? text with
  | some found => .ok found
  | none =>
    match time? text with
    | some found => demanded found
    | none =>
      match number? text with
      | some (value, rest) => value.map fun value => (value, rest)
      | none => demanded (notFinite? text)

end MediaSearch.Toml
