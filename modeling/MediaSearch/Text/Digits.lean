/-
Decimal digits and the small readers that fixed formats are made of.

A format such as `M/D/YYYY` is read by chaining readers.  Each takes the text that
is left and answers nothing when it does not apply, so a format is the `do` block
that names its parts in order, closed by `done?`.
-/
import MediaSearch.Text.Blank

namespace MediaSearch.Text

/-- The value of a run of decimal digits. -/
def digitsValue (digits : List Char) : Nat :=
  digits.foldl (fun value c => 10 * value + (c.toNat - '0'.toNat)) 0

/-- How many decimal digits of a whole number are read at most. -/
def maxDigits : Nat := 4300

/-- Whether a character is a hexadecimal digit. -/
def isHexDigit (c : Char) : Bool :=
  c.isDigit || ('a' ≤ c && c ≤ 'f') || ('A' ≤ c && c ≤ 'F')

/-- The value of a hexadecimal digit. -/
def hexDigit (c : Char) : Nat :=
  if c.isDigit then c.toNat - '0'.toNat else c.toLower.toNat - 'a'.toNat + 10

/-- The value of a run of hexadecimal digits. -/
def hexValue (digits : List Char) : Nat :=
  digits.foldl (fun value c => 16 * value + hexDigit c) 0

/-- A whole run of digits with a length between `least` and `most`: its digits and the rest. -/
def digitRun? (least most : Nat) (text : List Char) : Option (List Char × List Char) :=
  let digits := text.takeWhile Char.isDigit
  if least ≤ digits.length && digits.length ≤ most then
    some (digits, text.dropWhile Char.isDigit)
  else none

/-- The number written by such a run, and the rest. -/
def number? (least most : Nat) (text : List Char) : Option (Nat × List Char) :=
  (digitRun? least most text).map fun (digits, rest) => (digitsValue digits, rest)

/-- One character out of those that `accepts` admits, and the rest. -/
def oneOf? (accepts : Char → Bool) : List Char → Option (Char × List Char)
  | [] => none
  | c :: rest => if accepts c then some (c, rest) else none

/-- The rest after one given character. -/
def char? (expected : Char) (text : List Char) : Option (List Char) :=
  (oneOf? (· == expected) text).map (·.2)

/-- The rest after a non-empty run of the blanks that `blank` admits. -/
def blanks? (blank : Char → Bool) (text : List Char) : Option (List Char) :=
  match text with
  | [] => none
  | c :: rest => if blank c then some (rest.dropWhile blank) else none

/-- Succeeds at the end of the text only. -/
def done? : List Char → Option Unit
  | [] => some ()
  | _ :: _ => none

/-- The digits of a whole number, single underscores between them left out. -/
def digitsOf? : List Char → Option (List Char)
  | [] => none
  | [c] => if c.isDigit then some [c] else none
  | c :: '_' :: rest => if c.isDigit then (digitsOf? rest).map (c :: ·) else none
  | c :: rest => if c.isDigit then (digitsOf? rest).map (c :: ·) else none

/-- A whole number of no more digits than are read, with or without a sign and with blanks around
it. -/
def wholeNumber? (text : String) : Option Int := do
  let (negative, digits) :=
    match strip text.toList with
    | '-' :: digits => (true, digits)
    | '+' :: digits => (false, digits)
    | digits => (false, digits)
  let digits ← digitsOf? digits
  if maxDigits < digits.length then none
  pure (if negative then -digitsValue digits else digitsValue digits)

/-- A natural number in at least `width` digits, filled up with zeros on the left. -/
def padded (width n : Nat) : String :=
  let digits := toString n
  String.ofList (List.replicate (width - digits.length) '0') ++ digits

end MediaSearch.Text
