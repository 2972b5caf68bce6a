/-
The nine formats of time strings.

Each format is a reader from a text to a `Meaning`; the text has no blanks at its
ends.  Three of them read words and ignore case in every script (`duration`,
`period`, `monthName`), the others know only ASCII.
-/
import MediaSearch.Text.Blank
import MediaSearch.Text.Lower
import MediaSearch.Text.Digits
import MediaSearch.TimeString.Meaning

namespace MediaSearch.TimeString

open Text

/-- The formats of time strings. -/
inductive Format
  /-- `2024-01-01T00:00:00Z` -/
  | timestamp
  /-- `2 weeks ago` -/
  | duration
  /-- `last week` -/
  | period
  /-- `january` -/
  | monthName
  /-- `2025` -/
  | yearNumber
  /-- `1704067200000` -/
  | millis
  /-- `1/15/2025` -/
  | slashDate
  /-- `Jan 15, 2025` -/
  | longDate
  /-- `2025-01-15` -/
  | dashDate
  deriving DecidableEq, Repr

namespace Format

/-- Every format, in the order in which they are tried. -/
def all : List Format :=
  [timestamp, duration, period, monthName, yearNumber, millis, slashDate, longDate, dashDate]

/-! ### Full timestamps -/

/-- A fraction of a second after its point, in microseconds. -/
def fraction? (text : List Char) : Option (Nat × List Char) := do
  let digits := text.takeWhile Char.isDigit
  if digits.isEmpty then none
  let kept := digits.take 6
  pure (digitsValue kept * Nat.pow 10 (6 - kept.length), text.dropWhile Char.isDigit)

/-- An offset from universal time, up to the end of the text: west or not, hours, minutes. -/
def offset? (text : List Char) : Option (Bool × Nat × Nat) := do
  let (mark, rest) ← oneOf? (fun c => c == 'Z' || c == 'z' || c == '+' || c == '-') text
  if mark == '+' || mark == '-' then
    let (hour, rest) ← number? 2 2 rest
    let rest ← char? ':' rest
    let (minute, rest) ← number? 2 2 rest
    done? rest
    pure (mark == '-', hour, minute)
  else
    done? rest
    pure (false, 0, 0)

/-- `YYYY-MM-DDTHH:MM:SS`, a fraction if there is one, and an offset. -/
def readTimestamp (text : List Char) : Option Meaning := do
  let (year, rest) ← number? 4 4 text
  let rest ← char? '-' rest
  let (month, rest) ← number? 2 2 rest
  let rest ← char? '-' rest
  let (day, rest) ← number? 2 2 rest
  let (_, rest) ← oneOf? (fun c => c == 'T' || c == 't' || c == ' ') rest
  let (hour, rest) ← number? 2 2 rest
  let rest ← char? ':' rest
  let (minute, rest) ← number? 2 2 rest
  let rest ← char? ':' rest
  let (second, rest) ← number? 2 2 rest
  let (micro, rest) ←
    match char? '.' rest with
    | some digits => fraction? digits
    | none => some (0, rest)
  let (west, offsetHour, offsetMinute) ← offset? rest
  pure <| .stamp
    ⟨year, month, day, hour, minute, second, micro, west, offsetHour, offsetMinute⟩

/-! ### Words -/

/-- The words of a text that follows `taken`, the word read so far. -/
def wordsAfter (taken : List Char) : List Char → List (List Char)
  | [] => if taken.isEmpty then [] else [taken]
  | c :: rest =>
    if isBlank c then (if taken.isEmpty then [] else [taken]) ++ wordsAfter [] rest
    else wordsAfter (taken ++ [c]) rest

/-- The words of a text: its longest runs without a blank. -/
def words (text : List Char) : List (List Char) :=
  wordsAfter [] text

/-- The unit with a name, in the plural if `plural` allows it. -/
def unit? (plural : Bool) (word : List Char) : Option Duration :=
  units.findSome? fun (name, length) =>
    if word == name.toList || (plural && word == name.toList ++ ['s']) then some length else none

/-- A count of units, or `a` and one unit, and `ago`. -/
def readDuration (text : List Char) : Option Meaning :=
  match words (lower text) with
  | [count, unit, last] =>
    if last == "ago".toList then
      if count == ['a'] then (unit? false unit).map .ago
      else if count.all Char.isDigit then
        (unit? true unit).map fun length =>
          if maxDigits < count.length then .longAgo count.length
          else .ago (length.times (digitsValue count))
      else none
    else none
  | _ => none

/-- The name of a period. -/
def readPeriod (text : List Char) : Option Meaning :=
  (periods.lookup (String.ofList (lower text))).map .period

/-- The name of a month. -/
def readMonthName (text : List Char) : Option Meaning :=
  (months.lookup (String.ofList (lower text))).map .month

/-! ### Numbers and dates -/

/-- A year in four digits. -/
def readYear (text : List Char) : Option Meaning := do
  let (year, rest) ← number? 4 4 text
  done? rest
  pure (.year year)

/-- A signed number of milliseconds in more than four characters, of 64 bits; one with more digits
than are read is not looked at any further. -/
def readMillis (text : List Char) : Option Meaning := do
  let (negative, digits) :=
    match text with
    | '-' :: rest => (true, rest)
    | '+' :: rest => (false, rest)
    | _ => (false, text)
  if text.length ≤ 4 || digits.isEmpty || !digits.all Char.isDigit then none
  if maxDigits < digits.length then pure (.longMillis digits.length)
  else
    let value : Int := if negative then -digitsValue digits else digitsValue digits
    if value < -9223372036854775808 || 9223372036854775807 < value then none
    pure (.millis value)

/-- `M/D/YYYY`. -/
def readSlashDate (text : List Char) : Option Meaning := do
  let (month, rest) ← number? 1 2 text
  let rest ← char? '/' rest
  let (day, rest) ← number? 1 2 rest
  let rest ← char? '/' rest
  let (year, rest) ← number? 4 4 rest
  done? rest
  pure (.day year month day)

/-- The endings that make a number an ordinal, and no ending. -/
def ordinalEndings : List String := ["", "st", "nd", "rd", "th"]

/-- A month's name, a day with or without an ordinal's ending and a comma, and a year. -/
def readLongDate (text : List Char) : Option Meaning := do
  let name := text.takeWhile Char.isAlpha
  let month ← months.lookup (String.ofList (name.map Char.toLower))
  let rest ← blanks? isPlainBlank (text.dropWhile Char.isAlpha)
  let (day, rest) ← number? 1 2 rest
  let ending := rest.takeWhile Char.isAlpha
  if !ordinalEndings.contains (String.ofList (ending.map Char.toLower)) then none
  let rest := rest.dropWhile Char.isAlpha
  let rest := (char? ',' rest).getD rest
  let rest ← blanks? isPlainBlank rest
  let (year, rest) ← number? 4 4 rest
  done? rest
  pure (.day year month day)

/-- `YYYY-M-D`. -/
def readDashDate (text : List Char) : Option Meaning := do
  let (year, rest) ← number? 4 4 text
  let rest ← char? '-' rest
  let (month, rest) ← number? 1 2 rest
  let rest ← char? '-' rest
  let (day, rest) ← number? 1 2 rest
  done? rest
  pure (.day year month day)

/-- What a text says in a format, if it is of that format. -/
def read (format : Format) (text : List Char) : Option Meaning :=
  match format with
  | timestamp => readTimestamp text
  | duration => readDuration text
  | period => readPeriod text
  | monthName => readMonthName text
  | yearNumber => readYear text
  | millis => readMillis text
  | slashDate => readSlashDate text
  | longDate => readLongDate text
  | dashDate => readDashDate text

end Format

end MediaSearch.TimeString
