/-
Reading ISO 8601 times.

A date is written with month and day or with week and weekday, with or without
dashes; any one character may stand between it and a time of day.  The time stops
after the hour, the minute or the second, its parts with or without colons between
them; a fraction may follow any of them.  An offset is a sign and a time, or `Z`.
-/
import MediaSearch.Text.Digits
import MediaSearch.Calendar.WallTime

namespace MediaSearch.Calendar

open Text

/-- A wall time that was read, and its offset from universal time if one was written. -/
structure IsoTime where
  /-- The wall time. -/
  wall : WallTime
  /-- The offset, in microseconds. -/
  offset? : Option Int

namespace IsoTime

/-! ### The date -/

/-- The weekday of the first of January of a year, 0 for Sunday. -/
def firstWeekday (year : Int) : Int :=
  (Date.daysBeforeYear year + 1) % 7

/-- How many weeks a year has: the year of a week is that of its Thursday. -/
def weeksInYear (year : Int) : Int :=
  if firstWeekday year == 4 || (firstWeekday year == 3 && isLeap year) then 53 else 52

/-- The date of a weekday, 1 for Monday, of a week of a year. -/
def ofWeek? (year week weekday : Int) : Option Date :=
  if 1 ≤ year && year ≤ 9999 && 1 ≤ week && week ≤ weeksInYear year && 1 ≤ weekday
      && weekday ≤ 7 then
    let first := Date.daysBeforeYear year + 1
    let monday := first - (first - 1) % 7 + (if 3 < (first - 1) % 7 then 7 else 0)
    Date.ofDayNumber? (monday + 7 * (week - 1) + (weekday - 1))
  else none

/-- Exactly so many digits, whatever follows them. -/
def digits? (count : Nat) (text : List Char) : Option (Nat × List Char) :=
  let digits := text.take count
  if digits.length == count && digits.all Char.isDigit then
    some (digitsValue digits, text.drop count)
  else none

/-- Whether a character stands at a place. -/
def isAt (text : List Char) (place : Nat) (accepts : Char → Bool) : Bool :=
  (text[place]?).any accepts

/-- How many characters at the front of a text are its date. -/
def dateLength (text : List Char) : Nat :=
  if text.length == 7 then 7
  else if isAt text 4 (· == '-') then
    if isAt text 5 (· == 'W') then
      if isAt text 8 (· == '-') && !isAt text 10 Char.isDigit then 10 else 8
    else 10
  else if isAt text 4 (· == 'W') then
    let run := ((text.drop 7).takeWhile Char.isDigit).length
    if run < 2 then 7 + run else if run % 2 == 0 then 8 else 7
  else 8

/-- A whole text as a date. -/
def date? (text : List Char) : Option Date := do
  let (year, rest) ← digits? 4 text
  let dashed := rest.head? == some '-'
  let rest := if dashed then rest.drop 1 else rest
  let dash? := fun (rest : List Char) => if dashed then char? '-' rest else some rest
  match rest with
  | 'W' :: rest =>
    let (week, rest) ← digits? 2 rest
    if rest.isEmpty then ofWeek? year week 1
    else
      let (weekday, _) ← digits? 1 (← dash? rest)
      ofWeek? year week weekday
  | _ =>
    let (month, rest) ← digits? 2 rest
    let (day, rest) ← digits? 2 (← dash? rest)
    done? rest
    Date.of? year month day

/-! ### The time of day -/

/-- The fields of a time of day, and whether text was left behind them. -/
structure Clock where
  /-- The hour. -/
  hour : Nat
  /-- The minute. -/
  minute : Nat
  /-- The second. -/
  second : Nat
  /-- The microsecond. -/
  micro : Nat
  /-- Whether something stands behind the fields. -/
  leftover : Bool

/-- The fields up to the second, with the fraction that is left to read if there is one.  A single
character behind the last field is left over. -/
inductive Fields
  /-- The values, and whether a character is left over. -/
  | ended (values : List Nat) (leftover : Bool)
  /-- The values, and a fraction. -/
  | fraction (values : List Nat) (digits : List Char)

/-- Up to `count` fields of two digits; `colons` says whether colons stand between them, if that
is known already. -/
def fields? (colons? : Option Bool) : Nat → List Char → Option Fields
  | 0, rest => some (.fraction [] rest)
  | count + 1, text => do
    let (value, rest) ← digits? 2 text
    let more := fun (found : Fields) =>
      match found with
      | .ended values leftover => Fields.ended (value :: values) leftover
      | .fraction values digits => Fields.fraction (value :: values) digits
    match rest with
    | [] => some (.ended [value] false)
    | mark :: behind =>
      let colons := colons?.getD (mark == ':')
      if behind.isEmpty && mark.toNat < 128 then some (.ended [value] true)
      else if colons && mark == ':' then (fields? (some colons) count behind).map more
      else if mark == '.' || mark == ',' then some (.fraction [value] behind)
      else if !colons then (fields? (some colons) count rest).map more
      else none

/-- A time of day; of a fraction the first six digits count, and they have to be digits. -/
def clock? (text : List Char) : Option Clock := do
  let (values, micro, leftover) ←
    match ← fields? none 3 text with
    | .ended values leftover => some (values, 0, leftover)
    | .fraction values digits => do
      let kept := digits.take 6
      if kept.isEmpty || !kept.all Char.isDigit then none
      else
        let rest := (digits.drop 6).dropWhile Char.isDigit
        some (values, digitsValue kept * Nat.pow 10 (6 - kept.length), !rest.isEmpty)
  pure ⟨values.getD 0 0, values.getD 1 0, values.getD 2 0, micro, leftover⟩

/-- The microseconds of an offset that is written like a time of day; less than a second is none,
and it has to be less than a day. -/
def offsetSize? (text : List Char) : Option Int := do
  let c ← clock? text
  let seconds := (c.hour * 60 + c.minute) * 60 + c.second
  let size := if seconds == 0 then 0 else seconds * 1000000 + c.micro
  if c.leftover || 86400 * 1000000 ≤ size then none
  else pure size

/-- A time of day with or without an offset. -/
def timeOfDay? (text : List Char) : Option (Clock × Option Int) := do
  let isMark := fun c => c == '+' || c == '-' || c == 'Z'
  let c ← clock? (text.takeWhile fun c => !isMark c)
  match text.dropWhile fun c => !isMark c with
  | [] => if c.leftover then none else pure (c, none)
  | 'Z' :: rest => do
    done? rest
    pure (c, some 0)
  | mark :: rest => do
    let size ← offsetSize? rest
    pure (c, some (if mark == '-' then -size else size))

/-- An ISO 8601 time. -/
def read? (text : String) : Option IsoTime := do
  let text := text.toList
  if text.length < 7 then none
  let length := dateLength text
  let date ← date? (text.take length)
  if text.length ≤ length then pure ⟨.midnight date, none⟩
  else
    let (c, offset?) ← timeOfDay? (text.drop (length + 1))
    let wall ← WallTime.at? date c.hour c.minute c.second c.micro
    pure ⟨wall, offset?⟩

/-- The instant that is meant, when an offset is written. -/
def instant? (time : IsoTime) : Option Instant :=
  time.offset?.map fun offset => time.wall.micros - offset

end IsoTime

end MediaSearch.Calendar
