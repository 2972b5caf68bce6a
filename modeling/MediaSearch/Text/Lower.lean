/-
Small letters.

`lower` turns every capital of a text into its small letter, as Unicode defines it.
Two characters do not simply map to one other character: a capital I with a dot
becomes two, and a capital sigma becomes the final sigma when it ends a word.
A sigma ends a word when the nearest character before it that is not ignored is a
letter with case, and the nearest one after it is not; `lowerAfter` carries the
first half of that test along and looks ahead for the second.
-/
import MediaSearch.Text.CaseTables

namespace MediaSearch.Text

/-- Whether a character is a letter with case. -/
def isCased (c : Char) : Bool :=
  withinBounds false casedBounds c.toNat

/-- Whether a character is passed over when looking for the neighbours of a sigma. -/
def isCaseIgnorable (c : Char) : Bool :=
  withinBounds false caseIgnorableBounds c.toNat

/-- The distance from a capital to its small letter, by the first run that holds it. -/
def lowerShift (n : Nat) : List CapitalRun → Int
  | [] => 0
  | run :: runs =>
    if n < run.first then 0
    else if n ≤ run.last && (n - run.first) % run.step == 0 then run.shift
    else lowerShift n runs

/-- The small form of one character, whatever stands around it. -/
def lowerChar (c : Char) : List Char :=
  if c.toNat < 128 then [c.toLower]
  else if c == '\u0130' then ['i', '\u0307']
  else [Char.ofNat (Int.toNat (c.toNat + lowerShift c.toNat lowercaseRuns))]

/-- Whether the first character that is not ignored is a letter with case. -/
def startsCased : List Char → Bool
  | [] => false
  | c :: rest => if isCaseIgnorable c then startsCased rest else isCased c

/-- The small form of a text; `afterCased` says whether a letter with case comes before it,
ignored characters aside. -/
def lowerAfter (afterCased : Bool) : List Char → List Char
  | [] => []
  | c :: rest =>
    let small :=
      if c == 'Σ' then [if afterCased && !startsCased rest then 'ς' else 'σ'] else lowerChar c
    small ++ lowerAfter (if isCaseIgnorable c then afterCased else isCased c) rest

/-- A text in small letters. -/
def lower (text : List Char) : List Char :=
  lowerAfter false text

/-- `lower` on a string. -/
def lowered (text : String) : String :=
  String.ofList (lower text.toList)

end MediaSearch.Text
