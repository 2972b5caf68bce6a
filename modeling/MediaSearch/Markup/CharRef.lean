/-
Character references.

A numeric reference ends before the first character that is no digit of it; below
256 it is read in the Windows code page, as old pages mean it.  A named reference
that is not known stays as it is, without its semicolon.
-/
import MediaSearch.Text.Digits
import MediaSearch.Markup.References

namespace MediaSearch.Markup

/-- The characters 128 to 159 of the Windows code page; five places are not taken. -/
def windowsPage : List Nat :=
  [0x20AC, 0x81, 0x201A, 0x192, 0x201E, 0x2026, 0x2020, 0x2021, 0x2C6, 0x2030, 0x160, 0x2039,
   0x152, 0x8D, 0x17D, 0x8F, 0x90, 0x2018, 0x2019, 0x201C, 0x201D, 0x2022, 0x2013, 0x2014, 0x2DC,
   0x2122, 0x161, 0x203A, 0x153, 0x9D, 0x17E, 0x178]

/-- The character with a number. -/
def numbered (n : Nat) : Char :=
  let n := if 128 ≤ n && n < 160 then windowsPage.getD (n - 128) n else n
  if h : n.isValidChar then Char.ofNatAux n h else '\uFFFD'

/-- What is left behind a reference: its semicolon belongs to it. -/
def behind : List Char → List Char
  | ';' :: rest => rest
  | rest => rest

/-- The numeric reference behind its number sign, and what follows it; it has to be followed by
something. -/
def numeric? (text : List Char) : Option (Char × List Char) :=
  let hexadecimal := text.head? == some 'x' || text.head? == some 'X'
  let body := if hexadecimal then text.drop 1 else text
  let isOne := if hexadecimal then Text.isHexDigit else Char.isDigit
  let digits := body.takeWhile isOne
  match body.dropWhile isOne with
  | [] => none
  | next :: rest =>
    if digits.isEmpty || Text.isHexDigit next then none
    else
      some (numbered (if hexadecimal then Text.hexValue digits else Text.digitsValue digits),
        behind (next :: rest))

/-- Whether a character can be part of a reference's name. -/
def isNameChar (c : Char) : Bool :=
  c.isAlphanum || c == '-' || c == '.'

/-- The text of a reference by its name. -/
def namedText (name : List Char) : List Char :=
  match reference? (String.ofList name) with
  | some text => text.toList
  | none => '&' :: name

/-- The named reference behind its ampersand, and what follows it.  At the end of the text the
name stops before its last dash or point, because something has to follow it. -/
def named? (text : List Char) : Option (List Char × List Char) :=
  match text with
  | [] => none
  | first :: rest =>
    if first.isAlpha then
      let tail := rest.takeWhile isNameChar
      match rest.dropWhile isNameChar with
      | next :: others => some (namedText (first :: tail), behind (next :: others))
      | [] =>
        let last := (tail.reverse.dropWhile Char.isAlphanum).reverse
        if last.isEmpty then none
        else some (namedText (first :: last.dropLast), tail.drop (last.length - 1))
    else none

end MediaSearch.Markup
