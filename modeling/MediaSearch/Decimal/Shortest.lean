/-
The shortest decimal that reads back.

Every decimal between the midpoints to a number's two neighbours rounds to that
number, and so do the midpoints themselves exactly when its mantissa is even.
`shortest` tries one digit, two digits and so on; on each grid of decimals the two
around the number are the only candidates, and the nearer one is taken.  `text`
writes the digits it finds, positionally from 1e-4 up to 1e16 and with an exponent
outside.
-/
import MediaSearch.Text.Digits
import MediaSearch.Decimal.Binary64

namespace MediaSearch.Decimal

/-- A decimal, `digits · 10 ^ place`. -/
structure Digits where
  /-- The digits as a number. -/
  digits : Nat
  /-- The place of the last digit. -/
  place : Int
  deriving Repr, Inhabited

namespace Binary64

/-- Whether `num / den` is at least `10 ^ place`. -/
def reaches (num den : Nat) (place : Int) : Bool :=
  if place < 0 then den ≤ num * Nat.pow 10 (-place).toNat else den * Nat.pow 10 place.toNat ≤ num

/-- The place of the first digit of a positive quotient. -/
def firstPlace (num den : Nat) : Int :=
  let guess := ((Nat.log2 num : Int) - Nat.log2 den) * 30103 / 100000
  if reaches num den (guess + 1) then guess + 1
  else if reaches num den guess then guess
  else guess - 1

/-- The nearest decimal of so many digits that reads back as `mantissa · 2 ^ exponent`, if one does.
Lengths are measured in quarters of the last bit, so that the midpoints are whole. -/
def ofLength? (mantissa : Nat) (exponent : Int) (length : Nat) : Option Digits :=
  let low :=
    if mantissa == Nat.pow 2 52 && exponent != -1074 then 4 * mantissa - 1 else 4 * mantissa - 2
  let high := 4 * mantissa + 2
  let (num, den) := scaled 1 1 (2 - exponent)
  let place := firstPlace (4 * mantissa * num) den - (length - 1 : Nat)
  -- One step of the grid is `step` and one quarter is `quarter`, on a common scale.
  let step := den * Nat.pow 10 place.toNat
  let quarter := num * Nat.pow 10 (-place).toNat
  let below := 4 * mantissa * quarter / step
  let fits := fun (digits : Nat) =>
    if mantissa % 2 == 0 then low * quarter ≤ digits * step && digits * step ≤ high * quarter
    else low * quarter < digits * step && digits * step < high * quarter
  let toBelow := 4 * mantissa * quarter - below * step
  let toAbove := (below + 1) * step - 4 * mantissa * quarter
  let preferBelow := toBelow < toAbove || (toBelow == toAbove && below % 2 == 0)
  if fits below && (preferBelow || !fits (below + 1)) then some ⟨below, place⟩
  else if fits (below + 1) then some ⟨below + 1, place⟩
  else none

/-- The shortest decimal that reads back as `mantissa · 2 ^ exponent`; 17 digits always do. -/
def shortest (mantissa : Nat) (exponent : Int) : Digits :=
  let found := ((List.range 17).findSome? fun n => ofLength? mantissa exponent (n + 1)).getD ⟨0, 0⟩
  if found.digits % 10 == 0 then ⟨found.digits / 10, found.place + 1⟩ else found

/-- A decimal as text: with a point and at least one digit behind it from 1e-4 up to 1e16, else
with an exponent of at least two digits. -/
def Digits.text (d : Digits) : String :=
  let digits := (toString d.digits).toList
  let first := d.place + (digits.length - 1 : Nat)
  let zeros := fun (n : Int) => List.replicate n.toNat '0'
  String.ofList <|
    if -4 ≤ first && first < 16 then
      if first < 0 then "0.".toList ++ zeros (-first - 1) ++ digits
      else if d.place < 0 then
        digits.take (first.toNat + 1) ++ ['.'] ++ digits.drop (first.toNat + 1)
      else digits ++ zeros d.place ++ ".0".toList
    else
      digits.take 1 ++ (if digits.length == 1 then [] else '.' :: digits.drop 1)
        ++ (if first < 0 then "e-" else "e+").toList ++ (Text.padded 2 first.natAbs).toList

/-- How the numbers that are not finite are spelled. -/
structure Spelling where
  /-- Infinity. -/
  infinity : String
  /-- The value that is no number. -/
  notANumber : String

/-- A number as text. -/
def text (spelling : Spelling) : Binary64 → String
  | finite negative mantissa exponent =>
    (if negative then "-" else "")
      ++ (if mantissa == 0 then "0.0" else Digits.text (shortest mantissa exponent))
  | infinite negative => (if negative then "-" else "") ++ spelling.infinity
  | notANumber => spelling.notANumber

end Binary64

end MediaSearch.Decimal
