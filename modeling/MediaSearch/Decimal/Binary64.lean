/-
Binary floating-point numbers of 64 bits, as exact values.

A finite number is a sign, a mantissa and a power of two.  Everything here is
arithmetic on natural numbers and integers: `ofRatio` rounds a quotient to the
nearest number, a half to the even mantissa, and `ceiling?` gives back an integer
exactly.
-/

namespace MediaSearch.Decimal

/-- A 64-bit binary floating-point number. -/
inductive Binary64
  /-- `mantissa · 2 ^ exponent`, or its negative.  The mantissa is below `2 ^ 53`, and at least
  `2 ^ 52` unless the exponent is the least one, -1074. -/
  | finite (negative : Bool) (mantissa : Nat) (exponent : Int)
  /-- Infinity of either sign. -/
  | infinite (negative : Bool)
  /-- The value that is no number. -/
  | notANumber
  deriving DecidableEq, Repr, Inhabited

namespace Binary64

/-- Zero of either sign. -/
def zero (negative : Bool) : Binary64 := finite negative 0 (-1074)

/-- A quotient rounded to the nearest natural number, a half to the even one. -/
def roundQuotient (num den : Nat) : Nat :=
  let whole := num / den
  let rest := 2 * (num % den)
  if rest < den then whole
  else if den < rest then whole + 1
  else whole + whole % 2

/-- `num / den / 2 ^ exponent`, as a quotient of natural numbers. -/
def scaled (num den : Nat) (exponent : Int) : Nat × Nat :=
  if exponent < 0 then (num * Nat.pow 2 (-exponent).toNat, den)
  else (num, den * Nat.pow 2 exponent.toNat)

/-- The exponent with which a positive quotient has a mantissa of 53 bits. -/
def exponentOf (num den : Nat) : Int :=
  let guess : Int := (Nat.log2 num : Int) - Nat.log2 den - 53
  let (n, d) := scaled num den guess
  max (if n < Nat.pow 2 53 * d then guess else guess + 1) (-1074)

/-- A quotient rounded to the nearest number, a half to the even mantissa. -/
def ofRatio (negative : Bool) (num den : Nat) : Binary64 :=
  if num == 0 then zero negative
  else
    let exponent := exponentOf num den
    let (n, d) := scaled num den exponent
    let mantissa := roundQuotient n d
    let (mantissa, exponent) :=
      if mantissa == Nat.pow 2 53 then (Nat.pow 2 52, exponent + 1) else (mantissa, exponent)
    if 971 < exponent then infinite negative else finite negative mantissa exponent

/-- `digits · 10 ^ exponent` rounded to the nearest number.  Beyond 310 places before the point
and 330 behind it the answer is known without the power. -/
def ofDecimal (negative : Bool) (digits : Nat) (exponent : Int) : Binary64 :=
  let places := (Nat.toDigits 10 digits).length + exponent
  if digits == 0 || places < -330 then zero negative
  else if 310 < places then infinite negative
  else if exponent < 0 then ofRatio negative digits (Nat.pow 10 (-exponent).toNat)
  else ofRatio negative (digits * Nat.pow 10 exponent.toNat) 1

/-- The least integer that is not below a finite number. -/
def ceiling? : Binary64 → Option Int
  | finite negative mantissa exponent =>
    let signed : Int := if negative then -mantissa else mantissa
    some <|
      if exponent < 0 then -(-signed / (Nat.pow 2 (-exponent).toNat : Int))
      else signed * (Nat.pow 2 exponent.toNat : Int)
  | _ => none

/-- Whether the number is zero, of either sign. -/
def isZero : Binary64 → Bool
  | finite _ mantissa _ => mantissa == 0
  | _ => false

end Binary64

end MediaSearch.Decimal
