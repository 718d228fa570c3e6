/-
This file defines floating point numbers of 64 bits as words, with the equality of numbers
(zeros of both signs are equal, and what is not a number differs from itself) and their text.

A finite number is written with the fewest digits that read back. It is positional where the
decimal point falls close to the digits, and scientific elsewhere.
-/

import Polyglot.Decimal.Shortest

namespace Polyglot.Decimal

/-- A floating point number, given by its bits. -/
structure Binary64 where
  bits : UInt64
  deriving DecidableEq

namespace Binary64

/-- Is the sign bit set? -/
def isNegative (number : Binary64) : Bool :=
  number.bits.toNat / Nat.pow 2 63 % 2 = 1

/-- The exponent field. -/
def exponentField (number : Binary64) : Nat :=
  number.bits.toNat / Nat.pow 2 52 % Nat.pow 2 11

/-- The fraction field. -/
def fractionField (number : Binary64) : Nat :=
  number.bits.toNat % Nat.pow 2 52

/-- Is it a word that stands for no number? -/
def isNaN (number : Binary64) : Bool :=
  number.exponentField = 2047 && number.fractionField ≠ 0

/-- Is it an infinity? -/
def isInfinite (number : Binary64) : Bool :=
  number.exponentField = 2047 && number.fractionField = 0

/-- Is it a zero of either sign? -/
def isZero (number : Binary64) : Bool :=
  number.exponentField = 0 && number.fractionField = 0

/-- Equality of numbers: zeros are equal, and a word that stands for no number equals none. -/
def same (first second : Binary64) : Bool :=
  !first.isNaN && !second.isNaN &&
    (first.bits = second.bits || first.isZero && second.isZero)

/-- The magnitudes that round to the magnitude of a finite number. Ties go to even words, and
the gap below a power of two is half the gap above. -/
def interval (number : Binary64) : Interval :=
  let fraction := number.fractionField
  let significand :=
    if number.exponentField = 0 then fraction else Nat.pow 2 52 + fraction
  let power : Int :=
    if number.exponentField = 0 then -1074 else (number.exponentField : Int) - 1075
  let gapBelow := if number.exponentField ≠ 0 ∧ fraction = 0 then 1 else 2
  { low := 4 * significand - gapBelow
    value := 4 * significand
    high := 4 * significand + 2
    power := power - 2
    closed := significand % 2 = 0 }

end Binary64

/-- How decimals are written. The point of a decimal is the place of its decimal point,
counted from the front of its digits. -/
structure Style where
  /-- The lowest point that is written positionally. -/
  lowestPoint : Int
  /-- The highest point that is written positionally. -/
  highestPoint : Int
  /-- The mark in front of the exponent. -/
  exponentMark : String
  /-- What follows the digits of a whole number in positional writing. -/
  wholeEnding : String

/-- The text of a decimal whose point is behind the digits, before them, or among them. -/
def positional (style : Style) (digits : String) (point : Int) : String :=
  let length := digits.length
  if point ≤ 0 then
    "0." ++ String.ofList (List.replicate (-point).toNat '0') ++ digits
  else if (length : Int) ≤ point then
    digits ++ String.ofList (List.replicate (point - length).toNat '0') ++ style.wholeEnding
  else
    String.ofList (digits.toList.take point.toNat) ++ "." ++
      String.ofList (digits.toList.drop point.toNat)

/-- The text of a decimal with one digit before the point and an exponent. -/
def scientific (style : Style) (digits : String) (point : Int) : String :=
  let whole := String.ofList (digits.toList.take 1)
  let fraction := String.ofList (digits.toList.drop 1)
  whole ++ (if fraction.isEmpty then "" else "." ++ fraction) ++
    style.exponentMark ++ toString (point - 1)

/-- The text of a decimal. -/
def Scaled.text (style : Style) (number : Scaled) : String :=
  let digits := toString number.digits
  let point := number.exponent + digits.length
  if style.lowestPoint ≤ point ∧ point ≤ style.highestPoint then positional style digits point
  else scientific style digits point

/-- Numbers from `0.0001` up to but excluding `10 ^ 16` are positional, and whole ones of
them end in `.0`. -/
def floatStyle : Style :=
  { lowestPoint := -3, highestPoint := 16, exponentMark := "e", wholeEnding := ".0" }

/-- The text of a floating point number. -/
def Binary64.text (number : Binary64) : String :=
  if number.isNaN then "NaN"
  else
    (if number.isNegative then "-" else "") ++
      (if number.isInfinite then "inf"
      else if number.isZero then "0.0"
      else number.interval.shortest.text floatStyle)

end Polyglot.Decimal
