import ItemModels.Text.Ascii

namespace ItemModels

/-!
Decimal numerals.

A numeral such as `-12.50e3` denotes `significand * 10 ^ exponent` with a sign
that is kept beside the magnitude, so that `-0` stays distinct from `0`.  The
value is exact: rounding happens where a binary number is made from it.
-/

/-- The number `± significand * 10 ^ exponent`. -/
structure Decimal where
  negative : Bool
  significand : Nat
  exponent : Int
deriving DecidableEq, Repr

namespace Decimal

/-- An optional sign, as whether it is a minus, and what follows it. -/
def readSign : List Char -> Bool × List Char
  | '-' :: rest => (true, rest)
  | '+' :: rest => (false, rest)
  | rest => (false, rest)

/-- The digits after a decimal point, if there is one, and what follows. -/
def readFraction : List Char -> List Char × List Char
  | '.' :: rest => (rest.takeWhile Char.isDigit, rest.dropWhile Char.isDigit)
  | rest => ([], rest)

/-- The power of ten written after `e` or `E`; zero when nothing is left. -/
def readExponent? : List Char -> Option Int
  | [] => some 0
  | mark :: rest =>
      let (negative, digits) := readSign rest
      if (mark == 'e' || mark == 'E') && !digits.isEmpty && digits.all Char.isDigit then
        let magnitude : Int := Text.digitsValue digits
        some (if negative then -magnitude else magnitude)
      else none

/-- Reads a whole text as a numeral: an optional sign, digits with an optional
point among them, and an optional power of ten. -/
def read? (letters : List Char) : Option Decimal :=
  let (negative, body) := readSign letters
  let whole := body.takeWhile Char.isDigit
  let (fraction, rest) := readFraction (body.dropWhile Char.isDigit)
  if whole.isEmpty && fraction.isEmpty then none
  else (readExponent? rest).map fun power =>
    { negative, significand := Text.digitsValue (whole ++ fraction)
      exponent := power - fraction.length }

end Decimal
end ItemModels
