import ItemModels.Number.Shortest
import ItemModels.Text.Misread

namespace ItemModels

/-!
Percentages such as `12.5%`.

A percentage is a decimal numeral with an optional minus, without exponent, and
directly followed by the percent sign.  Digits must stand on both sides of a
point.  Blanks may stand at both ends.
-/

/-- A percentage, as a 32-bit number of hundredths. -/
structure Percentage where
  percent : Binary .single
deriving DecidableEq

namespace Percentage

open Text (Misread dropBlanks)

def readMinus : List Char -> Bool × List Char
  | '-' :: rest => (true, rest)
  | letters => (false, letters)

/-- The digits of a fraction and what follows; nothing is taken unless a digit follows the
point. -/
def readFraction : List Char -> List Char × List Char
  | '.' :: rest =>
      let digits := rest.takeWhile Char.isDigit
      if digits.isEmpty then ([], '.' :: rest) else (digits, rest.dropWhile Char.isDigit)
  | letters => ([], letters)

/-- Reads the numeral at the start of a text; when it has no digits, the rest of the text
where they are missing. -/
def readNumeral (letters : List Char) : Except (List Char) (Decimal × List Char) :=
  let (negative, rest) := readMinus letters
  let whole := rest.takeWhile Char.isDigit
  if whole.isEmpty then .error rest
  else
    let (fraction, after) := readFraction (rest.dropWhile Char.isDigit)
    let significand := Text.digitsValue (whole ++ fraction)
    .ok ({ negative, significand, exponent := -(fraction.length : Int) }, after)

def read (text : String) : Except Misread Percentage :=
  match readNumeral (dropBlanks text.toList) with
  | .error rest => .error (.leaving text rest .percentage)
  | .ok (decimal, after) =>
      match after with
      | '%' :: rest =>
          match dropBlanks rest with
          | [] => .ok ⟨Binary.ofDecimal .single decimal⟩
          | left => .error (.leaving text left .theEnd)
      | left => .error (.leaving text left .percentage)

/-- Whether `value / most` is at least the percentage, with every step in 32-bit numbers. -/
def reachedBy (percentage : Percentage) (value most : Int32) : Bool :=
  let part := Binary.divide (Binary.ofInt .single value.toInt) (Binary.ofInt .single most.toInt)
  let needed := Binary.divide percentage.percent (Binary.ofInt .single 100)
  part.atLeast needed

def toText (percentage : Percentage) : String :=
  percentage.percent.plain ++ "%"

end Percentage
end ItemModels
