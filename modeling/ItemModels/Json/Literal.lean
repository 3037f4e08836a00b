import ItemModels.Json.Basic

namespace ItemModels
namespace JsonNumber

/-!
The numbers that the literals of a JSON text denote.

A literal without point and exponent that fits a 64-bit word is that word.  Every
other literal is read in several roundings: its leading digits make a word, the
word is rounded to a binary number, and this number is multiplied with a power of
ten, or divided by some, that are rounded themselves.  What comes out is not always the
binary number that is closest to the literal: `904713.8402330041` is read as the
number below the closest one.  Near the greatest number a literal in range may be
refused, such as `1.7976931348623158e308`, while a longer one beyond the range is
read because its last digits are dropped, such as `1.79769313486231581e308`.
-/

/-- Appends digits to a number for as long as it stays an unsigned 64-bit word.  The other
digits remain, from the first one that does not fit. -/
def takeDigits (significand : Nat) : List Char -> Nat × List Char
  | [] => (significand, [])
  | digit :: rest =>
      let longer := 10 * significand + Text.digitValue digit
      if longer < Nat.pow 2 64 then takeDigits longer rest else (significand, digit :: rest)

def tenTo (exponent : Nat) : Binary .double :=
  Binary.ofRatio .double false (Nat.pow 10 exponent) 1

/-- The exponent of the greatest power of ten in range. -/
def greatestPower : Nat := 308

/-- Divides by the greatest power of ten so many times.  A zero is left alone, which ends the
divisions early however great the exponent of a literal is. -/
def lowered (value : Binary .double) : Nat -> Binary .double
  | 0 => value
  | count + 1 =>
      if value.same (Binary.ofUnits .double false 0) then value
      else lowered (value.divide (tenTo greatestPower)) count

/-- The number `significand * 10 ^ exponent` as the roundings leave it; none when it becomes
too large. -/
def scaled? (negative : Bool) (significand : Nat) (exponent : Int) : Option JsonNumber :=
  let rounded := Binary.ofRatio .double negative significand 1
  match exponent with
  | .ofNat power =>
      if power <= greatestPower then ofDouble? (rounded.multiply (tenTo power))
      else if significand = 0 then ofDouble? rounded
      else none
  | .negSucc places =>
      -- The exponent is one below the negated number of places, and the last division takes
      -- between one and all of the powers in range.
      ofDouble? ((lowered rounded (places / greatestPower)).divide
        (tenTo (places % greatestPower + 1)))

/-- The number of a literal that is no word.  Whole digits that are not taken count as powers
of ten, and digits of the fraction that are not taken count as nothing. -/
def real? (letters : List Char) : Option JsonNumber :=
  let (negative, body) := Decimal.readSign letters
  let (kept, dropped) := takeDigits 0 (body.takeWhile Char.isDigit)
  let (fraction, rest) := Decimal.readFraction (body.dropWhile Char.isDigit)
  let (significand, ignored) := takeDigits kept fraction
  (Decimal.readExponent? rest).bind fun power =>
    scaled? negative significand (power + dropped.length - (fraction.length - ignored.length))

/-- The number that a valid literal denotes; none when it is too large for a binary
number. -/
def ofLiteral? (letters : List Char) : Option JsonNumber :=
  let fractional := letters.any fun letter => letter == '.' || letter == 'e' || letter == 'E'
  let (negative, digits) := Decimal.readSign letters
  let magnitude := Text.digitsValue digits
  if !fractional && !negative && decide (magnitude < Nat.pow 2 64) then some (.whole magnitude)
  else if !fractional && negative && decide (0 < magnitude) &&
      decide (magnitude <= Nat.pow 2 63) then
    some (.whole (-(magnitude : Int)))
  else real? letters

end JsonNumber
end ItemModels
