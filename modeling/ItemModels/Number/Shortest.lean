import ItemModels.Number.Binary

namespace ItemModels

/-!
The fewest decimal digits that read back.

The reals that round to a given number form an interval around it; its ends
belong to it when the number's significand is even.  Among the decimals with
one digit, then two, and so on, the first grid that meets the interval does so
in one of the number's two neighbours on that grid.  Of two neighbours inside
the interval the closer one is taken; when both are equally close, a policy
decides.

Two notations use these digits.  The plain one never has an exponent and has no
point after a whole number.  The one for data files marks every number as
fractional and turns to a signed exponent for magnitudes of `10 ^ 16` and more and
below `10 ^ (-5)`.
-/

/-- Which of two equally close decimals is taken. -/
inductive Tie where
  | away
  | even
deriving DecidableEq, Repr

/-- Digits and a power of ten. -/
structure Shortest where
  digits : Nat
  exponent : Int
deriving DecidableEq, Repr

namespace Shortest

/-- The interval of reals that round to a number, in quarters of its unit. -/
structure Interval where
  low : Nat
  middle : Nat
  high : Nat
  closed : Bool

/-- The gap to the next number above is one spacing.  Below it is half of that when
the number is a power of two and the spacing is not already the unit. -/
def Interval.around (format : Format) (units : Nat) : Interval :=
  let spacing := Nat.pow 2 (bitLength units - format.precision)
  let below := if 1 < spacing && units == Nat.pow 2 (bitLength units - 1) then spacing / 2
    else spacing
  { low := 4 * units - 2 * below
    middle := 4 * units
    high := 4 * units + 2 * spacing
    closed := units / spacing % 2 == 0 }

/-- Whether `numerator / denominator` quarters lie in the interval. -/
def Interval.contains (interval : Interval) (numerator denominator : Nat) : Bool :=
  if interval.closed then
    decide (interval.low * denominator <= numerator) && decide (numerator <= interval.high * denominator)
  else
    decide (interval.low * denominator < numerator) && decide (numerator < interval.high * denominator)

/-- Whether the upper of two neighbours at the given distances from a number is taken,
when both are in its interval. -/
def takesUpper (tie : Tie) (lower toLower toUpper : Nat) : Bool :=
  if toLower < toUpper then false
  else if toUpper < toLower then true
  else match tie with
    | .away => true
    | .even => lower % 2 == 1

/-- The number of digits before the decimal point of `units` units; zero or less when
the first digit comes after it. -/
def leadingPlace (format : Format) (units : Nat) : Int :=
  let one := Nat.pow 2 format.scale
  if one <= units then (Text.digitsOf (units / one)).length
  else 1 - ((Text.digitsOf ((one - 1) / units)).length : Int)

/-- The decimal with `count` digits that is to stand for a number, if the grid of such
decimals meets its interval. -/
def onGrid? (format : Format) (tie : Tie) (units count : Nat) : Option Shortest :=
  let interval := Interval.around format units
  let exponent := leadingPlace format units - count
  -- One grid step is `step / base` quarters of the unit.
  let step := 4 * Nat.pow 2 format.scale * Nat.pow 10 exponent.toNat
  let base := Nat.pow 10 (-exponent).toNat
  let lower := interval.middle * base / step
  let toLower := interval.middle * base - lower * step
  let toUpper := (lower + 1) * step - interval.middle * base
  let lowerIn := interval.contains (lower * step) base
  let upperIn := interval.contains ((lower + 1) * step) base
  let digits? :=
    if lowerIn && upperIn then
      some (if takesUpper tie lower toLower toUpper then lower + 1 else lower)
    else if lowerIn then some lower
    else if upperIn then some (lower + 1)
    else none
  digits?.map fun digits =>
    if digits = Nat.pow 10 count then ⟨1, exponent + count⟩ else ⟨digits, exponent⟩

/-- The first grid that meets the interval, `left` more grids being tried. -/
def search (format : Format) (tie : Tie) (units count : Nat) : Nat -> Shortest
  | 0 => ⟨units, 0⟩
  | left + 1 =>
      match onGrid? format tie units count with
      | some found => found
      | none => search format tie units (count + 1) left

/-- The fewest digits that read back as a positive number of units.  Seventeen digits
always suffice for the formats in use, and the bound is generous. -/
def ofUnits (format : Format) (tie : Tie) (units : Nat) : Shortest :=
  search format tie units 1 (format.precision + 1)

end Shortest

namespace Binary

variable {format : Format}

def withSign (negative : Bool) (magnitude : List Char) : String :=
  String.ofList (if negative then '-' :: magnitude else magnitude)

/-- Digits with the decimal point after the first `place` of them, filled with zeros,
and no point when nothing stands after it. -/
def positional (digits : List Char) (place : Int) : List Char :=
  if place <= 0 then '0' :: '.' :: (List.replicate (-place).toNat '0' ++ digits)
  else
    let whole := place.toNat
    if digits.length <= whole then digits ++ List.replicate (whole - digits.length) '0'
    else digits.take whole ++ '.' :: digits.drop whole

/-- The plain notation: never an exponent, and no point after a whole number. -/
def plain : Binary format -> String
  | .nan => "NaN"
  | .infinite negative => if negative then "-inf" else "inf"
  | .finite negative units _ =>
      if units = 0 then withSign negative ['0']
      else
        let shortest := Shortest.ofUnits format .away units
        let digits := Text.digitsOf shortest.digits
        withSign negative (positional digits (digits.length + shortest.exponent))

/-- A power of ten with its sign, which is written for positive powers too. -/
def signedPower (power : Int) : List Char :=
  (if power < 0 then '-' else '+') :: Text.digitsOf power.natAbs

/-- The notation for data files: a point or an exponent marks every number as
fractional. -/
def marked : Binary format -> String
  | .nan => "NaN"
  | .infinite negative => if negative then "-inf" else "inf"
  | .finite negative units _ =>
      if units = 0 then withSign negative ['0', '.', '0']
      else
        let shortest := Shortest.ofUnits format .even units
        let digits := Text.digitsOf shortest.digits
        let place := digits.length + shortest.exponent
        if -5 < place && place <= 16 then
          let body := positional digits place
          withSign negative (if digits.length <= place.toNat then body ++ ['.', '0'] else body)
        else
          let fraction := digits.drop 1
          withSign negative
            (digits.take 1 ++ (if fraction.isEmpty then [] else '.' :: fraction)
              ++ 'e' :: signedPower (place - 1))

end Binary
end ItemModels
