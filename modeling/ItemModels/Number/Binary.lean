import ItemModels.Number.Decimal

namespace ItemModels

/-!
Binary floating-point numbers.

A format is given by the length of its significand, by the exponent of its
least positive value, and by the bound on its magnitudes.  Every finite number
is a whole number of units, where the unit is the least positive value; a
format holds those unit counts whose binary digits, after the leading
`precision` ones, are all zero.  With this reading arithmetic and comparison
are statements about natural numbers, and all rounding is one function:
`Binary.nearest` takes the exact quotient of two natural numbers to the closest
number that the format holds, an exact half to the even neighbour, and what lies
beyond the greatest number to infinity.
-/

/-- The parameters of a binary floating-point format. -/
structure Format where
  /-- Number of binary digits of a significand. -/
  precision : Nat
  /-- The unit is `2 ^ (-scale)`. -/
  scale : Nat
  /-- Finite magnitudes stay below `2 ^ limit` units. -/
  limit : Nat
deriving DecidableEq, Repr

namespace Format

def single : Format := ⟨24, 149, 277⟩

def double : Format := ⟨53, 1074, 2098⟩

end Format

/-- The number of binary digits of a natural number, none for zero. -/
def bitLength (value : Nat) : Nat :=
  if value = 0 then 0 else value.log2 + 1

/-- Whether a magnitude of so many units is a number of the format. -/
def Format.holds (format : Format) (units : Nat) : Bool :=
  units % Nat.pow 2 (bitLength units - format.precision) == 0 &&
    decide (units < Nat.pow 2 format.limit)

/-- A number of the format, an infinity, or the value that is not a number. -/
inductive Binary (format : Format) where
  | nan
  | infinite (negative : Bool)
  | finite (negative : Bool) (units : Nat) (held : format.holds units = true)
deriving DecidableEq

namespace Binary

variable {format : Format}

/-- So many units, or infinity when the format has no such number. -/
def ofUnits (format : Format) (negative : Bool) (units : Nat) : Binary format :=
  if held : format.holds units = true then .finite negative units held else .infinite negative

/-- The whole number closest to `numerator / denominator`, an exact half going
to the even neighbour. -/
def nearestWhole (numerator denominator : Nat) : Nat :=
  let quotient := numerator / denominator
  let doubled := 2 * (numerator % denominator)
  if doubled < denominator then quotient
  else if denominator < doubled then quotient + 1
  else if quotient % 2 = 0 then quotient else quotient + 1

/-- The number closest to `numerator / denominator` units.  The spacing of the
format's numbers at that magnitude is a power of two, and the quotient is
rounded to a multiple of it. -/
def nearest (format : Format) (negative : Bool) (numerator denominator : Nat) : Binary format :=
  let spacing := Nat.pow 2 (bitLength (numerator / denominator) - format.precision)
  ofUnits format negative (nearestWhole numerator (denominator * spacing) * spacing)

/-- The number closest to the exact quotient of two natural numbers. -/
def ofRatio (format : Format) (negative : Bool) (numerator denominator : Nat) : Binary format :=
  nearest format negative (numerator * Nat.pow 2 format.scale) denominator

def ofInt (format : Format) (value : Int) : Binary format :=
  ofRatio format (decide (value < 0)) value.natAbs 1

/-- The number closest to a decimal numeral.  As `10` lies between `2 ^ 3` and
`2 ^ 4`, a numeral whose leading digit stands far outside the format's range is
infinite or zero without computing its power of ten. -/
def ofDecimal (format : Format) (decimal : Decimal) : Binary format :=
  let digits : Int := (Text.digitsOf decimal.significand).length
  let leading := digits - 1 + decimal.exponent
  if decimal.significand = 0 then ofUnits format decimal.negative 0
  else if (format.limit : Int) < 3 * leading then .infinite decimal.negative
  else if 3 * (leading + 1) < -(format.scale + 1 : Int) then ofUnits format decimal.negative 0
  else if 0 <= decimal.exponent then
    ofRatio format decimal.negative (decimal.significand * Nat.pow 10 decimal.exponent.toNat) 1
  else
    ofRatio format decimal.negative decimal.significand (Nat.pow 10 (-decimal.exponent).toNat)

/-- Reads a numeral, `NaN`, `inf` or `-inf`. -/
def read? (format : Format) (text : String) : Option (Binary format) :=
  if text == "NaN" then some .nan
  else if text == "inf" then some (.infinite false)
  else if text == "-inf" then some (.infinite true)
  else (Decimal.read? text.toList).map (ofDecimal format)

def convert {source : Format} (target : Format) : Binary source -> Binary target
  | .nan => .nan
  | .infinite negative => .infinite negative
  | .finite negative units _ =>
      nearest target negative (units * Nat.pow 2 (target.scale - source.scale))
        (Nat.pow 2 (source.scale - target.scale))

/-- A magnitude with its sign. -/
def signed (negative : Bool) (magnitude : Nat) : Int :=
  if negative then -(magnitude : Int) else magnitude

/-- The place of a number on the line of units, where the infinities stand at
the bound of the format and beyond every finite number.  What is not a number
has no place. -/
def place? : Binary format -> Option Int
  | .nan => none
  | .infinite negative => some (signed negative (Nat.pow 2 format.limit))
  | .finite negative units _ => some (signed negative units)

/-- Both have a place, and the left one is lower. -/
def less (left right : Binary format) : Bool :=
  match left.place?, right.place? with
  | some low, some high => decide (low < high)
  | _, _ => false

/-- Both have a place, and the left one is not lower. -/
def atLeast (left right : Binary format) : Bool :=
  match left.place?, right.place? with
  | some high, some low => decide (low <= high)
  | _, _ => false

/-- Both have the same place.  The two zeros are equal, and what is not a number
differs from everything. -/
def same (left right : Binary format) : Bool :=
  match left.place?, right.place? with
  | some here, some there => here == there
  | _, _ => false

/-- The closest number to the exact quotient.  A quotient by zero is infinite, and
the quotients of two zeros and of two infinities are not numbers. -/
def divide : Binary format -> Binary format -> Binary format
  | .nan, _ => .nan
  | _, .nan => .nan
  | .infinite _, .infinite _ => .nan
  | .infinite negative, .finite divisorNegative _ _ => .infinite (negative != divisorNegative)
  | .finite negative _ _, .infinite divisorNegative =>
      ofUnits format (negative != divisorNegative) 0
  | .finite negative units _, .finite divisorNegative divisor _ =>
      if divisor = 0 then
        if units = 0 then .nan else .infinite (negative != divisorNegative)
      else ofRatio format (negative != divisorNegative) units divisor

/-- The closest number to the exact product.  The product of an infinity and a zero is not a
number. -/
def multiply : Binary format -> Binary format -> Binary format
  | .nan, _ => .nan
  | _, .nan => .nan
  | .infinite negative, .infinite otherNegative => .infinite (negative != otherNegative)
  | .infinite negative, .finite otherNegative units _ =>
      if units = 0 then .nan else .infinite (negative != otherNegative)
  | .finite negative units _, .infinite otherNegative =>
      if units = 0 then .nan else .infinite (negative != otherNegative)
  | .finite negative units _, .finite otherNegative factor _ =>
      nearest format (negative != otherNegative) (units * factor) (Nat.pow 2 format.scale)

/-- The whole part of a number, held between two bounds; zero for what is not a
number. -/
def truncated (low high : Int) : Binary format -> Int
  | .nan => 0
  | .infinite negative => if negative then low else high
  | .finite negative units _ => max low (min high (signed negative (units / Nat.pow 2 format.scale)))

def toInt64 (value : Binary format) : Int64 :=
  Int64.ofInt (value.truncated Int64.minValue.toInt Int64.maxValue.toInt)

def toInt16 (value : Binary format) : Int16 :=
  Int16.ofInt (value.truncated Int16.minValue.toInt Int16.maxValue.toInt)

end Binary
end ItemModels
