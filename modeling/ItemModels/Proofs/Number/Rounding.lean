import ItemModels.Proofs.Number.Widening
import Mathlib.Algebra.Order.Field.Power
import Mathlib.Algebra.Order.Field.Rat
import Mathlib.Algebra.Ring.Parity
import Mathlib.Data.Nat.Cast.Order.Field
import Mathlib.Tactic.FieldSimp
import Mathlib.Tactic.Linarith
import Mathlib.Tactic.NormNum
import Mathlib.Tactic.Positivity

namespace ItemModels

/-!
# Rounding to the closest number

A decimal numeral is read as the number of the format that is closest to it, and
of two that are equally close the one with the even significand.  What a format
could hold is stated without its bound first: a significand of so many binary
digits, shifted by any number of places.  The bound comes afterwards, since a
numeral whose closest number lies beyond it is read as an infinity.

Rounding has one result: between two numbers with even significands lies another
one, so that they are not both the closest.

The spacing that `nearest` rounds to is fixed by the leading digit of the whole
part.  Numbers with the same leading digit or a greater one are multiples of this
spacing, and the others are further away than the power of two between them.
-/

namespace Format

/-- So many units are written with a significand of the format. -/
def Writes (format : Format) (units : Nat) : Prop :=
  ∃ significand exponent : Nat,
    significand < 2 ^ format.precision ∧ units = significand * 2 ^ exponent

/-- So many units are written with an even significand. -/
def WritesEven (format : Format) (units : Nat) : Prop :=
  ∃ significand exponent : Nat,
    significand < 2 ^ format.precision ∧ Even significand ∧ units = significand * 2 ^ exponent

/-- So many units are closest to a number of units, and have the even significand where others are
equally close. -/
structure Closest (format : Format) (number : ℚ) (units : Nat) : Prop where
  writes : format.Writes units
  closest : ∀ other, format.Writes other -> |number - units| <= |number - other|
  even : ∀ other, format.Writes other -> other ≠ units ->
    |number - other| = |number - units| -> format.WritesEven units

end Format

/-- The value is what a magnitude with a sign is rounded to. -/
inductive Binary.Rounds {format : Format} (negative : Bool) (magnitude : ℚ) :
    Binary format -> Prop where
  | finite {units : Nat} (held : format.holds units = true)
      (closest : format.Closest (magnitude * 2 ^ format.scale) units) :
      Rounds negative magnitude (.finite negative units held)
  | infinite {units : Nat} (closest : format.Closest (magnitude * 2 ^ format.scale) units)
      (beyond : 2 ^ format.limit <= units) : Rounds negative magnitude (.infinite negative)

namespace Format

variable {format : Format} {number : ℚ}

/-- Multiples of a step are a step apart. -/
theorem add_le_of_dvd {step low high : Nat} (lowAligned : step ∣ low) (highAligned : step ∣ high)
    (less : low < high) : low + step <= high := by
  have apart := Nat.le_of_dvd (by omega) (Nat.dvd_sub highAligned lowAligned)
  omega

/-- Of two neighbouring numbers only one has an even significand. -/
theorem WritesEven.between {low high : Nat} (lowEven : format.WritesEven low)
    (highEven : format.WritesEven high) (less : low < high) :
    ∃ other, format.Writes other ∧ low < other ∧ other < high := by
  rcases lowEven with ⟨_, lowPlace, lowShort, ⟨lowHalf, rfl⟩, rfl⟩
  rcases highEven with ⟨_, highPlace, highShort, ⟨highHalf, rfl⟩, rfl⟩
  have twice (half place : Nat) : (half + half) * 2 ^ place = half * 2 ^ (place + 1) := by
    rw [Nat.pow_succ]
    ring
  have nonzero : highHalf ≠ 0 := by
    rintro rfl
    simp at less
  have aligned {place upper : Nat} (finer : place <= upper) (half : Nat) :
      2 ^ (place + 1) ∣ (half + half) * 2 ^ upper := by
    rw [twice]
    exact Nat.dvd_mul_left_of_dvd (Nat.pow_dvd_pow 2 (by omega)) half
  have full : Even (2 ^ format.precision) := by
    refine Nat.even_pow.mpr ⟨even_two, fun short => ?_⟩
    rw [short] at highShort
    omega
  rcases full with ⟨half, full⟩
  -- The finer of the two can be moved by one in its last digit.
  by_cases finer : lowPlace <= highPlace
  · have apart := add_le_of_dvd (aligned (Nat.le_refl _) lowHalf) (aligned finer highHalf) less
    have positive := Nat.two_pow_pos lowPlace
    have moved : (lowHalf + lowHalf + 1) * 2 ^ lowPlace =
        (lowHalf + lowHalf) * 2 ^ lowPlace + 2 ^ lowPlace := Nat.succ_mul ..
    exact ⟨_, ⟨lowHalf + lowHalf + 1, lowPlace, by omega, rfl⟩, by omega, by omega⟩
  · have apart := add_le_of_dvd (aligned (Nat.le_of_not_le finer) lowHalf)
      (aligned (Nat.le_refl _) highHalf) less
    have positive := Nat.two_pow_pos highPlace
    have moved : (highHalf + highHalf - 1 + 1) * 2 ^ highPlace =
        (highHalf + highHalf - 1) * 2 ^ highPlace + 2 ^ highPlace := Nat.succ_mul ..
    rw [Nat.sub_add_cancel (by omega)] at moved
    exact ⟨_, ⟨highHalf + highHalf - 1, highPlace, by omega, rfl⟩, by omega, by omega⟩

/-- No two numbers are the closest. -/
theorem Closest.not_less {low high : Nat} (lowClosest : format.Closest number low)
    (highClosest : format.Closest number high) : ¬ low < high := by
  intro less
  have equal : |number - high| = |number - low| :=
    le_antisymm (highClosest.closest low lowClosest.writes)
      (lowClosest.closest high highClosest.writes)
  rcases (lowClosest.even high highClosest.writes less.ne' equal).between
    (highClosest.even low lowClosest.writes less.ne equal.symm) less with
    ⟨other, written, above, below⟩
  have near := lowClosest.closest other written
  have above' : (low : ℚ) < other := by exact_mod_cast above
  have below' : (other : ℚ) < high := by exact_mod_cast below
  rcases abs_eq_abs.mp equal with same | middle
  · linarith
  · rw [abs_of_nonneg (by linarith : 0 <= number - low), le_abs] at near
    rcases near with near | near <;> linarith

theorem Closest.unique {units other : Nat} (closest : format.Closest number units)
    (otherClosest : format.Closest number other) : units = other :=
  le_antisymm (Nat.le_of_not_lt (otherClosest.not_less closest))
    (Nat.le_of_not_lt (closest.not_less otherClosest))

end Format

/-- Rounding has one result. -/
theorem Binary.Rounds.unique {format : Format} {negative : Bool} {magnitude : ℚ}
    {value other : Binary format} (rounds : Rounds negative magnitude value)
    (otherRounds : Rounds negative magnitude other) : value = other := by
  have bounded {units : Nat} (held : format.holds units = true) : units < 2 ^ format.limit :=
    ((format.holds_iff units).mp held).2
  cases rounds with
  | finite held closest =>
      cases otherRounds with
      | finite otherHeld otherClosest =>
          cases closest.unique otherClosest
          rfl
      | infinite otherClosest beyond =>
          cases closest.unique otherClosest
          exact absurd (bounded held) (Nat.not_lt.mpr beyond)
  | infinite closest beyond =>
      cases otherRounds with
      | finite otherHeld otherClosest =>
          cases closest.unique otherClosest
          exact absurd (bounded otherHeld) (Nat.not_lt.mpr beyond)
      | infinite => rfl

/-! ## Whole numbers -/

namespace Binary

/-- The closest whole number is at most a half away, and exactly a half only if it is even. -/
theorem nearestWhole_bounds (numerator : Nat) {denominator : Nat} (positive : 0 < denominator) :
    let rounded := nearestWhole numerator denominator * denominator
    2 * numerator <= 2 * rounded + denominator ∧ 2 * rounded <= 2 * numerator + denominator ∧
      (nearestWhole numerator denominator % 2 = 0 ∨
        2 * numerator < 2 * rounded + denominator ∧ 2 * rounded < 2 * numerator + denominator) := by
  have split := Nat.div_add_mod numerator denominator
  have less := Nat.mod_lt numerator positive
  rw [Nat.mul_comm] at split
  have next : (numerator / denominator + 1) * denominator =
      numerator / denominator * denominator + denominator := Nat.succ_mul _ _
  simp only [nearestWhole]
  split_ifs with below above even
  · omega
  · rw [next]
    omega
  · omega
  · rw [next]
    omega

theorem abs_sub_nearestWhole_le (numerator : Nat) {denominator : Nat} (positive : 0 < denominator) :
    |(numerator / denominator : ℚ) - nearestWhole numerator denominator| <= 1 / 2 := by
  rcases nearestWhole_bounds numerator positive with ⟨lower, upper, _⟩
  have positive' : (0 : ℚ) < denominator := by exact_mod_cast positive
  have lower' : (2 * numerator : ℚ) <= 2 * (nearestWhole numerator denominator * denominator) +
    denominator := by exact_mod_cast lower
  have upper' : (2 * (nearestWhole numerator denominator * denominator) : ℚ) <=
    2 * numerator + denominator := by exact_mod_cast upper
  rw [abs_sub_le_iff, sub_le_iff_le_add, div_le_iff₀ positive', sub_le_comm, le_div_iff₀ positive']
  constructor <;> linarith

/-- Two whole numbers are not both less than a half away. -/
theorem one_le_distances (number : ℚ) {left right : Nat} (different : left ≠ right) :
    1 <= |number - left| + |number - right| := by
  have whole : (1 : Int) <= |(left : Int) - right| :=
    Int.one_le_abs (sub_ne_zero.mpr (by exact_mod_cast different))
  have apart : (1 : ℚ) <= |(left : ℚ) - right| := by exact_mod_cast whole
  have path := abs_sub_le (left : ℚ) number right
  rw [abs_sub_comm (left : ℚ) number] at path
  exact apart.trans path

/-- No whole number is closer. -/
theorem nearestWhole_closest (numerator : Nat) {denominator : Nat} (positive : 0 < denominator)
    (other : Nat) : |(numerator / denominator : ℚ) - nearestWhole numerator denominator| <=
      |(numerator / denominator : ℚ) - other| := by
  by_cases same : other = nearestWhole numerator denominator
  · rw [same]
  · have apart := one_le_distances (numerator / denominator) same
    have near := abs_sub_nearestWhole_le numerator positive
    linarith

/-- Where another whole number is equally close, the even one is taken. -/
theorem nearestWhole_even (numerator : Nat) {denominator : Nat} (positive : 0 < denominator)
    {other : Nat} (different : other ≠ nearestWhole numerator denominator)
    (equal : |(numerator / denominator : ℚ) - other| =
      |(numerator / denominator : ℚ) - nearestWhole numerator denominator|) :
    Even (nearestWhole numerator denominator) := by
  have apart := one_le_distances (numerator / denominator) different
  rcases nearestWhole_bounds numerator positive with ⟨_, _, even | ⟨lower, upper⟩⟩
  · exact Nat.even_iff.mpr even
  · -- Less than a half away, so that no other whole number is equally close.
    have positive' : (0 : ℚ) < denominator := by exact_mod_cast positive
    have lower' : (2 * numerator : ℚ) < 2 * (nearestWhole numerator denominator * denominator) +
      denominator := by exact_mod_cast lower
    have upper' : (2 * (nearestWhole numerator denominator * denominator) : ℚ) <
      2 * numerator + denominator := by exact_mod_cast upper
    have near : |(numerator / denominator : ℚ) - nearestWhole numerator denominator| < 1 / 2 := by
      rw [abs_sub_lt_iff, sub_lt_iff_lt_add, div_lt_iff₀ positive', sub_lt_comm,
        lt_div_iff₀ positive']
      constructor <;> linarith
    linarith

theorem nearestWhole_le_succ (numerator denominator : Nat) :
    nearestWhole numerator denominator <= numerator / denominator + 1 := by
  simp only [nearestWhole]
  split_ifs <;> omega

end Binary

/-! ## The spacing of a format's numbers -/

theorem lt_two_pow_bitLength (value : Nat) : value < 2 ^ bitLength value := by
  by_cases zero : value = 0
  · simp [zero, bitLength]
  · rw [bitLength, if_neg zero]
    exact Nat.lt_log2_self

theorem two_pow_le_of_bitLength {value : Nat} (nonzero : value ≠ 0) :
    2 ^ (bitLength value - 1) <= value := by
  rw [bitLength, if_neg nonzero]
  exact Nat.log2_self_le nonzero

namespace Format

variable {format : Format}

/-- The distance of neighbouring numbers with the same leading digit as a whole number. -/
def spacing (format : Format) (whole : Nat) : Nat :=
  2 ^ (bitLength whole - format.precision)

theorem spacing_pos (whole : Nat) : 0 < format.spacing whole :=
  Nat.two_pow_pos _

theorem writesEven_zero : format.WritesEven 0 :=
  ⟨0, 0, Nat.two_pow_pos _, Even.zero, rfl⟩

theorem WritesEven.writes {units : Nat} : format.WritesEven units -> format.Writes units
  | ⟨significand, exponent, bounded, _, same⟩ => ⟨significand, exponent, bounded, same⟩

theorem writes_two_pow (precise : 1 < format.precision) (exponent : Nat) :
    format.Writes (2 ^ exponent) :=
  ⟨1, exponent, Nat.one_lt_two_pow (by omega), (Nat.one_mul _).symm⟩

/-- A significand with one digit more is a power of two, which is written with fewer digits. -/
theorem writesEven_of_le (precise : 1 < format.precision) {significand : Nat}
    (bounded : significand <= 2 ^ format.precision) (even : Even significand) (exponent : Nat) :
    format.WritesEven (significand * 2 ^ exponent) := by
  rcases Nat.lt_or_eq_of_le bounded with less | full
  · exact ⟨significand, exponent, less, even, rfl⟩
  · refine ⟨2 ^ (format.precision - 1), exponent + 1,
      Nat.pow_lt_pow_right (by decide) (by omega), ?_, ?_⟩
    · exact (Nat.even_pow.mpr ⟨even_two, by omega⟩)
    · rw [full, ← Nat.pow_add, ← Nat.pow_add]
      congr 1
      omega

theorem writes_of_le (precise : 1 < format.precision) {significand : Nat}
    (bounded : significand <= 2 ^ format.precision) (exponent : Nat) :
    format.Writes (significand * 2 ^ exponent) := by
  rcases Nat.lt_or_eq_of_le bounded with less | full
  · exact ⟨significand, exponent, less, rfl⟩
  · rw [full, ← Nat.pow_add]
    exact writes_two_pow precise _

/-- A number is a multiple of the spacing, or it has fewer digits than the whole number. -/
theorem Writes.aligned_or_less {other : Nat} (written : format.Writes other) (whole : Nat) :
    format.spacing whole ∣ other ∨
      format.precision < bitLength whole ∧ other < 2 ^ (bitLength whole - 1) := by
  rcases written with ⟨significand, exponent, bounded, rfl⟩
  by_cases coarse : bitLength whole - format.precision <= exponent
  · exact .inl (Nat.dvd_mul_left_of_dvd (Nat.pow_dvd_pow 2 coarse) _)
  · refine .inr ⟨by omega, ?_⟩
    calc
      significand * 2 ^ exponent < 2 ^ format.precision * 2 ^ exponent :=
        Nat.mul_lt_mul_of_pos_right bounded (Nat.two_pow_pos _)
      _ = 2 ^ (format.precision + exponent) := (Nat.pow_add ..).symm
      _ <= 2 ^ (bitLength whole - 1) := Nat.pow_le_pow_right (by decide) (by omega)

end Format

/-! ## Rounding to the spacing -/

namespace Binary

variable {format : Format} (numerator : Nat) {denominator : Nat}

/-- The closest multiple of the spacing, counted in spacings. -/
def nearestSpacings (format : Format) (numerator denominator : Nat) : Nat :=
  nearestWhole numerator (denominator * format.spacing (numerator / denominator))

theorem nearestSpacings_le : nearestSpacings format numerator denominator <= 2 ^ format.precision := by
  let whole := numerator / denominator
  have quotient : numerator / (denominator * format.spacing whole) < 2 ^ format.precision := by
    rw [← Nat.div_div_eq_div_mul, Nat.div_lt_iff_lt_mul (Format.spacing_pos _)]
    calc
      whole < 2 ^ bitLength whole := lt_two_pow_bitLength whole
      _ <= 2 ^ (format.precision + (bitLength whole - format.precision)) :=
        Nat.pow_le_pow_right (by decide) (by omega)
      _ = 2 ^ format.precision * format.spacing whole := Nat.pow_add ..
  exact (nearestWhole_le_succ ..).trans quotient

/-- Distances in spacings. -/
theorem abs_sub_mul_spacing (count : Nat) :
    |(numerator / denominator : ℚ) - (count * format.spacing (numerator / denominator) : Nat)| =
      format.spacing (numerator / denominator) *
        |(numerator / (denominator * format.spacing (numerator / denominator) : Nat) : ℚ) - count| := by
  have positive : (0 : ℚ) < format.spacing (numerator / denominator) := by
    exact_mod_cast Format.spacing_pos _
  have scaled : (numerator / denominator : ℚ) -
      (count * format.spacing (numerator / denominator) : Nat) =
        format.spacing (numerator / denominator) *
          (numerator / (denominator * format.spacing (numerator / denominator) : Nat) - count) := by
    push_cast
    field_simp
  rw [scaled, abs_mul, abs_of_pos positive]

/-- A multiple of the spacing is not closer. -/
theorem nearestSpacings_closest (positive : 0 < denominator) {other : Nat}
    (aligned : format.spacing (numerator / denominator) ∣ other) :
    let units := nearestSpacings format numerator denominator * format.spacing (numerator / denominator)
    |(numerator / denominator : ℚ) - units| <= |(numerator / denominator : ℚ) - other| := by
  rcases aligned with ⟨count, rfl⟩
  intro units
  rw [Nat.mul_comm _ count, abs_sub_mul_spacing, abs_sub_mul_spacing]
  exact mul_le_mul_of_nonneg_left
    (nearestWhole_closest numerator (Nat.mul_pos positive (Format.spacing_pos _)) count)
    (Nat.cast_nonneg _)

/-- A number with fewer digits is further away than the power of two between. -/
theorem nearestSpacings_less (precise : 1 < format.precision) (positive : 0 < denominator)
    {other : Nat} (longer : format.precision < bitLength (numerator / denominator))
    (less : other < 2 ^ (bitLength (numerator / denominator) - 1)) :
    let units := nearestSpacings format numerator denominator * format.spacing (numerator / denominator)
    |(numerator / denominator : ℚ) - units| < |(numerator / denominator : ℚ) - other| := by
  intro units
  let power := 2 ^ (bitLength (numerator / denominator) - 1)
  have aligned : format.spacing (numerator / denominator) ∣ power :=
    Nat.pow_dvd_pow 2 (by omega)
  have nonzero : numerator / denominator ≠ 0 := by
    intro zero
    rw [zero] at longer
    exact absurd longer (by simp [bitLength])
  have above : (power : ℚ) <= numerator / denominator :=
    le_trans (by exact_mod_cast two_pow_le_of_bitLength nonzero) Nat.cast_div_le
  have apart : (other : ℚ) < power := by exact_mod_cast less
  calc
    |(numerator / denominator : ℚ) - units| <= |(numerator / denominator : ℚ) - power| :=
      nearestSpacings_closest numerator positive aligned
    _ = numerator / denominator - power := abs_of_nonneg (sub_nonneg.mpr above)
    _ < numerator / denominator - other := by linarith
    _ <= |(numerator / denominator : ℚ) - other| := le_abs_self _

/-- The quotient is rounded to the closest number of the format. -/
theorem closest_nearestSpacings (precise : 1 < format.precision) (positive : 0 < denominator) :
    format.Closest (numerator / denominator)
      (nearestSpacings format numerator denominator * format.spacing (numerator / denominator)) where
  writes := Format.writes_of_le precise (nearestSpacings_le numerator) _
  closest other written := by
    rcases written.aligned_or_less (numerator / denominator) with aligned | ⟨longer, less⟩
    · exact nearestSpacings_closest numerator positive aligned
    · exact (nearestSpacings_less numerator precise positive longer less).le
  even other written different equal := by
    rcases written.aligned_or_less (numerator / denominator) with ⟨count, rfl⟩ | ⟨longer, less⟩
    · rw [Nat.mul_comm _ count] at different equal
      rw [abs_sub_mul_spacing, abs_sub_mul_spacing] at equal
      refine Format.writesEven_of_le precise (nearestSpacings_le numerator) ?_ _
      refine nearestWhole_even numerator (Nat.mul_pos positive (Format.spacing_pos _))
        (fun same => different (congrArg (· * _) same)) ?_
      exact mul_left_cancel₀ (by exact_mod_cast (Format.spacing_pos _).ne') equal
    · exact absurd equal (nearestSpacings_less numerator precise positive longer less).ne'

end Binary

/-! ## The bound of the format -/

theorem bitLength_le_of_lt {value length : Nat} (less : value < 2 ^ length) :
    bitLength value <= length := by
  by_cases zero : value = 0
  · simp [zero, bitLength]
  · have power := two_pow_le_of_bitLength zero
    have exponent := (Nat.pow_lt_pow_iff_right (by decide)).mp (power.trans_lt less)
    omega

/-- Below its bound the format holds what it writes. -/
theorem Format.Writes.holds {format : Format} {units : Nat} (written : format.Writes units)
    (bounded : units < 2 ^ format.limit) : format.holds units = true := by
  rw [Format.holds_iff]
  refine ⟨?_, bounded⟩
  rcases written with ⟨significand, exponent, short, rfl⟩
  have length := bitLength_mul_two_pow_le significand exponent
  have digits := bitLength_le_of_lt short
  exact Nat.dvd_mul_left_of_dvd (Nat.pow_dvd_pow 2 (by omega)) _

/-- Rounding does not pass a number of the format. -/
theorem Format.Closest.le_of_le {format : Format} {number : ℚ} {units other : Nat}
    (closest : format.Closest number units) (written : format.Writes other)
    (below : other <= number) : other <= units := by
  by_contra above
  have less : (units : ℚ) < other := by exact_mod_cast Nat.lt_of_not_le above
  have near := closest.closest other written
  rw [abs_of_nonneg (by linarith), abs_of_nonneg (by linarith)] at near
  linarith

/-- Less than half a unit is rounded to nothing. -/
theorem Format.closest_zero {format : Format} {number : ℚ} (positive : 0 <= number)
    (small : number < 1 / 2) : format.Closest number 0 where
  writes := writesEven_zero.writes
  closest other _ := by
    by_cases zero : other = 0
    · rw [zero]
    · have apart := Binary.one_le_distances number zero
      rw [Nat.cast_zero, sub_zero, abs_of_nonneg positive] at *
      linarith
  even _ _ _ _ := writesEven_zero

namespace Binary

variable {format : Format} {negative : Bool} {magnitude : ℚ}

theorem rounds_ofUnits {units : Nat}
    (closest : format.Closest (magnitude * 2 ^ format.scale) units) :
    Rounds negative magnitude (ofUnits format negative units) := by
  rw [ofUnits]
  split_ifs with held
  · exact .finite held closest
  · exact .infinite closest (Nat.le_of_not_lt fun bounded => held (closest.writes.holds bounded))

/-- A quotient is rounded to the closest number. -/
theorem rounds_ofRatio (precise : 1 < format.precision) (numerator : Nat) {denominator : Nat}
    (positive : 0 < denominator) :
    Rounds negative (numerator / denominator) (ofRatio format negative numerator denominator) := by
  refine rounds_ofUnits ?_
  have units : (numerator / denominator : ℚ) * 2 ^ format.scale =
      (numerator * 2 ^ format.scale : Nat) / denominator := by
    push_cast
    ring
  rw [units]
  exact closest_nearestSpacings _ precise positive

/-- From the bound on a magnitude is infinite. -/
theorem Rounds.infinite_of_le {value : Binary format} (precise : 1 < format.precision)
    (rounds : Rounds negative magnitude value)
    (beyond : 2 ^ format.limit <= magnitude * 2 ^ format.scale) :
    Rounds negative magnitude (.infinite negative : Binary format) := by
  have bound {units : Nat} (closest : format.Closest (magnitude * 2 ^ format.scale) units) :
      2 ^ format.limit <= units :=
    closest.le_of_le (Format.writes_two_pow precise _) (by exact_mod_cast beyond)
  cases rounds with
  | finite held closest => exact .infinite closest (bound closest)
  | infinite closest beyond => exact .infinite closest beyond

end Binary

/-! ## Decimal numerals -/

namespace Decimal

/-- The number that a numeral denotes, without its sign. -/
def magnitude (decimal : Decimal) : ℚ :=
  decimal.significand * 10 ^ decimal.exponent

/-- The power of ten at the first digit. -/
def leading (decimal : Decimal) : Int :=
  ((Text.digitsOf decimal.significand).length : Int) - 1 + decimal.exponent

theorem magnitude_nonneg (decimal : Decimal) : 0 <= decimal.magnitude :=
  mul_nonneg (Nat.cast_nonneg _) (zpow_nonneg (by norm_num) _)

theorem length_digitsOf (value : Nat) : ∃ before : Nat,
    (Text.digitsOf value).length = before + 1 ∧ (value ≠ 0 -> 10 ^ before <= value) ∧
      value < 10 ^ (before + 1) := by
  have positive : 0 < (Text.digitsOf value).length := Nat.length_toDigits_pos
  refine ⟨(Text.digitsOf value).length - 1, by omega, fun nonzero => ?_, ?_⟩
  · by_cases single : (Text.digitsOf value).length = 1
    · rw [single]
      exact Nat.one_le_iff_ne_zero.mpr nonzero
    · have fewer : ¬ (Text.digitsOf value).length <= (Text.digitsOf value).length - 1 := by omega
      rw [Text.digitsOf, Nat.length_toDigits_le_iff (by decide) (by rw [Text.digitsOf] at *; omega)]
        at fewer
      exact Nat.le_of_not_lt fewer
  · rw [Nat.sub_add_cancel positive]
    exact (Nat.length_toDigits_le_iff (by decide) positive).mp le_rfl

theorem magnitude_lt (decimal : Decimal) : decimal.magnitude < 10 ^ (decimal.leading + 1) := by
  rcases length_digitsOf decimal.significand with ⟨before, length, _, less⟩
  have split : decimal.leading + 1 = (before + 1 : Nat) + decimal.exponent := by
    rw [leading, length]
    push_cast
    ring
  rw [split, zpow_add₀ (by norm_num), zpow_natCast, magnitude]
  exact mul_lt_mul_of_pos_right (by exact_mod_cast less) (zpow_pos (by norm_num) _)

theorem le_magnitude (decimal : Decimal) (nonzero : decimal.significand ≠ 0) :
    10 ^ decimal.leading <= decimal.magnitude := by
  rcases length_digitsOf decimal.significand with ⟨before, length, least, _⟩
  have split : decimal.leading = before + decimal.exponent := by
    rw [leading, length]
    push_cast
    ring
  rw [split, zpow_add₀ (by norm_num), zpow_natCast, magnitude]
  exact mul_le_mul_of_nonneg_right (by exact_mod_cast least nonzero) (zpow_nonneg (by norm_num) _)

end Decimal

namespace Binary

/-- The numeral as a quotient of whole numbers is rounded. -/
theorem rounds_quotient {format : Format} (precise : 1 < format.precision) (decimal : Decimal) :
    Rounds decimal.negative decimal.magnitude
      (if 0 <= decimal.exponent then
        ofRatio format decimal.negative (decimal.significand * Nat.pow 10 decimal.exponent.toNat) 1
      else
        ofRatio format decimal.negative decimal.significand
          (Nat.pow 10 (-decimal.exponent).toNat)) := by
  split_ifs with whole
  · have quotient : decimal.magnitude =
        (decimal.significand * Nat.pow 10 decimal.exponent.toNat : Nat) / (1 : Nat) := by
      obtain ⟨power, same⟩ := Int.eq_ofNat_of_zero_le whole
      rw [Decimal.magnitude, same, zpow_natCast]
      simp
    rw [quotient]
    exact rounds_ofRatio precise _ Nat.one_pos
  · have quotient : decimal.magnitude =
        decimal.significand / (Nat.pow 10 (-decimal.exponent).toNat : Nat) := by
      obtain ⟨power, same⟩ := Int.eq_ofNat_of_zero_le (by omega : 0 <= -decimal.exponent)
      rw [Decimal.magnitude, same, ← neg_neg decimal.exponent, same, zpow_neg, zpow_natCast]
      simp [div_eq_mul_inv]
    rw [quotient]
    exact rounds_ofRatio precise _ (Nat.pow_pos (by decide))

/-- A first digit far above the bound makes the numeral too large. -/
theorem two_pow_limit_le {format : Format} {decimal : Decimal} (nonzero : decimal.significand ≠ 0)
    (far : (format.limit : Int) < 3 * decimal.leading) :
    (2 : ℚ) ^ format.limit <= decimal.magnitude * 2 ^ format.scale := by
  have one : (1 : ℚ) <= 2 ^ format.scale := one_le_pow₀ (by norm_num)
  calc
    (2 : ℚ) ^ format.limit = 2 ^ (format.limit : Int) := (zpow_natCast ..).symm
    _ <= 2 ^ (3 * decimal.leading) := zpow_le_zpow_right₀ (by norm_num) far.le
    _ = (2 ^ (3 : Int)) ^ decimal.leading := zpow_mul ..
    _ <= 10 ^ decimal.leading := zpow_le_zpow_left₀ (by omega) (by norm_num) (by norm_num)
    _ <= decimal.magnitude := decimal.le_magnitude nonzero
    _ <= decimal.magnitude * 2 ^ format.scale := le_mul_of_one_le_right decimal.magnitude_nonneg one

/-- A first digit far below the unit makes the numeral too small. -/
theorem magnitude_lt_half {format : Format} {decimal : Decimal}
    (far : 3 * (decimal.leading + 1) < -(format.scale + 1 : Int)) :
    decimal.magnitude * 2 ^ format.scale < 1 / 2 := by
  have power : (10 : ℚ) ^ (decimal.leading + 1) <= 2 ^ (3 * (decimal.leading + 1)) := by
    have inverse : ((2 : ℚ) ^ (3 : Int)) ^ (-(decimal.leading + 1)) <=
        10 ^ (-(decimal.leading + 1)) :=
      zpow_le_zpow_left₀ (by omega) (by norm_num) (by norm_num)
    rw [zpow_neg, zpow_neg, ← zpow_mul] at inverse
    exact (inv_le_inv₀ (by positivity) (by positivity)).mp inverse
  calc
    decimal.magnitude * 2 ^ format.scale < 10 ^ (decimal.leading + 1) * 2 ^ format.scale :=
      mul_lt_mul_of_pos_right decimal.magnitude_lt (by positivity)
    _ <= 2 ^ (3 * (decimal.leading + 1)) * 2 ^ format.scale :=
      mul_le_mul_of_nonneg_right power (by positivity)
    _ = 2 ^ (3 * (decimal.leading + 1) + format.scale) := by
      rw [zpow_add₀ (by norm_num), zpow_natCast]
    _ <= 2 ^ (-1 : Int) := zpow_le_zpow_right₀ (by norm_num) (by omega)
    _ = 1 / 2 := by norm_num

/-- A numeral is read as the closest number of the format. -/
theorem rounds_ofDecimal {format : Format} (precise : 1 < format.precision) (decimal : Decimal) :
    Rounds decimal.negative decimal.magnitude (ofDecimal format decimal) := by
  have zero (small : decimal.magnitude * 2 ^ format.scale < 1 / 2) :
      Rounds decimal.negative decimal.magnitude (ofUnits format decimal.negative 0) :=
    rounds_ofUnits (Format.closest_zero
      (mul_nonneg decimal.magnitude_nonneg (by positivity)) small)
  have direct := rounds_quotient precise decimal
  rw [ofDecimal]
  change Rounds _ _ (if decimal.significand = 0 then _
    else if (format.limit : Int) < 3 * decimal.leading then _
    else if 3 * (decimal.leading + 1) < -(format.scale + 1 : Int) then _ else _)
  by_cases none : decimal.significand = 0
  · rw [if_pos none]
    exact zero (by simp [Decimal.magnitude, none])
  rw [if_neg none]
  by_cases large : (format.limit : Int) < 3 * decimal.leading
  · rw [if_pos large]
    exact direct.infinite_of_le precise (two_pow_limit_le none large)
  rw [if_neg large]
  by_cases small : 3 * (decimal.leading + 1) < -(format.scale + 1 : Int)
  · rw [if_pos small]
    exact zero (magnitude_lt_half small)
  · rw [if_neg small]
    exact direct

end Binary
end ItemModels
