import ItemModels.Number.Binary
import Mathlib.Tactic.Ring

namespace ItemModels

/-!
# Conversions that lose nothing

A quotient that is a whole number of units which the format holds is not
rounded.  So a number stays what it is in its own format, and it survives the
way to a wider format and back.  A format is wider when it has at least as many
digits, a unit that is no coarser, and a bound that is no lower.

With a finer unit the number of units grows by a power of two.  The digits of a
number are then followed by zeros, and the leading ones stay as they are.
-/

/-- Every number of the narrow format is one of the wide format. -/
structure Format.Widens (wide narrow : Format) : Prop where
  precision : narrow.precision <= wide.precision
  scale : narrow.scale <= wide.scale
  limit : narrow.limit + (wide.scale - narrow.scale) <= wide.limit

theorem Format.widens_self (format : Format) : format.Widens format :=
  ⟨Nat.le_refl _, Nat.le_refl _, by omega⟩

theorem Format.double_widens_single : Format.double.Widens .single :=
  ⟨by decide, by decide, by decide⟩

theorem Format.holds_iff (format : Format) (units : Nat) :
    format.holds units = true <->
      2 ^ (bitLength units - format.precision) ∣ units ∧ units < 2 ^ format.limit := by
  rw [holds, Bool.and_eq_true, beq_iff_eq, decide_eq_true_iff, Nat.dvd_iff_mod_eq_zero]
  rfl

theorem log2_mul_two_pow {units : Nat} (nonzero : units ≠ 0) (shift : Nat) :
    (units * 2 ^ shift).log2 = units.log2 + shift := by
  induction shift with
  | zero => rw [Nat.pow_zero, Nat.mul_one, Nat.add_zero]
  | succ shift inductionHypothesis =>
      have doubled : units * 2 ^ (shift + 1) = 2 * (units * 2 ^ shift) := by
        rw [Nat.pow_succ, ← Nat.mul_assoc, Nat.mul_comm]
      have positive : units * 2 ^ shift ≠ 0 :=
        Nat.mul_ne_zero nonzero (Nat.ne_of_gt (Nat.two_pow_pos shift))
      rw [doubled, Nat.log2_two_mul positive, inductionHypothesis]
      rfl

theorem bitLength_mul_two_pow_le (units shift : Nat) :
    bitLength (units * 2 ^ shift) <= bitLength units + shift := by
  by_cases zero : units = 0
  · simp [zero, bitLength]
  · have positive : units * 2 ^ shift ≠ 0 :=
      Nat.mul_ne_zero zero (Nat.ne_of_gt (Nat.two_pow_pos shift))
    rw [bitLength, bitLength, if_neg zero, if_neg positive, log2_mul_two_pow zero]
    omega

theorem Format.Widens.holds_shifted {wide narrow : Format} (widens : wide.Widens narrow)
    {units : Nat} (held : narrow.holds units = true) :
    wide.holds (units * 2 ^ (wide.scale - narrow.scale)) = true := by
  rcases widens with ⟨precision, scale, limit⟩
  rcases (narrow.holds_iff units).mp held with ⟨aligned, bounded⟩
  rw [Format.holds_iff]
  let shift := wide.scale - narrow.scale
  constructor
  · have length := bitLength_mul_two_pow_le units shift
    have place : bitLength (units * 2 ^ shift) - wide.precision <=
        (bitLength units - narrow.precision) + shift := by
      omega
    have finer := Nat.pow_dvd_pow 2 place
    rw [Nat.pow_add] at finer
    exact Nat.dvd_trans finer (Nat.mul_dvd_mul_right aligned _)
  · calc
      units * 2 ^ shift < 2 ^ narrow.limit * 2 ^ shift :=
        Nat.mul_lt_mul_of_pos_right bounded (Nat.two_pow_pos shift)
      _ = 2 ^ (narrow.limit + shift) := (Nat.pow_add ..).symm
      _ <= 2 ^ wide.limit := Nat.pow_le_pow_right (by decide) limit

namespace Binary

theorem nearestWhole_mul (quotient : Nat) {denominator : Nat} (positive : 0 < denominator) :
    nearestWhole (quotient * denominator) denominator = quotient := by
  have divided : quotient * denominator / denominator = quotient := Nat.mul_div_cancel _ positive
  have remainder : quotient * denominator % denominator = 0 := Nat.mul_mod_left _ _
  simp only [nearestWhole, divided, remainder, Nat.mul_zero, positive, if_true]

/-- A whole number of units that the format holds is not rounded. -/
theorem nearest_mul {format : Format} {units denominator : Nat} (negative : Bool)
    (held : format.holds units = true) (positive : 0 < denominator) :
    nearest format negative (units * denominator) denominator = .finite negative units held := by
  rcases ((format.holds_iff units).mp held).1 with ⟨quotient, spaced⟩
  let spacing := 2 ^ (bitLength units - format.precision)
  have divided : units * denominator / denominator = units := Nat.mul_div_cancel _ positive
  have numerator : units * denominator = quotient * (denominator * spacing) := by
    calc
      units * denominator = spacing * quotient * denominator := congrArg (· * denominator) spaced
      _ = quotient * (denominator * spacing) := by ring
  have rounded : nearestWhole (units * denominator) (denominator * spacing) * spacing = units := by
    rw [numerator, nearestWhole_mul _ (Nat.mul_pos positive (Nat.two_pow_pos _)), Nat.mul_comm]
    exact spaced.symm
  have made : nearest format negative (units * denominator) denominator =
      ofUnits format negative
        (nearestWhole (units * denominator) (denominator * spacing) * spacing) := by
    rw [nearest, divided]
    rfl
  rw [made, rounded, ofUnits, dif_pos held]

/-- A wider format has the number itself. -/
theorem convert_widened {wide narrow : Format} (widens : wide.Widens narrow) {negative : Bool}
    {units : Nat} (held : narrow.holds units = true) :
    (finite negative units held).convert wide =
      finite negative (units * 2 ^ (wide.scale - narrow.scale)) (widens.holds_shifted held) := by
  have none : narrow.scale - wide.scale = 0 := Nat.sub_eq_zero_of_le widens.scale
  have unrounded := nearest_mul negative (widens.holds_shifted held) Nat.one_pos
  rw [Nat.mul_one] at unrounded
  rw [convert, none]
  exact unrounded

/-- A number survives the way to a wider format and back. -/
theorem convert_convert {wide narrow : Format} (widens : wide.Widens narrow)
    (value : Binary narrow) : (value.convert wide).convert narrow = value := by
  cases value with
  | nan => rfl
  | infinite negative => rfl
  | finite negative units held =>
      have none : narrow.scale - wide.scale = 0 := Nat.sub_eq_zero_of_le widens.scale
      rw [convert_widened widens held, convert, none]
      have unrounded := nearest_mul negative held (Nat.two_pow_pos (wide.scale - narrow.scale))
      rw [← Nat.mul_one (units * 2 ^ (wide.scale - narrow.scale))] at unrounded
      exact unrounded

theorem convert_self {format : Format} (value : Binary format) : value.convert format = value := by
  cases value with
  | nan => rfl
  | infinite negative => rfl
  | finite negative units held => simp [convert_widened format.widens_self held]

theorem less_self {format : Format} (value : Binary format) : value.less value = false := by
  rw [less]
  cases value.place? <;> simp

end Binary
end ItemModels
