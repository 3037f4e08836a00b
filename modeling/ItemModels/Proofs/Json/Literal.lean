import ItemModels.Json.Literal
import ItemModels.Proofs.Json.Number
import Mathlib.Algebra.Ring.Int.Defs
import Mathlib.Algebra.Group.Nat.Defs
import Mathlib.Data.List.TakeWhile

namespace ItemModels

/-!
# Whole literals

A literal without a point and an exponent can be of any length, and what it is
read as depends on its size.  Between the bounds of a signed word it is read as
itself.  From there up to the bound of an unsigned word it wraps and becomes
negative.  Beyond these words it is read as a binary number, which is then held
at the bounds of a signed word.

The roundings on the way cannot bring a number back into the range of words.  The
bounds are powers of two, and a number that is at least a power of two is not
rounded to less than this power.  So it is enough to follow powers of two that lie
below the numbers: below the digits that are taken, below the power of ten that
stands for the digits that are dropped, and below their product.
-/

namespace Binary

variable {format : Format}

theorem quotient_le_nearestWhole (numerator denominator : Nat) :
    numerator / denominator <= nearestWhole numerator denominator := by
  simp only [nearestWhole]
  split
  · exact Nat.le_refl _
  · split
    · exact Nat.le_succ _
    · split
      · exact Nat.le_refl _
      · exact Nat.le_succ _

/-- Rounding to multiples of a power of two keeps the greater powers as lower bounds. -/
theorem two_pow_le_nearestWhole {numerator denominator exponent place : Nat}
    (positive : 0 < denominator) (aligned : place <= exponent)
    (large : 2 ^ exponent * denominator <= numerator) :
    2 ^ exponent <= nearestWhole numerator (denominator * 2 ^ place) * 2 ^ place := by
  have split : 2 ^ (exponent - place) * 2 ^ place = 2 ^ exponent := by
    rw [← Nat.pow_add, Nat.sub_add_cancel aligned]
  have spaced : 2 ^ (exponent - place) * (denominator * 2 ^ place) <= numerator := by
    rw [Nat.mul_comm denominator, ← Nat.mul_assoc, split]
    exact large
  have quotient : 2 ^ (exponent - place) <= numerator / (denominator * 2 ^ place) :=
    (Nat.le_div_iff_mul_le (Nat.mul_pos positive (Nat.two_pow_pos place))).mpr spaced
  calc
    2 ^ exponent = 2 ^ (exponent - place) * 2 ^ place := split.symm
    _ <= nearestWhole numerator (denominator * 2 ^ place) * 2 ^ place :=
      Nat.mul_le_mul_right _ (Nat.le_trans quotient (quotient_le_nearestWhole _ _))

/-- Numbers of a format keep powers of two as lower bounds when they are rounded to it.  The spacing
of the format is never wider than the leading power of the quotient. -/
theorem le_units_of_nearest {negative negative' : Bool} {numerator denominator exponent units : Nat}
    {held : format.holds units = true} (precise : 0 < format.precision)
    (positive : 0 < denominator) (large : 2 ^ exponent * denominator <= numerator)
    (rounded : nearest format negative numerator denominator = .finite negative' units held) :
    negative' = negative ∧ 2 ^ exponent <= units := by
  let quotient := numerator / denominator
  let place := bitLength quotient - format.precision
  have enough : 2 ^ exponent <= quotient := (Nat.le_div_iff_mul_le positive).mpr large
  have nonzero : quotient ≠ 0 := Nat.ne_zero_of_lt (Nat.lt_of_lt_of_le (Nat.two_pow_pos _) enough)
  have leading : exponent <= quotient.log2 := (Nat.le_log2 nonzero).mpr enough
  have aligned : place <= quotient.log2 := by
    have length : bitLength quotient = quotient.log2 + 1 := if_neg nonzero
    omega
  have covered : 2 ^ quotient.log2 * denominator <= numerator :=
    (Nat.le_div_iff_mul_le positive).mp (Nat.log2_self_le nonzero)
  have bound : 2 ^ exponent <= nearestWhole numerator (denominator * 2 ^ place) * 2 ^ place :=
    Nat.le_trans (Nat.pow_le_pow_right (by decide) leading)
      (two_pow_le_nearestWhole positive aligned covered)
  have made : ofUnits format negative
      (nearestWhole numerator (denominator * 2 ^ place) * 2 ^ place) =
        .finite negative' units held := rounded
  unfold ofUnits at made
  split at made
  · cases made
    exact ⟨rfl, bound⟩
  · cases made

theorem le_units_of_ofRatio {negative negative' : Bool} {magnitude exponent units : Nat}
    {held : format.holds units = true} (precise : 0 < format.precision)
    (large : 2 ^ exponent <= magnitude)
    (rounded : ofRatio format negative magnitude 1 = .finite negative' units held) :
    negative' = negative ∧ 2 ^ (exponent + format.scale) <= units := by
  have scaled : 2 ^ (exponent + format.scale) * 1 <= magnitude * Nat.pow 2 format.scale := by
    rw [Nat.mul_one, Nat.pow_add]
    exact Nat.mul_le_mul_right _ large
  exact le_units_of_nearest precise Nat.one_pos scaled rounded

/-- Only finite numbers have a finite product. -/
theorem finite_of_multiply {left right : Binary format} {negative : Bool} {units : Nat}
    {held : format.holds units = true}
    (product : multiply left right = .finite negative units held) :
    (∃ negative units held, left = .finite negative units held) ∧
      ∃ negative units held, right = .finite negative units held := by
  cases left with
  | nan => cases product
  | infinite negative' =>
      cases right with
      | nan => cases product
      | infinite => cases product
      | finite =>
          simp only [multiply] at product
          split at product <;> cases product
  | finite negative' units' held' =>
      cases right with
      | nan => cases product
      | infinite =>
          simp only [multiply] at product
          split at product <;> cases product
      | finite => exact ⟨⟨_, _, _, rfl⟩, _, _, _, rfl⟩

/-- Powers of two below two numbers give one below their product. -/
theorem le_units_of_multiply {negative leftNegative rightNegative : Bool}
    {exponent place units left right : Nat} {held : format.holds units = true}
    {leftHeld : format.holds left = true} {rightHeld : format.holds right = true}
    (precise : 0 < format.precision)
    (leftLarge : 2 ^ (exponent + format.scale) <= left)
    (rightLarge : 2 ^ (place + format.scale) <= right)
    (product : multiply (.finite leftNegative left leftHeld : Binary format)
      (.finite rightNegative right rightHeld) = .finite negative units held) :
    negative = (leftNegative != rightNegative) ∧
      2 ^ (exponent + place + format.scale) <= units := by
  have large : 2 ^ (exponent + place + format.scale) * Nat.pow 2 format.scale <= left * right :=
    calc
      2 ^ (exponent + place + format.scale) * Nat.pow 2 format.scale =
          2 ^ (exponent + format.scale) * 2 ^ (place + format.scale) := by
        rw [Nat.pow_eq, ← Nat.pow_add, ← Nat.pow_add]
        congr 1
        omega
      _ <= left * right := Nat.mul_le_mul leftLarge rightLarge
  exact le_units_of_nearest precise (Nat.two_pow_pos _) large product

/-- A magnitude beyond the bounds is held at one of them. -/
theorem truncated_of_large {low high : Int} {exponent : Nat} (negative : Bool) {units : Nat}
    (held : format.holds units = true) (ordered : low <= high) (lower : -2 ^ exponent <= low)
    (upper : high <= 2 ^ exponent) (large : 2 ^ (exponent + format.scale) <= units) :
    truncated low high (.finite negative units held) = if negative then low else high := by
  have whole : 2 ^ exponent <= units / Nat.pow 2 format.scale := by
    rw [Nat.pow_eq, Nat.le_div_iff_mul_le (Nat.two_pow_pos _), ← Nat.pow_add]
    exact large
  have beyond : (2 : Int) ^ exponent <= (units / Nat.pow 2 format.scale : Nat) := by
    exact_mod_cast whole
  cases negative <;> simp only [truncated, signed, if_true, Bool.false_eq_true, if_false] <;> omega

end Binary

namespace JsonNumber

/-- The literal of a whole number: digits after a minus or nothing. -/
structure WholeLiteral where
  negative : Bool
  digits : List Char
  nonempty : digits ≠ []
  allDigits : ∀ digit ∈ digits, digit.isDigit = true

namespace WholeLiteral

/-- The characters of the literal. -/
def letters (literal : WholeLiteral) : List Char :=
  if literal.negative then '-' :: literal.digits else literal.digits

/-- The number that the digits write. -/
def magnitude (literal : WholeLiteral) : Nat := Text.digitsValue literal.digits

/-- The number that the literal writes. -/
def value (literal : WholeLiteral) : Int := Binary.signed literal.negative literal.magnitude

theorem readSign_letters (literal : WholeLiteral) :
    Decimal.readSign literal.letters = (literal.negative, literal.digits) := by
  rcases literal with ⟨negative, digits, nonempty, allDigits⟩
  cases negative with
  | true => rfl
  | false =>
      cases digits with
      | nil => exact absurd rfl nonempty
      | cons first rest =>
          have digit : first.isDigit = true := allDigits first List.mem_cons_self
          simp only [letters, Bool.false_eq_true, if_false]
          unfold Decimal.readSign
          split
          · rename_i same
            cases same
            cases digit
          · rename_i same
            cases same
            cases digit
          · rfl

/-- A whole literal has no fraction and no exponent, so only dropped digits scale its word. -/
theorem real_letters (literal : WholeLiteral) :
    real? literal.letters = scaled? literal.negative (takeDigits 0 literal.digits).1
      (takeDigits 0 literal.digits).2.length := by
  have taken : literal.digits.takeWhile Char.isDigit = literal.digits :=
    List.takeWhile_eq_self_iff.mpr literal.allDigits
  have left : literal.digits.dropWhile Char.isDigit = [] :=
    List.dropWhile_eq_nil_iff.mpr literal.allDigits
  unfold real?
  simp [readSign_letters, taken, left, Decimal.readFraction, Decimal.readExponent?, takeDigits]

theorem not_fractional (literal : WholeLiteral) :
    (literal.letters.any fun letter => letter == '.' || letter == 'e' || letter == 'E') = false := by
  rw [List.any_eq_false]
  intro letter listed
  have either : letter = '-' ∨ letter ∈ literal.digits := by
    unfold letters at listed
    cases sign : literal.negative with
    | true => simpa [sign] using listed
    | false => exact Or.inr (by simpa [sign] using listed)
  rcases either with rfl | inside
  · decide
  · have digit := literal.allDigits letter inside
    intro mark
    simp only [Bool.or_eq_true, beq_iff_eq] at mark
    rcases mark with (rfl | rfl) | rfl <;> cases digit

end WholeLiteral

/-- The signed word that a whole literal is read as. -/
def wordOf (value : Int) : Int :=
  if value < -2 ^ 63 then -2 ^ 63
  else if value < 2 ^ 63 then value
  else if value < 2 ^ 64 then value - 2 ^ 64
  else 2 ^ 63 - 1

/-- Digits that fit an unsigned word are kept as a whole number. -/
theorem ofLiteral_digits {literal : WholeLiteral} (sign : literal.negative = false) :
    ofLiteral? literal.letters =
      if literal.magnitude < 2 ^ 64 then some (.whole literal.magnitude)
      else real? literal.letters := by
  have written : Text.digitsValue literal.digits = literal.magnitude := rfl
  unfold ofLiteral?
  simp [literal.not_fractional, literal.readSign_letters, written, sign]

/-- Digits after a minus that fit a signed word are kept as a whole number, unless they are zero. -/
theorem ofLiteral_minus {literal : WholeLiteral} (sign : literal.negative = true) :
    ofLiteral? literal.letters =
      if 0 < literal.magnitude ∧ literal.magnitude <= 2 ^ 63 then
        some (.whole (-literal.magnitude))
      else real? literal.letters := by
  have written : Text.digitsValue literal.digits = literal.magnitude := rfl
  unfold ofLiteral?
  simp [literal.not_fractional, literal.readSign_letters, written, sign]

theorem reading_whole (value : Int) (least : -2 ^ 63 <= value) (most : value < 2 ^ 64) :
    reading (.whole value) = wordOf value := by
  simp only [reading, wordOf, BitVec.toInt_ofInt, Int.bmod_def]
  omega

/-- The number that digits write when they are appended to a number. -/
def appended (start : Nat) (digits : List Char) : Nat :=
  digits.foldl (fun value digit => 10 * value + Text.digitValue digit) start

theorem appended_cons (start : Nat) (digit : Char) (rest : List Char) :
    appended start (digit :: rest) = appended (10 * start + Text.digitValue digit) rest := by
  rw [appended, List.foldl_cons, appended]

theorem le_appended (start : Nat) (digits : List Char) : start <= appended start digits := by
  induction digits generalizing start with
  | nil => exact Nat.le_refl _
  | cons digit rest ih =>
      have longer := ih (10 * start + Text.digitValue digit)
      rw [appended_cons]
      omega

theorem digitValue_le {digit : Char} (isDigit : digit.isDigit = true) :
    Text.digitValue digit <= 9 := by
  simp only [Char.isDigit, Bool.and_eq_true, decide_eq_true_eq, UInt32.le_iff_toNat_le] at isDigit
  have most : digit.toNat <= 57 := isDigit.2
  unfold Text.digitValue
  omega

/-- Digits that all fit a word are taken. -/
theorem takeDigits_of_fits {start : Nat} {digits : List Char}
    (fits : appended start digits < 2 ^ 64) :
    takeDigits start digits = (appended start digits, []) := by
  induction digits generalizing start with
  | nil => rfl
  | cons digit rest ih =>
      rw [appended_cons] at fits ⊢
      have longer : 10 * start + Text.digitValue digit < Nat.pow 2 64 :=
        Nat.lt_of_le_of_lt (le_appended _ rest) fits
      rw [takeDigits, if_pos longer]
      exact ih fits

/-- Of digits that do not all fit a word, some are dropped, and those taken make a number of at
least 60 binary places: with one digit more it would not fit. -/
theorem takeDigits_of_large {start : Nat} {digits : List Char} (fits : start < 2 ^ 64)
    (allDigits : ∀ digit ∈ digits, digit.isDigit = true) (large : 2 ^ 64 <= appended start digits) :
    2 ^ 60 <= (takeDigits start digits).1 ∧ 0 < (takeDigits start digits).2.length := by
  induction digits generalizing start with
  | nil => exact absurd fits (Nat.not_lt.mpr large)
  | cons digit rest ih =>
      rw [takeDigits]
      by_cases longer : 10 * start + Text.digitValue digit < Nat.pow 2 64
      · rw [if_pos longer]
        exact ih longer (fun other listed => allDigits other (List.mem_cons_of_mem _ listed)) large
      · rw [if_neg longer]
        have most := digitValue_le (allDigits digit List.mem_cons_self)
        have beyond : 2 ^ 64 <= 10 * start + Text.digitValue digit := Nat.not_lt.mp longer
        exact ⟨by simp only; omega, Nat.succ_pos _⟩

theorem eq_real_of_ofDouble {value : Binary .double} {number : JsonNumber}
    (kept : ofDouble? value = some number) :
    ∃ negative units held, value = .finite negative units held ∧ number = .real value := by
  cases value with
  | nan => cases kept
  | infinite negative => cases kept
  | finite negative units held => exact ⟨_, _, _, rfl, (Option.some.inj kept).symm⟩

theorem reading_scaled_zero {negative : Bool} {number : JsonNumber}
    (kept : scaled? negative 0 0 = some number) : number.reading = 0 := by
  have known : (scaled? negative 0 0).map reading = some 0 := by
    cases negative <;> decide +kernel
  rw [kept] at known
  exact Option.some.inj known

/-- A number that is beyond the signed words by its powers of two is still beyond them after the
roundings. -/
theorem reading_scaled_large {negative : Bool} {significand place power : Nat}
    {number : JsonNumber} (large : 2 ^ place <= significand) (beyond : 63 <= place + 3 * power)
    (kept : scaled? negative significand power = some number) :
    number.reading = if negative then -2 ^ 63 else 2 ^ 63 - 1 := by
  have nonzero : significand ≠ 0 :=
    Nat.ne_zero_of_lt (Nat.lt_of_lt_of_le (Nat.two_pow_pos place) large)
  have ten : 2 ^ (3 * power) <= 10 ^ power := by
    rw [Nat.pow_mul]
    exact Nat.pow_le_pow_left (by decide) power
  simp only [scaled?, nonzero, if_false] at kept
  split at kept
  · rcases eq_real_of_ofDouble kept with ⟨sign, units, held, product, rfl⟩
    rcases Binary.finite_of_multiply product with
      ⟨⟨leftSign, left, leftHeld, rounded⟩, rightSign, right, rightHeld, scale⟩
    rcases Binary.le_units_of_ofRatio (by decide) large rounded with ⟨rfl, leftLarge⟩
    rcases Binary.le_units_of_ofRatio (by decide) ten scale with ⟨rfl, rightLarge⟩
    rw [rounded, scale] at product
    rcases Binary.le_units_of_multiply (by decide) leftLarge rightLarge product with
      ⟨rfl, productLarge⟩
    have wide : 2 ^ (63 + Format.double.scale) <= units :=
      Nat.le_trans (Nat.pow_le_pow_right (by decide) (Nat.add_le_add_right beyond _)) productLarge
    rw [rounded, scale, product, reading]
    rw [Binary.truncated_of_large _ held (by decide) (by decide) (by decide) wide]
    rw [Bool.bne_false]
    rfl
  · cases kept

/-- Digits beyond the signed words are read as a bound of these words. -/
theorem WholeLiteral.reading_real_large {literal : WholeLiteral} {number : JsonNumber}
    (large : 2 ^ 63 <= literal.magnitude) (kept : real? literal.letters = some number) :
    number.reading = if literal.negative then -2 ^ 63 else 2 ^ 63 - 1 := by
  rw [literal.real_letters] at kept
  by_cases fits : literal.magnitude < 2 ^ 64
  · rw [takeDigits_of_fits fits] at kept
    have undropped : 63 <= 63 + 3 * 0 := by decide
    exact reading_scaled_large large undropped kept
  · have started : 0 < 2 ^ 64 := by decide
    rcases takeDigits_of_large started literal.allDigits (Nat.not_lt.mp fits) with
      ⟨taken, dropped⟩
    exact reading_scaled_large taken (by omega) kept

theorem WholeLiteral.reading_real_zero {literal : WholeLiteral} {number : JsonNumber}
    (zero : literal.magnitude = 0) (kept : real? literal.letters = some number) :
    number.reading = 0 := by
  have fits : literal.magnitude < 2 ^ 64 := by omega
  have taken : takeDigits 0 literal.digits = (literal.magnitude, []) := takeDigits_of_fits fits
  rw [literal.real_letters, taken, zero] at kept
  exact reading_scaled_zero kept

/-- The reading of a whole literal is fixed by the number that it writes. -/
theorem reading_of_literal {literal : WholeLiteral} {number : JsonNumber}
    (kept : ofLiteral? literal.letters = some number) :
    number.reading = wordOf literal.value := by
  cases sign : literal.negative with
  | false =>
      have value : literal.value = literal.magnitude := by
        simp [WholeLiteral.value, Binary.signed, sign]
      rw [ofLiteral_digits sign] at kept
      rw [value]
      by_cases fits : literal.magnitude < 2 ^ 64
      · rw [if_pos fits] at kept
        cases kept
        exact reading_whole _ (by omega) (by omega)
      · rw [if_neg fits] at kept
        have beyond : wordOf literal.magnitude = 2 ^ 63 - 1 := by
          simp only [wordOf]
          omega
        rw [literal.reading_real_large (by omega) kept, beyond, sign]
        rfl
  | true =>
      have value : literal.value = -literal.magnitude := by
        simp [WholeLiteral.value, Binary.signed, sign]
      rw [ofLiteral_minus sign] at kept
      rw [value]
      by_cases fits : 0 < literal.magnitude ∧ literal.magnitude <= 2 ^ 63
      · rw [if_pos fits] at kept
        cases kept
        exact reading_whole _ (by omega) (by omega)
      · rw [if_neg fits] at kept
        by_cases zero : literal.magnitude = 0
        · rw [literal.reading_real_zero zero kept, zero]
          rfl
        · have below : wordOf (-literal.magnitude) = -2 ^ 63 := by
            simp only [wordOf]
            omega
          rw [literal.reading_real_large (by omega) kept, below, sign]
          rfl

end JsonNumber
end ItemModels
