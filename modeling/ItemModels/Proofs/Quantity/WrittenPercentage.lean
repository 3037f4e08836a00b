import ItemModels.Percentage
import ItemModels.Proofs.Condition.Reading
import ItemModels.Proofs.Number.Rounding

namespace ItemModels
namespace Percentage

/-!
# Written percentages

A written percentage is a numeral between blanks, directly followed by the
percent sign.  The reader takes a point only when a digit follows it, and puts it
back otherwise.  In a percentage nothing but the percent sign may follow, so a
point that was put back is refused like any other letter.

The numeral is read as whole digits with a power of ten, while its meaning is the
whole part plus the part after the point.  The two agree, and the percentage is
the closest 32-bit number.
-/

open Condition (Blanks Ends ends_cons ends_append takeWhile_run dropWhile_run isBlank_of_isDigit
  dropBlanks_append dropBlanks_letters)

/-- A run of decimal digits, of which there is one at least. -/
@[ext]
structure Digits where
  letters : List Char
  nonempty : letters ≠ []
  decimal : ∀ digit ∈ letters, digit.isDigit = true

/-- A numeral, with digits on both sides of its point if it has one. -/
@[ext]
structure Numeral where
  negative : Bool
  whole : Digits
  fraction : Option Digits

/-- A percentage as it is written. -/
@[ext]
structure Written where
  before : Blanks
  numeral : Numeral
  after : Blanks

namespace Digits

/-- The number that the digits write. -/
def value (digits : Digits) : Nat :=
  Text.digitsValue digits.letters

theorem ends_blank (digits : Digits) (rest : List Char) :
    Ends Text.isBlank (digits.letters ++ rest) :=
  ends_append (fun digit mem => isBlank_of_isDigit (digits.decimal digit mem))
    fun empty => absurd empty digits.nonempty

/-- Digits do not begin with a minus. -/
theorem ends_minus (digits : Digits) (rest : List Char) :
    Ends (fun letter => letter == '-') (digits.letters ++ rest) :=
  ends_append
    (fun digit mem => Condition.beq_eq_false_of_kind (digits.decimal digit mem) (by decide))
    fun empty => absurd empty digits.nonempty

end Digits

namespace Numeral

/-- The minus of a negative numeral. -/
def sign (negative : Bool) : List Char :=
  if negative then ['-'] else []

/-- The point and the digits after it. -/
def pointed : Option Digits -> List Char
  | none => []
  | some digits => '.' :: digits.letters

/-- The digits after the point. -/
def places : Option Digits -> List Char
  | none => []
  | some digits => digits.letters

def letters (numeral : Numeral) : List Char :=
  sign numeral.negative ++ (numeral.whole.letters ++ pointed numeral.fraction)

/-- The number that is written, without its sign. -/
def magnitude (numeral : Numeral) : ℚ :=
  numeral.whole.value +
    match numeral.fraction with
    | none => 0
    | some digits => digits.value / 10 ^ digits.letters.length

/-- The numeral as whole digits with a power of ten. -/
def decimal (numeral : Numeral) : Decimal where
  negative := numeral.negative
  significand := Text.digitsValue (numeral.whole.letters ++ places numeral.fraction)
  exponent := -((places numeral.fraction).length : Int)

end Numeral

namespace Written

def letters (written : Written) : List Char :=
  written.before.letters ++ (written.numeral.letters ++ '%' :: written.after.letters)

/-- The whole text. -/
def text (written : Written) : String :=
  String.ofList written.letters

end Written

/-! ## What a numeral means -/

theorem digitsValue_append (front back : List Char) :
    Text.digitsValue (front ++ back) =
      Text.digitsValue front * 10 ^ back.length + Text.digitsValue back := by
  induction back using List.reverseRecOn with
  | nil => simp [Text.digitsValue]
  | append_singleton back digit inductionHypothesis =>
      have last (digits : List Char) : Text.digitsValue (digits ++ [digit]) =
          10 * Text.digitsValue digits + Text.digitValue digit := by
        simp [Text.digitsValue]
      rw [← List.append_assoc, last, last, inductionHypothesis, List.length_append,
        List.length_singleton, Nat.pow_succ]
      ring

theorem Numeral.magnitude_decimal (numeral : Numeral) :
    numeral.decimal.magnitude = numeral.magnitude := by
  rcases numeral with ⟨negative, whole, fraction⟩
  have split : ((10 : ℚ) ^ (places fraction).length)⁻¹ * 10 ^ (places fraction).length = 1 :=
    inv_mul_cancel₀ (by positivity)
  rw [decimal, Decimal.magnitude, digitsValue_append, zpow_neg, zpow_natCast, magnitude]
  cases fraction with
  | none => simp [places, Digits.value, Text.digitsValue]
  | some digits =>
      simp only [places, Digits.value] at split ⊢
      push_cast
      field_simp

/-! ## Numerals are read -/

theorem readMinus_sign (negative : Bool) {rest : List Char}
    (ends : Ends (fun letter => letter == '-') rest) :
    readMinus (Numeral.sign negative ++ rest) = (negative, rest) := by
  cases negative with
  | true => rfl
  | false =>
      rw [Numeral.sign, if_neg Bool.false_ne_true, List.nil_append]
      unfold readMinus
      split
      · exact absurd (ends '-' rfl) (by decide)
      · rfl

theorem sign_of_readMinus (letters : List Char) :
    letters = Numeral.sign (readMinus letters).1 ++ (readMinus letters).2 := by
  unfold readMinus
  split <;> rfl

theorem readFraction_pointed (fraction : Option Digits) (rest : List Char) :
    readFraction (Numeral.pointed fraction ++ '%' :: rest) =
      (Numeral.places fraction, '%' :: rest) := by
  cases fraction with
  | none => rfl
  | some digits =>
      have ends : Ends Char.isDigit ('%' :: rest) := ends_cons (by decide) rest
      have nonempty : digits.letters.isEmpty = false := by simpa using digits.nonempty
      rw [Numeral.pointed, List.cons_append, readFraction, takeWhile_run digits.decimal ends,
        dropWhile_run digits.decimal ends]
      simp [nonempty, Numeral.places]

theorem pointed_of_readFraction (letters : List Char) :
    ∃ fraction : Option Digits, Numeral.places fraction = (readFraction letters).1 ∧
      letters = Numeral.pointed fraction ++ (readFraction letters).2 := by
  unfold readFraction
  split
  · rename_i rest
    simp only []
    split
    · exact ⟨none, rfl, rfl⟩
    · rename_i nonempty
      refine ⟨some ⟨rest.takeWhile Char.isDigit, by simpa using nonempty,
        fun digit mem => List.mem_takeWhile_imp mem⟩, rfl, ?_⟩
      exact congrArg ('.' :: ·) List.takeWhile_append_dropWhile.symm
  · exact ⟨none, rfl, rfl⟩

/-- A numeral before the percent sign is read whole. -/
theorem readNumeral_letters (numeral : Numeral) (rest : List Char) :
    readNumeral (numeral.letters ++ '%' :: rest) = .ok (numeral.decimal, '%' :: rest) := by
  let tail := Numeral.pointed numeral.fraction ++ '%' :: rest
  have shown : numeral.letters ++ '%' :: rest =
      Numeral.sign numeral.negative ++ (numeral.whole.letters ++ tail) := by
    simp [Numeral.letters, tail]
  have ends : Ends Char.isDigit tail := by
    cases absent : numeral.fraction with
    | none =>
        rw [show tail = '%' :: rest by simp [tail, absent, Numeral.pointed]]
        exact ends_cons (by decide) rest
    | some digits =>
        rw [show tail = '.' :: (digits.letters ++ '%' :: rest) by
          simp [tail, absent, Numeral.pointed]]
        exact ends_cons (by decide) _
  have nonempty : numeral.whole.letters.isEmpty = false := by
    simpa using numeral.whole.nonempty
  rw [shown, readNumeral, readMinus_sign _ (numeral.whole.ends_minus tail)]
  simp only [takeWhile_run numeral.whole.decimal ends, dropWhile_run numeral.whole.decimal ends,
    nonempty, Bool.false_eq_true, if_false]
  rw [readFraction_pointed]
  rfl

/-- What is read as a numeral is one. -/
theorem numeral_of_readNumeral {letters rest : List Char} {decimal : Decimal}
    (read : readNumeral letters = .ok (decimal, rest)) :
    ∃ numeral : Numeral, letters = numeral.letters ++ rest := by
  unfold readNumeral at read
  simp only [] at read
  split at read
  · cases read
  · rename_i nonempty
    cases read
    rcases pointed_of_readFraction ((readMinus letters).2.dropWhile Char.isDigit) with
      ⟨fraction, _, shown⟩
    refine ⟨⟨(readMinus letters).1, ⟨(readMinus letters).2.takeWhile Char.isDigit,
      by simpa using nonempty, fun digit mem => List.mem_takeWhile_imp mem⟩, fraction⟩, ?_⟩
    calc letters
        = Numeral.sign (readMinus letters).1 ++ (readMinus letters).2 := sign_of_readMinus letters
      _ = Numeral.sign (readMinus letters).1 ++ ((readMinus letters).2.takeWhile Char.isDigit ++
            (readMinus letters).2.dropWhile Char.isDigit) := by
          rw [List.takeWhile_append_dropWhile]
      _ = _ := by
          rw [Numeral.letters, List.append_assoc, List.append_assoc, ← shown]

/-! ## Whole texts -/

/-- The percentage that is meant. -/
def Written.percentage (written : Written) : Percentage :=
  ⟨Binary.ofDecimal .single written.numeral.decimal⟩

theorem Numeral.ends_blank (numeral : Numeral) (rest : List Char) :
    Ends Text.isBlank (numeral.letters ++ rest) := by
  rw [letters, List.append_assoc, List.append_assoc]
  refine ends_append ?_ fun _ => numeral.whole.ends_blank _
  intro letter mem
  cases negative : numeral.negative with
  | false => simp [sign, negative] at mem
  | true =>
      simp only [sign, negative, if_true, List.mem_singleton] at mem
      rw [mem]
      decide

/-- A written percentage is accepted and read as what it means. -/
theorem read_written (written : Written) : read written.text = .ok written.percentage := by
  have letters : written.text.toList = written.before.letters ++
      (written.numeral.letters ++ '%' :: written.after.letters) := String.toList_ofList
  rw [read, letters, dropBlanks_append written.before (written.numeral.ends_blank _),
    readNumeral_letters]
  simp only [dropBlanks_letters]
  rfl

/-- What is accepted has a written form. -/
theorem written_of_read {text : String} {percentage : Percentage}
    (accepted : read text = .ok percentage) : ∃ written : Written, written.text = text := by
  unfold read at accepted
  split at accepted
  · cases accepted
  · rename_i decimal after number
    split at accepted
    · rename_i rest
      split at accepted
      · rename_i blank
        rcases numeral_of_readNumeral number with ⟨numeral, shown⟩
        refine ⟨⟨.ofText text.toList, numeral, ⟨rest, List.dropWhile_eq_nil_iff.mp blank⟩⟩, ?_⟩
        calc String.ofList ((Blanks.ofText text.toList).letters ++ (numeral.letters ++ '%' :: rest))
            = String.ofList text.toList := by rw [← shown, Blanks.ofText_append]
          _ = text := String.ofList_toList
      · cases accepted
    · cases accepted

/-- A text is a percentage exactly if it is written as one. -/
theorem read_isOk_iff (text : String) :
    (∃ percentage, read text = .ok percentage) <-> ∃ written : Written, written.text = text := by
  constructor
  · rintro ⟨percentage, accepted⟩
    exact written_of_read accepted
  · rintro ⟨written, rfl⟩
    exact ⟨_, read_written written⟩

/-- What is meant is the closest 32-bit number. -/
theorem Written.rounds (written : Written) : Binary.Rounds written.numeral.negative
    written.numeral.magnitude written.percentage.percent := by
  rw [← Numeral.magnitude_decimal]
  exact Binary.rounds_ofDecimal (by decide) written.numeral.decimal

theorem read_eq_ok_iff (text : String) (percentage : Percentage) :
    read text = .ok percentage <-> ∃ written : Written, written.text = text ∧
      Binary.Rounds written.numeral.negative written.numeral.magnitude percentage.percent := by
  constructor
  · intro accepted
    rcases written_of_read accepted with ⟨written, rfl⟩
    cases Except.ok.inj ((read_written written).symm.trans accepted)
    exact ⟨written, rfl, written.rounds⟩
  · rintro ⟨written, rfl, closest⟩
    rw [read_written written]
    exact congrArg (Except.ok ∘ Percentage.mk) (written.rounds.unique closest)

end Percentage
end ItemModels
