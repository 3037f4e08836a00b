import ItemModels.Proofs.Quantity.WrittenPercentage
import ItemModels.Quantity

namespace ItemModels
namespace Quantity

/-!
# The kind of a demand

A text is tried as a condition first and as a percentage second.  The order does
not matter, since no text is written both ways: after the blanks at its start a
condition goes on with the sign of a relation, and a percentage with a minus or a
digit.  So the shape of a value alone decides its kind.
-/

open Condition (Ends ends_cons run_unique ends_sign)

/-- The letter may begin a percentage. -/
def beginsNumeral (letter : Char) : Bool :=
  letter == '-' || letter.isDigit

theorem head_numeral (numeral : Percentage.Numeral) (rest : List Char) :
    ∃ letter ∈ (numeral.letters ++ rest).head?, beginsNumeral letter = true := by
  rcases numeral with ⟨negative, ⟨letters, nonempty, decimal⟩, fraction⟩
  cases negative with
  | true => exact ⟨'-', rfl, rfl⟩
  | false =>
      cases letters with
      | nil => exact absurd rfl nonempty
      | cons digit others =>
          exact ⟨digit, rfl, by simp [beginsNumeral, decimal digit List.mem_cons_self]⟩

theorem ends_sign_numeral (relation : Relation) (rest : List Char) :
    Ends beginsNumeral (relation.sign.toList ++ rest) := by
  cases relation <;> exact ends_cons (by decide) _

/-- No text is written as a condition and as a percentage. -/
theorem condition_text_ne (condition : Condition.Written) (percentage : Percentage.Written) :
    condition.text ≠ percentage.text := by
  intro same
  have letters : condition.letters = percentage.letters := String.ofList_injective same
  rw [Condition.Written.letters, Condition.WrittenComparison.letters_append,
    Percentage.Written.letters] at letters
  rcases run_unique condition.first.before.blank (ends_sign condition.first.relation _)
    percentage.before.blank (percentage.numeral.ends_blank _) letters with ⟨_, rests⟩
  rcases head_numeral percentage.numeral ('%' :: percentage.after.letters) with
    ⟨letter, first, begins⟩
  rw [← rests] at first
  rw [ends_sign_numeral condition.first.relation _ letter first] at begins
  cases begins

theorem ofText_condition (written : Condition.Written) :
    ofText written.text = .meets written.condition := by
  rw [ofText, Condition.read_written]

theorem ofText_percentage (written : Percentage.Written) :
    ofText written.text = .share written.percentage := by
  rw [ofText]
  split
  · rename_i condition accepted
    rcases Condition.written_of_read accepted with ⟨other, same⟩
    exact absurd same (condition_text_ne other written)
  · rw [Percentage.read_written]

/-- The value has the shape of a demand and states it. -/
inductive States : Json -> Quantity -> Prop where
  | condition (written : Condition.Written) :
      States (.string written.text) (.meets written.condition)
  | percentage (written : Percentage.Written) :
      States (.string written.text) (.share written.percentage)
  | number (number : JsonNumber) : States (.number number) (.atLeast number.toInt64)

theorem ofJson_of_states {value : Json} {quantity : Quantity} (states : States value quantity) :
    ofJson value = quantity := by
  cases states with
  | condition written => exact ofText_condition written
  | percentage written => exact ofText_percentage written
  | number => rfl

/-- What is not malformed was stated. -/
theorem states_of_ofJson {value : Json} (valid : ofJson value ≠ .malformed) :
    States value (ofJson value) := by
  cases value with
  | number number => exact .number number
  | string text =>
      cases condition : Condition.read text with
      | ok meant =>
          rcases Condition.written_of_read condition with ⟨written, rfl⟩
          rw [ofJson, ofText_condition written]
          exact .condition written
      | error =>
          cases percentage : Percentage.read text with
          | ok meant =>
              rcases Percentage.written_of_read percentage with ⟨written, rfl⟩
              rw [ofJson, ofText_percentage written]
              exact .percentage written
          | error => exact absurd (by rw [ofJson, ofText, condition, percentage]) valid
  | _ => exact absurd rfl valid

theorem ofJson_eq_iff_states {value : Json} {quantity : Quantity} (valid : quantity ≠ .malformed) :
    ofJson value = quantity <-> States value quantity := by
  constructor
  · rintro rfl
    exact states_of_ofJson valid
  · exact ofJson_of_states

/-! ## Each kind -/

theorem ofJson_eq_meets_iff (value : Json) (condition : Condition) :
    ofJson value = .meets condition <->
      ∃ written : Condition.Written, value = .string written.text ∧
        written.condition = condition := by
  rw [ofJson_eq_iff_states (by rintro ⟨⟩)]
  constructor
  · intro states
    cases states with
    | condition written => exact ⟨written, rfl, rfl⟩
  · rintro ⟨written, rfl, rfl⟩
    exact .condition written

theorem ofJson_eq_share_iff (value : Json) (percentage : Percentage) :
    ofJson value = .share percentage <->
      ∃ written : Percentage.Written, value = .string written.text ∧
        Binary.Rounds written.numeral.negative written.numeral.magnitude percentage.percent := by
  rw [ofJson_eq_iff_states (by rintro ⟨⟩)]
  constructor
  · intro states
    cases states with
    | percentage written => exact ⟨written, rfl, written.rounds⟩
  · rintro ⟨written, rfl, closest⟩
    have same : percentage = written.percentage :=
      congrArg Percentage.mk (closest.unique written.rounds)
    rw [same]
    exact .percentage written

theorem ofJson_eq_atLeast_iff (value : Json) (bound : Int64) :
    ofJson value = .atLeast bound <->
      ∃ number, value = .number number ∧ number.toInt64 = bound := by
  rw [ofJson_eq_iff_states (by rintro ⟨⟩)]
  constructor
  · intro states
    cases states with
    | number number => exact ⟨number, rfl, rfl⟩
  · rintro ⟨number, rfl, rfl⟩
    exact .number number

theorem ofJson_eq_malformed_iff (value : Json) :
    ofJson value = .malformed <->
      (∀ written : Condition.Written, value ≠ .string written.text) ∧
      (∀ written : Percentage.Written, value ≠ .string written.text) ∧
      ∀ number, value ≠ .number number := by
  constructor
  · intro malformed
    have unstated (quantity : Quantity) (states : States value quantity) :
        quantity = .malformed := (ofJson_of_states states).symm.trans malformed
    refine ⟨?_, ?_, ?_⟩
    · rintro written rfl
      cases unstated _ (.condition written)
    · rintro written rfl
      cases unstated _ (.percentage written)
    · rintro number rfl
      cases unstated _ (.number number)
  · rintro ⟨noCondition, noPercentage, noNumber⟩
    by_contra valid
    have states := states_of_ofJson valid
    generalize ofJson value = quantity at states
    cases states with
    | condition written => exact noCondition written rfl
    | percentage written => exact noPercentage written rfl
    | number number => exact noNumber number rfl

/-- The shape of a value decides the kind of the demand that it states.  A text is a percentage
exactly if it is written as one, and then it is the closest 32-bit number; none is a condition
too; and what has none of the three shapes is a demand that nothing meets. -/
theorem shape_decides_kind :
    (∀ text, (∃ percentage, Percentage.read text = .ok percentage) <->
      ∃ written : Percentage.Written, written.text = text) ∧
    (∀ text percentage, Percentage.read text = .ok percentage <->
      ∃ written : Percentage.Written, written.text = text ∧
        Binary.Rounds written.numeral.negative written.numeral.magnitude percentage.percent) ∧
    (∀ text, ¬ ((∃ condition, Condition.read text = .ok condition) ∧
      ∃ percentage, Percentage.read text = .ok percentage)) ∧
    (∀ value condition, ofJson value = .meets condition <->
      ∃ written : Condition.Written, value = .string written.text ∧
        written.condition = condition) ∧
    (∀ value percentage, ofJson value = .share percentage <->
      ∃ written : Percentage.Written, value = .string written.text ∧
        Binary.Rounds written.numeral.negative written.numeral.magnitude percentage.percent) ∧
    (∀ value bound, ofJson value = .atLeast bound <->
      ∃ number, value = .number number ∧ number.toInt64 = bound) ∧
    (∀ value, ofJson value = .malformed <->
      (∀ written : Condition.Written, value ≠ .string written.text) ∧
      (∀ written : Percentage.Written, value ≠ .string written.text) ∧
      ∀ number, value ≠ .number number) ∧
    ∀ value most, Quantity.malformed.holds value most = false := by
  refine ⟨Percentage.read_isOk_iff, Percentage.read_eq_ok_iff, ?_, ofJson_eq_meets_iff,
    ofJson_eq_share_iff, ofJson_eq_atLeast_iff, ofJson_eq_malformed_iff, fun _ _ => rfl⟩
  rintro text ⟨⟨condition, accepted⟩, percentage, alsoAccepted⟩
  rcases Condition.written_of_read accepted with ⟨written, rfl⟩
  rcases Percentage.written_of_read alsoAccepted with ⟨other, same⟩
  exact condition_text_ne written other same.symm

-- No blank stands before the percent sign.
example : ofJson (.string "5 %") = .malformed := by decide +kernel

end Quantity
end ItemModels
