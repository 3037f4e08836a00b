import ItemModels.Json.Basic

namespace ItemModels

/-!
# JSON numbers read as whole numbers

The reader of whole numbers is written with 64-bit words.  Here it is stated as
a plain integer, so that comparisons and narrowing can be stated on integers.
-/

/-- The whole part of a number stays between bounds that enclose zero. -/
theorem Binary.truncated_mem {format : Format} {low high : Int} (value : Binary format)
    (below : low <= 0) (above : 0 <= high) :
    low <= value.truncated low high ∧ value.truncated low high <= high := by
  cases value with
  | nan => exact ⟨below, above⟩
  | infinite negative =>
      have ordered := Int.le_trans below above
      cases negative <;> simp [truncated, ordered]
  | finite negative units held =>
      simp only [truncated]
      omega

namespace JsonNumber

/-- The whole number that a number is read as.  Whole literals beyond the signed range wrap;
other numbers lose their fraction and are held in range. -/
def reading : JsonNumber -> Int
  | .whole value => (BitVec.ofInt 64 value).toInt
  | .real value => value.truncated Int64.minValue.toInt Int64.maxValue.toInt

/-- The reading, wrapped to a signed word of the given width. -/
def wrapped (number : JsonNumber) (width : Nat) : Int :=
  (BitVec.ofInt width number.reading).toInt

theorem toInt_toInt64 (number : JsonNumber) : number.toInt64.toInt = number.reading := by
  cases number with
  | whole value => rfl
  | real value =>
      have bounds : Int64.minValue.toInt <=
            value.truncated Int64.minValue.toInt Int64.maxValue.toInt ∧
          value.truncated Int64.minValue.toInt Int64.maxValue.toInt <= Int64.maxValue.toInt :=
        value.truncated_mem (by decide) (by decide)
      have least : Int64.minValue.toInt = -2 ^ 63 := by decide
      have most : Int64.maxValue.toInt = 2 ^ 63 - 1 := by decide
      exact Int64.toInt_ofInt_of_le (by omega) (by omega)

theorem toInt_toInt8 (number : JsonNumber) : number.toInt64.toInt8.toInt = number.wrapped 8 := by
  rw [Int64.toInt_toInt8, toInt_toInt64, wrapped, BitVec.toInt_ofInt]

theorem toInt_toInt16 (number : JsonNumber) : number.toInt64.toInt16.toInt = number.wrapped 16 := by
  rw [Int64.toInt_toInt16, toInt_toInt64, wrapped, BitVec.toInt_ofInt]

theorem toInt_toInt32 (number : JsonNumber) : number.toInt64.toInt32.toInt = number.wrapped 32 := by
  rw [Int64.toInt_toInt32, toInt_toInt64, wrapped, BitVec.toInt_ofInt]

/-- A reading fits a signed 64-bit word, so wrapping to that width changes nothing. -/
theorem wrapped_64 (number : JsonNumber) : number.wrapped 64 = number.reading := by
  rw [wrapped, ← toInt_toInt64, ← Int64.toInt_toBitVec, BitVec.ofInt_toInt]

end JsonNumber
end ItemModels
