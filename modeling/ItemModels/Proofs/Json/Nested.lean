import ItemModels.Json.Basic
import Mathlib.Data.List.Basic

namespace ItemModels
namespace Json

/-!
# Going into JSON values

An array has items and an object has values under its names, and both are
smaller than what they stand in.  So what is to be shown of every value may be
assumed of the items and of the values of members.
-/

theorem sizeOf_item_lt {item : Json} {items : List Json} (listed : item ∈ items) :
    sizeOf item < sizeOf (Json.array items) := by
  have smaller := List.sizeOf_lt_of_mem listed
  simp only [Json.array.sizeOf_spec]
  omega

theorem sizeOf_value_lt {member : String × Json} {members : List (String × Json)}
    (listed : member ∈ members) : sizeOf member.2 < sizeOf (Json.object members) := by
  have smaller := List.sizeOf_lt_of_mem listed
  have inside : sizeOf member.2 < sizeOf member := by
    rw [Prod.mk.sizeOf_spec member.1 member.2]
    omega
  simp only [Json.object.sizeOf_spec]
  omega

/-- Induction on a value, with a hypothesis for every item of an array and for the value of
every member of an object. -/
@[elab_as_elim]
theorem nested_induction {motive : Json -> Prop}
    (flat : ∀ value, (∀ items, value ≠ .array items) -> (∀ members, value ≠ .object members) ->
      motive value)
    (array : ∀ items, (∀ item ∈ items, motive item) -> motive (.array items))
    (object : ∀ members, (∀ member ∈ members, motive member.2) -> motive (.object members)) :
    ∀ value, motive value
  | .array items => array items fun item _ => nested_induction flat array object item
  | .object members =>
      object members fun member _ => nested_induction flat array object member.2
  | .null | .bool _ | .number _ | .string _ => flat _ (by simp) (by simp)
termination_by value => sizeOf value
decreasing_by
  · exact sizeOf_item_lt ‹item ∈ items›
  · exact sizeOf_value_lt ‹member ∈ members›

end Json
end ItemModels
