import ItemModels.Tag.Basic
import Mathlib.Data.List.Basic

namespace ItemModels
namespace Tag

/-!
# Going into tags

A list has items and a compound has children, and both are smaller than what
they stand in.  What is to be shown of every tag may be assumed of them.
-/

theorem mem_of_latest {name : String} {entries : List (String × Tag)} {child : Tag}
    (found : latest? name entries = some child) : (name, child) ∈ entries := by
  induction entries with
  | nil => cases found
  | cons entry rest inductionHypothesis =>
      rcases entry with ⟨other, value⟩
      rw [latest?] at found
      split at found
      · rename_i later present
        cases found
        exact List.mem_cons_of_mem _ (inductionHypothesis present)
      · split at found
        · rename_i same
          cases found
          rw [same]
          exact List.mem_cons_self
        · cases found

theorem sizeOf_child_lt {entry : String × Tag} {entries : List (String × Tag)}
    (listed : entry ∈ entries) : sizeOf entry.2 < sizeOf (Tag.compound entries) := by
  have smaller := List.sizeOf_lt_of_mem listed
  have inside : sizeOf entry.2 < sizeOf entry := by
    rw [Prod.mk.sizeOf_spec entry.1 entry.2]
    omega
  simp only [Tag.compound.sizeOf_spec]
  omega

/-- Induction on a tag, with a hypothesis for every item of a list and for every child of a
compound. -/
@[elab_as_elim]
theorem nested_induction {motive : Tag -> Prop}
    (flat : ∀ tag, (∀ items, tag ≠ .list items) -> (∀ entries, tag ≠ .compound entries) ->
      motive tag)
    (list : ∀ items, (∀ item ∈ items, motive item) -> motive (.list items))
    (compound : ∀ entries, (∀ name child, latest? name entries = some child -> motive child) ->
      motive (.compound entries)) : ∀ tag, motive tag
  | .list items => list items fun item _ => nested_induction flat list compound item
  | .compound entries =>
      compound entries fun name child found =>
        have smaller := sizeOf_child_lt (mem_of_latest found)
        nested_induction flat list compound child
  | .stop | .byte _ | .short _ | .int _ | .long _ | .float _ | .double _ | .bytes _ | .string _
  | .ints _ | .longs _ | .unknown _ => flat _ (by simp) (by simp)
termination_by tag => sizeOf tag
decreasing_by
  · have smaller := List.sizeOf_lt_of_mem ‹item ∈ items›
    simp only [Tag.list.sizeOf_spec]
    omega
  · exact smaller

end Tag
end ItemModels
