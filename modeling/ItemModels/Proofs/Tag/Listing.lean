import ItemModels.Proofs.Tag.Nested
import ItemModels.Proofs.Text.ByteOrder
import ItemModels.Tag.Render
import Mathlib.Data.List.Perm.Basic

namespace ItemModels
namespace Tag

/-!
# The children that a text form lists

The text form of a compound is made by putting its children one by one into a list
that is kept in order.  What comes out has the children that can be looked up, each
once, and names in ascending order; and there is only one list like that.
-/

/-- The names of the parts ascend, so that each name occurs once. -/
def Ascending (parts : List (String × String)) : Prop :=
  parts.Pairwise fun part later => part.1 < later.1

/-- The parts are the children that the entries make, each with its text form, in the order of the
bytes of their names. -/
structure Lists (entries : List (String × Tag)) (parts : List (String × String)) : Prop where
  ordered : parts.Pairwise fun part later => Text.bytes part.1 < Text.bytes later.1
  listed_iff : ∀ name text, (name, text) ∈ parts <->
    ((compound entries).child? name).map render = some text

/-! ## Adding one child -/

theorem mem_of_mem_insertNew {name text : String} {part : String × String}
    {parts : List (String × String)} (listed : part ∈ insertNew name text parts) :
    part = (name, text) ∨ part ∈ parts := by
  induction parts with
  | nil => exact .inl (List.mem_singleton.mp listed)
  | cons head rest inductionHypothesis =>
      rcases head with ⟨other, shown⟩
      rw [insertNew] at listed
      split_ifs at listed
      · exact List.mem_cons.mp listed
      · exact .inr listed
      · rcases List.mem_cons.mp listed with rfl | later
        · exact .inr List.mem_cons_self
        · exact (inductionHypothesis later).imp_right (List.mem_cons_of_mem _)

theorem Ascending.insertNew {parts : List (String × String)} (ascending : Ascending parts)
    (name text : String) : Ascending (insertNew name text parts) := by
  induction parts with
  | nil => exact List.pairwise_singleton _ _
  | cons head rest inductionHypothesis =>
      rcases head with ⟨other, shown⟩
      rcases List.pairwise_cons.mp ascending with ⟨first, later⟩
      rw [Tag.insertNew]
      split_ifs with before same
      · refine List.pairwise_cons.mpr ⟨List.forall_mem_cons.mpr ⟨before, ?_⟩, ascending⟩
        exact fun part listed => String.lt_trans before (first part listed)
      · exact ascending
      · refine List.pairwise_cons.mpr ⟨fun part listed => ?_, inductionHypothesis later⟩
        rcases mem_of_mem_insertNew listed with rfl | listed
        · exact Std.lt_of_le_of_ne (String.not_lt.mp before) (Ne.symm same)
        · exact first part listed

/-- A child is added unless its name is taken, and nothing else happens. -/
theorem mem_insertNew_iff {parts : List (String × String)} (ascending : Ascending parts)
    (name text : String) (part : String × String) :
    part ∈ insertNew name text parts <->
      part ∈ parts ∨ (part = (name, text) ∧ name ∉ parts.map Prod.fst) := by
  induction parts with
  | nil => simp [insertNew]
  | cons head rest inductionHypothesis =>
      rcases head with ⟨other, shown⟩
      rcases List.pairwise_cons.mp ascending with ⟨first, later⟩
      rw [insertNew]
      split_ifs with before same
      · have free : name ∉ ((other, shown) :: rest).map Prod.fst := by
          rw [List.mem_map]
          rintro ⟨taken, listed, rfl⟩
          rcases List.mem_cons.mp listed with rfl | listed
          · exact String.lt_irrefl _ before
          · exact String.lt_asymm before (first taken listed)
        rw [List.mem_cons, or_comm, and_iff_left free]
      · simp [same]
      · rw [List.mem_cons, inductionHypothesis later, List.mem_cons, List.map_cons, List.mem_cons,
          not_or, or_assoc, and_iff_right same]

/-! ## Adding all children -/

theorem ascending_renderEntries (entries : List (String × Tag)) :
    Ascending (renderEntries entries) := by
  induction entries with
  | nil => exact .nil
  | cons entry rest inductionHypothesis =>
      rcases entry with ⟨name, value⟩
      rw [renderEntries]
      exact inductionHypothesis.insertNew name value.render

/-- The children that can be looked up are listed, each with its text form. -/
theorem mem_renderEntries_iff (entries : List (String × Tag)) (name text : String) :
    (name, text) ∈ renderEntries entries <-> (latest? name entries).map render = some text := by
  induction entries generalizing name text with
  | nil => simp [renderEntries, latest?]
  | cons entry rest inductionHypothesis =>
      rcases entry with ⟨other, value⟩
      have free : other ∉ (renderEntries rest).map Prod.fst <-> latest? other rest = none := by
        rw [← Option.map_eq_none_iff (f := render), Option.eq_none_iff_forall_ne_some]
        simp [inductionHypothesis]
      rw [renderEntries, mem_insertNew_iff (ascending_renderEntries rest), free,
        inductionHypothesis, latest?]
      by_cases same : other = name
      · subst same
        cases latest? other rest <;> simp [eq_comm]
      · cases latest? name rest <;> simp [same, Ne.symm same]

/-- The children of a compound are listed between braces. -/
theorem lists_renderEntries (entries : List (String × Tag)) :
    Lists entries (renderEntries entries) where
  ordered := (ascending_renderEntries entries).imp Text.bytes_lt_of_lt
  listed_iff := mem_renderEntries_iff entries

/-- The last value of a name is listed, and `z` comes before a character of two bytes. -/
example :
    (compound [("é", .stop), ("z", .int 2), ("é", .byte 1)]).render = "\x7bz:2,é:1b\x7d" := by
  decide

/-- Names in order and the children that can be looked up leave no choice. -/
theorem Ascending.eq_of_mem_iff {parts others : List (String × String)}
    (ascending : Ascending parts) (ascends : Ascending others)
    (same : ∀ part, part ∈ parts <-> part ∈ others) : parts = others := by
  have distinct {parts : List (String × String)} (ascending : Ascending parts) : parts.Nodup := by
    apply List.Pairwise.imp _ ascending
    rintro part _ before rfl
    exact String.lt_irrefl _ before
  have permuted := (List.perm_ext_iff_of_nodup (distinct ascending) (distinct ascends)).mpr same
  apply permuted.eq_of_pairwise _ ascending ascends
  exact fun part other _ _ before after => absurd after (String.lt_asymm before)

/-- Compounds with the same text forms under each name have the same text form. -/
theorem render_compound_congr {entries others : List (String × Tag)}
    (same : ∀ name, (latest? name entries).map render = (latest? name others).map render) :
    (compound entries).render = (compound others).render := by
  have parts : renderEntries entries = renderEntries others := by
    apply (ascending_renderEntries entries).eq_of_mem_iff (ascending_renderEntries others)
    rintro ⟨name, text⟩
    rw [mem_renderEntries_iff, mem_renderEntries_iff, same]
  rw [render, render, parts]

theorem renderItems_eq_map (items : List Tag) : renderItems items = items.map render := by
  induction items with
  | nil => rfl
  | cons item rest inductionHypothesis => rw [renderItems, inductionHypothesis, List.map_cons]

end Tag
end ItemModels
