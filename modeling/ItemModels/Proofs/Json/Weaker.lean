import ItemModels.Proofs.Json.Nested

namespace ItemModels
namespace Json

/-!
# Patterns that ask for less

A pattern is weaker than another when it drops some of what the other asks: an
array may lack items of the other, an object may lack members, and at any depth
the parts that remain may be weaker themselves.  An array asks for all of its
items and an object for all of its members, so neither order nor repetition
counts, and only what occurs at all is compared.

`Rearranged` states from the other end what may be done to a pattern without any
effect: single steps that reorder or repeat, at any place inside.  Patterns that
such steps connect are weaker than each other.
-/

mutual

/-- The first pattern asks for no more than the second. -/
inductive Weaker : Json -> Json -> Prop where
  | same (pattern : Json) : Weaker pattern pattern
  | array {items others : List Json} (each : ∀ item ∈ items, WeakerThanItem others item) :
      Weaker (.array items) (.array others)
  | object {members others : List (String × Json)}
      (each : ∀ member ∈ members, WeakerThanMember others member) :
      Weaker (.object members) (.object others)

/-- The pattern is weaker than one of the items. -/
inductive WeakerThanItem : List Json -> Json -> Prop where
  | of {others : List Json} {item other : Json} (listed : other ∈ others)
      (weaker : Weaker item other) : WeakerThanItem others item

/-- The member is weaker than one of the members with the same name. -/
inductive WeakerThanMember : List (String × Json) -> String × Json -> Prop where
  | of {others : List (String × Json)} {name : String} {value other : Json}
      (listed : (name, other) ∈ others) (weaker : Weaker value other) :
      WeakerThanMember others (name, value)

end

/-! ## What a weaker pattern looks like -/

namespace Weaker

theorem of_array {pattern : Json} {others : List Json}
    (weaker : Weaker pattern (.array others)) :
    ∃ items, pattern = .array items ∧ ∀ item ∈ items, ∃ other ∈ others, Weaker item other := by
  cases weaker with
  | same => exact ⟨others, rfl, fun item listed => ⟨item, listed, .same item⟩⟩
  | array each =>
      refine ⟨_, rfl, fun item listed => ?_⟩
      rcases each item listed with ⟨other, weaker⟩
      exact ⟨_, other, weaker⟩

theorem of_object {pattern : Json} {others : List (String × Json)}
    (weaker : Weaker pattern (.object others)) :
    ∃ members, pattern = .object members ∧
      ∀ member ∈ members, ∃ other ∈ others, other.1 = member.1 ∧ Weaker member.2 other.2 := by
  cases weaker with
  | same => exact ⟨others, rfl, fun member listed => ⟨member, listed, rfl, .same member.2⟩⟩
  | object each =>
      refine ⟨_, rfl, fun member listed => ?_⟩
      rcases each member listed with ⟨other, weaker⟩
      exact ⟨_, other, rfl, weaker⟩

/-- Of what is neither an array nor an object nothing can be dropped. -/
theorem of_flat {pattern other : Json} (noArray : ∀ items, other ≠ .array items)
    (noObject : ∀ members, other ≠ .object members) (weaker : Weaker pattern other) :
    pattern = other := by
  cases weaker with
  | same => rfl
  | array => exact absurd rfl (noArray _)
  | object => exact absurd rfl (noObject _)

theorem array_of_each {items others : List Json}
    (each : ∀ item ∈ items, ∃ other ∈ others, Weaker item other) :
    Weaker (.array items) (.array others) := by
  apply Weaker.array
  intro item listed
  rcases each item listed with ⟨other, stands, weaker⟩
  exact .of stands weaker

theorem object_of_each {members others : List (String × Json)}
    (each : ∀ member ∈ members, ∃ other ∈ others, other.1 = member.1 ∧
      Weaker member.2 other.2) :
    Weaker (.object members) (.object others) := by
  apply Weaker.object
  rintro ⟨name, value⟩ listed
  rcases each _ listed with ⟨other, stands, rfl, weaker⟩
  exact .of stands weaker

/-- An array of which every item occurs in another is weaker than that other. -/
theorem array_of_subset {items others : List Json} (subset : items ⊆ others) :
    Weaker (.array items) (.array others) :=
  array_of_each fun item listed => ⟨item, subset listed, .same item⟩

theorem object_of_subset {members others : List (String × Json)} (subset : members ⊆ others) :
    Weaker (.object members) (.object others) :=
  object_of_each fun member listed => ⟨member, subset listed, rfl, .same member.2⟩

/-- To ask for no more than what asks for no more is to ask for no more. -/
theorem trans {first second third : Json} (less : Weaker first second)
    (least : Weaker second third) : Weaker first third := by
  induction third using nested_induction generalizing first second with
  | flat third noArray noObject =>
      rw [← of_flat noArray noObject least]
      exact less
  | array items inductionHypothesis =>
      rcases least.of_array with ⟨others, rfl, later⟩
      rcases less.of_array with ⟨firsts, rfl, earlier⟩
      apply array_of_each
      intro item listed
      rcases earlier item listed with ⟨between, listed, less⟩
      rcases later between listed with ⟨last, listed, least⟩
      exact ⟨last, listed, inductionHypothesis last listed less least⟩
  | object members inductionHypothesis =>
      rcases least.of_object with ⟨others, rfl, later⟩
      rcases less.of_object with ⟨firsts, rfl, earlier⟩
      apply object_of_each
      intro member listed
      rcases earlier member listed with ⟨between, listed, name, less⟩
      rcases later between listed with ⟨last, listed, same, least⟩
      exact ⟨last, listed, same.trans name, inductionHypothesis last listed less least⟩

end Weaker

/-! ## Reordering and repeating -/

/-- The patterns differ only in the order and the number of times in which arrays list their
items and in the order in which objects list their members, at any depth. -/
inductive Rearranged : Json -> Json -> Prop where
  | same (pattern : Json) : Rearranged pattern pattern
  | symm {pattern other : Json} (back : Rearranged other pattern) : Rearranged pattern other
  | trans {first second third : Json} (one : Rearranged first second)
      (two : Rearranged second third) : Rearranged first third
  | reordered {items others : List Json} (permuted : items.Perm others) :
      Rearranged (.array items) (.array others)
  | repeated {item : Json} {items : List Json} (listed : item ∈ items) :
      Rearranged (.array items) (.array (item :: items))
  | members {members others : List (String × Json)} (permuted : members.Perm others) :
      Rearranged (.object members) (.object others)
  /-- A step inside an item of an array. -/
  | item (before after : List Json) {item other : Json} (inside : Rearranged item other) :
      Rearranged (.array (before ++ item :: after)) (.array (before ++ other :: after))
  /-- A step inside the value of a member. -/
  | member (before after : List (String × Json)) (name : String) {value other : Json}
      (inside : Rearranged value other) :
      Rearranged (.object (before ++ (name, value) :: after))
        (.object (before ++ (name, other) :: after))

/-- Where one part of a list is replaced, each part still has one that covers it. -/
private theorem covered_of_replaced {Part : Type} {Covers : Part -> Part -> Prop}
    (covers_self : ∀ part, Covers part part) (before after : List Part) {part other : Part}
    (inside : Covers part other) :
    ∀ one ∈ before ++ part :: after, ∃ found ∈ before ++ other :: after, Covers one found := by
  intro one listed
  rcases List.mem_append.mp listed with earlier | rest
  · exact ⟨one, List.mem_append_left _ earlier, covers_self one⟩
  · rcases List.mem_cons.mp rest with rfl | later
    · exact ⟨other, List.mem_append_right _ List.mem_cons_self, inside⟩
    · exact ⟨one, List.mem_append_right _ (List.mem_cons_of_mem _ later), covers_self one⟩

private theorem weaker_item (before after : List Json) {item other : Json}
    (inside : Weaker item other) :
    Weaker (.array (before ++ item :: after)) (.array (before ++ other :: after)) :=
  .array_of_each (covered_of_replaced Weaker.same before after inside)

private theorem weaker_member (before after : List (String × Json)) (name : String)
    {value other : Json} (inside : Weaker value other) :
    Weaker (.object (before ++ (name, value) :: after))
      (.object (before ++ (name, other) :: after)) :=
  .object_of_each (covered_of_replaced (fun member => ⟨rfl, .same member.2⟩) before after
    ⟨rfl, inside⟩)

/-- Rearranged patterns are weaker than each other. -/
theorem Rearranged.weaker {pattern other : Json} (rearranged : Rearranged pattern other) :
    Weaker pattern other ∧ Weaker other pattern := by
  induction rearranged with
  | same pattern => exact ⟨.same pattern, .same pattern⟩
  | symm _ inductionHypothesis => exact inductionHypothesis.symm
  | trans _ _ first second =>
      exact ⟨first.1.trans second.1, second.2.trans first.2⟩
  | reordered permuted =>
      exact ⟨.array_of_subset permuted.subset, .array_of_subset permuted.symm.subset⟩
  | repeated listed =>
      refine ⟨.array_of_subset (List.subset_cons_self _ _), .array_of_subset ?_⟩
      exact List.cons_subset.mpr ⟨listed, List.Subset.refl _⟩
  | members permuted =>
      exact ⟨.object_of_subset permuted.subset, .object_of_subset permuted.symm.subset⟩
  | item before after _ inside =>
      exact ⟨weaker_item before after inside.1, weaker_item before after inside.2⟩
  | member before after name _ inside =>
      exact ⟨weaker_member before after name inside.1, weaker_member before after name inside.2⟩

end Json
end ItemModels
