import ItemModels.Proofs.Tag.Passage
import Mathlib.Data.List.Forall2

namespace ItemModels

/-!
# Tags that a check cannot tell apart

A check goes into a list item by item and into a compound by the names that a
pattern has, and it compares only where it meets tags without tags inside.  So
two trees pass the same checks when they correspond all the way down: lists have
corresponding items in the same order, compounds have corresponding children under
the same names, and what has no tags inside answers every pattern that is asked
alike.

`Corresponds` is one step of this, for a relation that is meant to be kept at every
step.  That a relation is kept has to be shown once for the relation; the induction,
which is on the pattern, is done here for all of them.
-/

/-- Checks that agree on corresponding items agree on the lists. -/
theorem Verdict.forAll_congr_forall₂ {First Second : Type} {check : First -> Verdict}
    {check' : Second -> Verdict} {items : List First} {others : List Second}
    (each : List.Forall₂ (fun item other => check item = check' other) items others) :
    forAll check items = forAll check' others := by
  induction each with
  | nil => rfl
  | cons here _ inductionHypothesis => rw [forAll, forAll, here, inductionHypothesis]

namespace Tag

/-- The tags are the same, or are related as tags without tags inside, or have related parts in
corresponding places. -/
inductive Corresponds (leaf inside : Tag -> Tag -> Prop) : Tag -> Tag -> Prop where
  | same (tag : Tag) : Corresponds leaf inside tag tag
  | leaf {one other : Tag} (related : leaf one other) : Corresponds leaf inside one other
  | list {items others : List Tag} (each : List.Forall₂ inside items others) :
      Corresponds leaf inside (.list items) (.list others)
  | compound {entries others : List (String × Tag)}
      (each : ∀ name, Option.Rel inside (latest? name entries) (latest? name others)) :
      Corresponds leaf inside (.compound entries) (.compound others)

/-- A check neither looks into the tag nor passes it over. -/
structure IsCompared (tag : Tag) : Prop where
  noList : ∀ items, tag ≠ .list items
  noCompound : ∀ entries, tag ≠ .compound entries
  known : ∀ id, tag ≠ .unknown id

/-- Both tags are compared with what is asked, and both answer every value that may be asked in
the same way. -/
structure AnswersAlike (Asked : Json -> Prop) (one other : Tag) : Prop where
  first : one.IsCompared
  second : other.IsCompared
  holds : ∀ value, Asked value -> leafHolds value one = leafHolds value other

theorem IsCompared.checkChild_eq {child : Tag} (compared : child.IsCompared) (name : String)
    (value : Json) : checkChild name value child = .ofBool (leafHolds value child) := by
  rw [checkChild]
  · exact compared.known
  · exact fun _ elements _ => compared.noList elements
  · exact fun _ entries _ => compared.noCompound entries

theorem IsCompared.check_object {tag : Tag} (compared : tag.IsCompared)
    (members : List (String × Json)) : check (.object members) tag = .fail := by
  cases tag with
  | compound entries => exact absurd rfl (compared.noCompound entries)
  | _ => rfl

section Related

variable (Asked : Json -> Prop) {leaf Related : Tag -> Tag -> Prop}
  (alike : ∀ {one other}, leaf one other -> AnswersAlike Asked one other)
  (kept : ∀ {one other}, Related one other -> Corresponds leaf Related one other)

include alike kept

/-- The step from whole tags to children. -/
theorem checkChild_of_related (name : String) {value : Json} (asked : Asked value)
    (whole : ∀ {one other}, Related one other -> check value one = check value other)
    {one other : Tag} (related : Related one other) :
    checkChild name value one = checkChild name value other := by
  cases kept related with
  | same => rfl
  | leaf related =>
      have answers := alike related
      rw [answers.first.checkChild_eq, answers.second.checkChild_eq, answers.holds value asked]
  | list each =>
      cases value with
      | array items =>
          -- The items are asked for the very value that their list was asked for.
          exact Verdict.forAll_congr_forall₂ (each.imp fun _ _ inside => whole inside)
      | _ => rfl
  | compound each =>
      cases value with
      | object members => exact whole related
      | _ => rfl

/-- Related tags get the same verdict, with the same record, from every pattern that may be
asked. -/
theorem check_of_related
    (items : ∀ {items}, Asked (.array items) -> ∀ item ∈ items, Asked item)
    (members : ∀ {members}, Asked (.object members) -> ∀ member ∈ members, Asked member.2)
    {pattern : Json} (asked : Asked pattern) {one other : Tag} (related : Related one other) :
    check pattern one = check pattern other := by
  -- Where a check goes on, the pattern gets smaller, while the tags stay or give way to children.
  induction pattern using Json.nested_induction generalizing one other with
  | flat pattern noArray noObject =>
      have fails (tag : Tag) : check pattern tag = .fail := by
        rw [check]
        · exact noArray
        · exact fun members _ same => absurd same (noObject members)
      rw [fails, fails]
  | array listed inductionHypothesis =>
      rw [check, check, checkItems_eq_forAll, checkItems_eq_forAll]
      apply Verdict.forAll_congr_forall₂
      rw [List.forall₂_same]
      exact fun item mem => inductionHypothesis item mem (items asked item mem) related
  | object listed inductionHypothesis =>
      cases kept related with
      | same => rfl
      | leaf related =>
          have answers := alike related
          rw [answers.first.check_object, answers.second.check_object]
      | list => rfl
      | @compound entries others each =>
          rw [check, check, checkMembers_eq_forAll, checkMembers_eq_forAll]
          apply Verdict.forAll_congr_forall₂
          rw [List.forall₂_same]
          intro member mem
          have memberAsked := members asked member mem
          have children := each member.1
          generalize latest? member.1 entries = one, latest? member.1 others = other at children ⊢
          cases children with
          | none => rfl
          | some inside =>
              exact checkChild_of_related Asked alike kept member.1 memberAsked
                (fun related => inductionHypothesis member mem memberAsked related) inside

end Related

end Tag
end ItemModels
