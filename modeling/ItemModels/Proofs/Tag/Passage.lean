import ItemModels.Proofs.Json.Nested
import ItemModels.Tag.Match

namespace ItemModels

/-!
# What a check passes on its way

A check records the tags of unknown type that it passes, and it ends at the
first failure.  `Tag.passage` lists what would be passed if nothing ever failed:
it follows the pattern into the tag and compares nothing on the way.

The record of a check is a beginning of that list, and it is all of it when the
check succeeds.  Verdicts for which this holds of a given list are put together
in the two ways of `Verdict`, and the lists are then joined.  What remains is to
follow the pattern: the items of a list are checked with the same value that
their list was, so the induction on the pattern serves for them as well.
-/

namespace Verdict

/-- The record is a beginning of the list, and the whole of it if the verdict is good. -/
structure KeepsTo (verdict : Verdict) (passage : List (String × UInt8)) : Prop where
  begins : verdict.skipped <+: passage
  completes : verdict.holds = true -> verdict.skipped = passage

theorem keepsTo_pass : pass.KeepsTo [] := ⟨List.prefix_rfl, fun _ => rfl⟩

theorem keepsTo_fail (passage : List (String × UInt8)) : fail.KeepsTo passage :=
  ⟨List.nil_prefix, fun impossible => Bool.noConfusion impossible⟩

/-- A test alone passes nothing. -/
theorem keepsTo_ofBool (holds : Bool) : (ofBool holds).KeepsTo [] :=
  ⟨List.prefix_rfl, fun _ => rfl⟩

theorem KeepsTo.andThen {first : Verdict} {second : Unit -> Verdict}
    {before after : List (String × UInt8)} (one : first.KeepsTo before)
    (two : (second ()).KeepsTo after) : (first.andThen second).KeepsTo (before ++ after) := by
  unfold Verdict.andThen
  cases good : first.holds with
  | true =>
      simp only [if_true]
      rw [one.completes good]
      refine ⟨(List.prefix_append_right_inj before).mpr two.begins, fun both => ?_⟩
      rw [two.completes both]
  | false =>
      simp only [Bool.false_eq_true, if_false]
      refine ⟨one.begins.trans (List.prefix_append before after), fun impossible => ?_⟩
      rw [good] at impossible
      cases impossible

theorem KeepsTo.forAll {Item : Type} {check : Item -> Verdict}
    {passage : Item -> List (String × UInt8)} {items : List Item}
    (each : ∀ item ∈ items, (check item).KeepsTo (passage item)) :
    (Verdict.forAll check items).KeepsTo (items.flatMap passage) := by
  induction items with
  | nil => exact keepsTo_pass
  | cons item rest inductionHypothesis =>
      rcases List.forall_mem_cons.mp each with ⟨first, others⟩
      exact first.andThen (inductionHypothesis others)

end Verdict

namespace Tag

/-- What is passed at a child, when `inside` lists what is passed in a tag that its value is
asked of.  Only a child that the value can lead into is gone into. -/
def passageAt (name : String) (value : Json) (inside : Tag -> List (String × UInt8)) :
    Tag -> List (String × UInt8)
  | .unknown id => [(name, id)]
  | .compound entries =>
      match value with
      | .object _ => inside (.compound entries)
      | _ => []
  | .list elements =>
      match value with
      | .array _ => elements.flatMap inside
      | _ => []
  | _ => []

/-- The tags of unknown type, each with its name, in the order in which a pattern leads to
them. -/
def passage : Json -> Tag -> List (String × UInt8)
  | .array items, tag => items.flatMap fun item => passage item tag
  | .object members, .compound entries =>
      members.flatMap fun member =>
        match latest? member.1 entries with
        | some child => passageAt member.1 member.2 (fun tag => passage member.2 tag) child
        | none => []
  | _, _ => []
termination_by pattern => sizeOf pattern
decreasing_by
  · exact Json.sizeOf_item_lt ‹item ∈ items›
  · exact Json.sizeOf_value_lt ‹member ∈ members›

/-! ## The check of a child -/

theorem checkItems_eq_forAll (items : List Json) (tag : Tag) :
    checkItems items tag = Verdict.forAll (fun item => check item tag) items := by
  induction items with
  | nil => rfl
  | cons item rest inductionHypothesis =>
      rw [checkItems, Verdict.forAll, inductionHypothesis]

theorem checkMembers_eq_forAll (members : List (String × Json)) (entries : List (String × Tag)) :
    checkMembers members entries = Verdict.forAll (fun member =>
      match latest? member.1 entries with
      | some child => checkChild member.1 member.2 child
      | none => .fail) members := by
  induction members with
  | nil => rfl
  | cons member rest inductionHypothesis =>
      rcases member with ⟨name, value⟩
      rw [checkMembers, Verdict.forAll, inductionHypothesis]
      cases latest? name entries <;> rfl

/-- The step from whole tags to children. -/
private theorem keepsTo_checkChild (name : String) {value : Json}
    (whole : ∀ tag, (check value tag).KeepsTo (passage value tag)) (child : Tag) :
    (checkChild name value child).KeepsTo (passageAt name value (passage value) child) := by
  cases child with
  | unknown id =>
      rw [checkChild]
      exact ⟨List.prefix_rfl, fun _ => rfl⟩
  | compound entries =>
      cases value with
      | object members => exact whole (.compound entries)
      | _ => exact Verdict.keepsTo_ofBool _
  | list elements =>
      cases value with
      | array items => exact Verdict.KeepsTo.forAll fun element _ => whole element
      | _ => exact Verdict.keepsTo_ofBool _
  | _ => cases value <;> exact Verdict.keepsTo_ofBool _

theorem keepsTo_check (pattern : Json) (tag : Tag) :
    (check pattern tag).KeepsTo (passage pattern tag) := by
  induction pattern using Json.nested_induction generalizing tag with
  | flat pattern noArray noObject =>
      rw [check]
      · exact Verdict.keepsTo_fail _
      · exact noArray
      · exact fun members _ same => absurd same (noObject members)
  | array items inductionHypothesis =>
      rw [check, checkItems_eq_forAll, passage]
      exact Verdict.KeepsTo.forAll fun item listed => inductionHypothesis item listed tag
  | object members inductionHypothesis =>
      cases tag with
      | compound entries =>
          rw [check, checkMembers_eq_forAll, passage]
          apply Verdict.KeepsTo.forAll
          intro member listed
          cases latest? member.1 entries with
          | none => exact Verdict.keepsTo_fail _
          | some child => exact keepsTo_checkChild member.1 (inductionHypothesis member listed) child
      | _ => exact Verdict.keepsTo_fail _

/-- A check passes tags of unknown type in the order in which the pattern leads to them, up to
where it ends, and it passes all of them when the pattern is satisfied. -/
theorem skipped_along_passage (tag : Tag) (pattern : Json) :
    (check pattern tag).skipped <+: passage pattern tag ∧
      (tag.satisfies pattern = true -> (check pattern tag).skipped = passage pattern tag) := by
  have kept := keepsTo_check pattern tag
  exact ⟨kept.begins, kept.completes⟩

/-- Each page of a book is gone through, and the items of the array come one after another. -/
theorem skipped_along_pages :
    let page (id : UInt8) (number : Int32) : Tag :=
      compound [("mark", .unknown id), ("number", .int number)]
    let book : Tag := compound [("pages", .list [page 20 1, page 21 2]), ("seal", .unknown 40)]
    let pattern : Json :=
      .object [("seal", .null),
        ("pages", .array [.object [("mark", .null)], .object [("number", .ofInt 1), ("mark", .null)]])]
    book.satisfies pattern = true ∧
      passage pattern book =
        [("seal", 40), ("mark", 20), ("mark", 20), ("mark", 21), ("mark", 21)] := by
  intro page book pattern
  have satisfied : book.satisfies pattern = true := by decide
  refine ⟨satisfied, ?_⟩
  rw [← (skipped_along_passage book pattern).2 satisfied]
  decide

/-- What stands after the first failure is not passed. -/
example :
    (check (.object [("seal", .null), ("Count", .ofInt 2), ("mark", .null)])
      (compound [("mark", .unknown 20), ("Count", .byte 1), ("seal", .unknown 40)])).skipped =
        [("seal", 40)] := by
  decide

end Tag
end ItemModels
