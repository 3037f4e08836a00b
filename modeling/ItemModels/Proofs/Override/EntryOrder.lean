import ItemModels.Proofs.Override.Dependence
import ItemModels.Proofs.Tag.Reordering

namespace ItemModels

/-!
# Items whose tags got their entries in another order

An item keeps its tag in its data tree, and there a selection reads it in three
ways: a pattern is checked, the names in it are looked up, and enchantments are
gathered from a list of compounds.  Trees that differ only in the order in which
compounds got their entries give the same in each of them.  So the tests of all
rules come out the same, and with them every search.
-/

variable {one other : Tag}

namespace Tag

/-! ## What is read from a tree -/

theorem Reordered.child (reordered : Reordered one other) (name : String) :
    Option.Rel Reordered (one.child? name) (other.child? name) := by
  cases reordered.corresponds with
  | same => exact optionRel_refl .same _
  | leaf impossible => exact impossible.elim
  | list => exact .none
  | compound each => exact each name

theorem Reordered.toShort_eq (reordered : Reordered one other) : one.toShort? = other.toShort? := by
  cases reordered.corresponds with
  | leaf impossible => exact impossible.elim
  | _ => rfl

theorem Reordered.childShort_eq (reordered : Reordered one other) (name : String) :
    one.childShort name = other.childShort name := by
  have related := reordered.child name
  rw [childShort, childShort]
  generalize one.child? name = child, other.child? name = otherChild at related ⊢
  cases related with
  | none => rfl
  | some inside => exact congrArg (·.getD 0) inside.toShort_eq

theorem Reordered.hasChild_eq (reordered : Reordered one other) (name : String) :
    one.hasChild name = other.hasChild name := by
  have related := reordered.child name
  rw [hasChild, hasChild]
  generalize one.child? name = child, other.child? name = otherChild at related ⊢
  cases related <;> rfl

/-- The entries that name enchantments are the same up to order inside them. -/
theorem Reordered.enchantments (reordered : Reordered one other) :
    List.Forall₂ Reordered one.enchantments other.enchantments := by
  have related : Option.Rel Reordered ((one.child? "tag").bind fun tag => tag.child? "ench")
      ((other.child? "tag").bind fun tag => tag.child? "ench") := by
    have tags := reordered.child "tag"
    generalize one.child? "tag" = child, other.child? "tag" = otherChild at tags ⊢
    cases tags with
    | none => exact .none
    | some inside => exact inside.child "ench"
  rw [Tag.enchantments, Tag.enchantments]
  generalize (one.child? "tag").bind _ = child, (other.child? "tag").bind _ = otherChild
    at related ⊢
  cases related with
  | none => exact .nil
  | some inside =>
      cases inside.corresponds with
      | same => exact List.forall₂_same.mpr fun entry _ => .same entry
      | leaf impossible => exact impossible.elim
      | list each => exact each
      | compound => exact .nil

theorem Reordered.hasDataNames_eq (reordered : Reordered one other) (names : List String) :
    one.hasDataNames names = other.hasDataNames names := by
  have related := reordered.child "tag"
  rw [hasDataNames, hasDataNames]
  generalize one.child? "tag" = child, other.child? "tag" = otherChild at related ⊢
  cases related with
  | none => rfl
  | some inside =>
      cases inside.corresponds with
      | leaf impossible => exact impossible.elim
      | compound => simp only [inside.hasChild_eq]
      | _ => rfl

end Tag

/-! ## Tests and searches -/

namespace Snapshot

variable (snapshot : Snapshot)

/-- The snapshot with another tag. -/
def withTag (tag : Tag) : Snapshot := { snapshot with tag := some tag }

theorem tree_reordered (reordered : Tag.Reordered one other) :
    Tag.Reordered (snapshot.withTag one).tree (snapshot.withTag other).tree :=
  .entry [("id", .string snapshot.id.toText), ("Count", .byte snapshot.count.toInt8),
    ("Damage", .short snapshot.damage.toInt16)] [] "tag" reordered

theorem namedEntries_reordered {entries others : List Tag}
    (each : List.Forall₂ Tag.Reordered entries others) :
    (snapshot.withTag one).attributes.namedEntries entries =
      (snapshot.withTag other).attributes.namedEntries others := by
  induction each with
  | nil => rfl
  | cons here _ inductionHypothesis =>
      rw [Attributes.namedEntries, Attributes.namedEntries, inductionHypothesis, here.childShort_eq,
        here.childShort_eq]
      rfl

theorem enchantments_reordered (reordered : Tag.Reordered one other) :
    (snapshot.withTag one).attributes.enchantments =
      (snapshot.withTag other).attributes.enchantments :=
  snapshot.namedEntries_reordered (snapshot.tree_reordered reordered).enchantments

theorem holds_reordered (reordered : Tag.Reordered one other) (test : Test) :
    test.holds (snapshot.withTag one).attributes =
      test.holds (snapshot.withTag other).attributes := by
  have trees := snapshot.tree_reordered reordered
  cases test with
  | nbt pattern => exact congrArg Reading.value (trees.satisfies_eq pattern)
  | includeNbt names =>
      cases names with
      | none => rfl
      | some names => exact congrArg Reading.value (trees.hasDataNames_eq names)
  | enchantment levels =>
      cases levels with
      | none => rfl
      | some levels => rw [Test.holds, Test.holds, snapshot.enchantments_reordered reordered]
  | includeEnchantment names =>
      cases names with
      | none => rfl
      | some names => rw [Test.holds, Test.holds, snapshot.enchantments_reordered reordered]
  | stacking | damage | unknown | never => rfl
  | name asked | day asked | time asked => cases asked <;> rfl

theorem decides_reordered (reordered : Tag.Reordered one other) (rule : Rule) :
    rule.DecidesAlike (snapshot.withTag one).attributes (snapshot.withTag other).attributes where
  test test _ := snapshot.holds_reordered reordered test
  thresholds := rfl

end Snapshot

theorem Overrides.select_reordered (overrides : Overrides) (snapshot : Snapshot)
    (reordered : Tag.Reordered one other) :
    overrides.select (snapshot.withTag one).attributes =
      overrides.select (snapshot.withTag other).attributes := by
  have searched := Rule.searchFrom_of_alike
    (fun rule (_ : rule ∈ overrides.rules) => snapshot.decides_reordered reordered rule) 0
  rw [select, select, Rule.search, Rule.search, searched]

theorem Overrides.report_reordered (overrides : Overrides) (snapshot : Snapshot)
    (reordered : Tag.Reordered one other) :
    overrides.report (snapshot.withTag one).attributes =
      overrides.report (snapshot.withTag other).attributes :=
  Rule.reportFrom_of_alike (fun rule _ => snapshot.decides_reordered reordered rule) 0

namespace Tag

/-- Trees that differ only in the order of their entries have the same text form, which lists the
children of every compound in the order of the bytes of their names.  They satisfy the same
patterns, and no overrides choose or report anything else for an item when the one is its tag than
when the other is. -/
theorem entry_order_unobservable (reordered : Reordered one other) :
    one.render = other.render ∧
      (∀ entries, ∃ parts, Lists entries parts ∧ (compound entries).render =
        "\x7b" ++ ",".intercalate (parts.map fun part => part.1 ++ ":" ++ part.2) ++ "\x7d") ∧
      (∀ pattern, one.satisfies pattern = other.satisfies pattern) ∧
      ∀ (snapshot : Snapshot) (overrides : Overrides),
        overrides.select { snapshot with tag := some one }.attributes =
            overrides.select { snapshot with tag := some other }.attributes ∧
          overrides.report { snapshot with tag := some one }.attributes =
            overrides.report { snapshot with tag := some other }.attributes := by
  refine ⟨reordered.render_eq, ?_, reordered.satisfies_eq, ?_⟩
  · intro entries
    refine ⟨renderEntries entries, lists_renderEntries entries, ?_⟩
    rw [render]
  · intro snapshot overrides
    exact ⟨overrides.select_reordered snapshot reordered,
      overrides.report_reordered snapshot reordered⟩

/-- A page that replaces another one, with its own marks the other way round. -/
theorem entry_order_of_book :
    let page (entries : List (String × Tag)) : Tag := .list [compound entries]
    let one : Tag := compound [("page", .stop), ("wear", .int 3),
      ("page", page [("mark", .byte 1), ("lore", .string "old")])]
    let other : Tag := compound [("page", page [("lore", .string "old"), ("mark", .byte 1)]),
      ("wear", .int 3)]
    let pattern : Json := .object [("page", .array [.object [("mark", .ofInt 1)]])]
    one.render = other.render ∧ other.satisfies pattern = true ∧ one.satisfies pattern = true := by
  intro page one other pattern
  have inside : Reordered (compound [("mark", .byte 1), ("lore", .string "old")])
      (compound [("lore", .string "old"), ("mark", .byte 1)]) :=
    .permuted (by decide) (List.Perm.swap ..)
  have reordered : Reordered one other := by
    refine .trans (.replaced [] _ .stop (by decide)) ?_
    refine .trans (.entry [("wear", .int 3)] [] "page" (.item [] [] inside)) ?_
    exact .permuted (by decide) (List.Perm.swap ..)
  rcases entry_order_unobservable reordered with ⟨rendered, _, alike, _⟩
  have satisfied : other.satisfies pattern = true := by decide
  exact ⟨rendered, satisfied, (alike pattern).trans satisfied⟩

end Tag
end ItemModels
