import ItemModels.Item.Snapshot
import ItemModels.Proofs.Override.Search

namespace ItemModels

/-!
# Readings that fail

A rule that comes to a reading which fails does not apply and gives one warning.
Which reading is made first matters for the warning only: a threshold that is
not reached hides the failures of all thresholds after it, while the rule does
not apply either way.  For the other rules of a list such a rule might as well
not be there.

Which readings a test makes depends on its kind, and a malformed or an unknown
test makes none.  `Test.ReadsFailure` lists them, and `check_eq_failed_iff` says
in these terms when the check of a rule fails.
-/

/-! ## Where a check fails -/

namespace Reading

variable {First Second : Type}

theorem value_eq_failed_iff (found : First) :
    Reading.value found = .failed <-> False := by
  simp

theorem bind_eq_failed_iff (reading : Reading First) (next : First -> Reading Second) :
    reading.bind next = .failed <->
      reading = .failed ∨ ∃ found, reading = .value found ∧ next found = .failed := by
  cases reading <;> simp

theorem bind_value_eq_failed_iff (reading : Reading First) (result : First -> Second) :
    (reading.bind fun found => .value (result found)) = .failed <-> reading = .failed := by
  cases reading <;> simp

/-- A check of all items fails at an item when it held for every item before. -/
theorem forAll_eq_failed_iff {Item : Type} (check : Item -> Reading Bool) (items : List Item) :
    forAll check items = .failed <->
      ∃ before item after, items = before ++ item :: after ∧
        (∀ earlier ∈ before, check earlier = .value true) ∧ check item = .failed := by
  induction items with
  | nil => simp [forAll]
  | cons head rest inductionHypothesis =>
      rw [forAll, bind_eq_failed_iff]
      constructor
      · rintro (fails | ⟨holds, read, later⟩)
        · exact ⟨[], head, rest, rfl, by simp, fails⟩
        · cases holds with
          | false => cases later
          | true =>
              rcases inductionHypothesis.mp later with ⟨before, item, after, rfl, held, fails⟩
              exact ⟨head :: before, item, after, rfl,
                List.forall_mem_cons.mpr ⟨read, held⟩, fails⟩
      · rintro ⟨before, item, after, split, held, fails⟩
        cases before with
        | nil =>
            rcases List.cons.inj split with ⟨rfl, _⟩
            exact Or.inl fails
        | cons first before =>
            rcases List.cons.inj split with ⟨rfl, remains⟩
            have parts := List.forall_mem_cons.mp held
            exact Or.inr ⟨true, parts.1,
              inductionHypothesis.mpr ⟨before, item, after, remains, parts.2, fails⟩⟩

end Reading

namespace Attributes

/-- The entries that name the enchantments cannot be read, or one of the names cannot. -/
def EnchantmentsFail (source : Attributes) : Prop :=
  source.enchantmentEntries = .failed ∨
    ∃ entries, source.enchantmentEntries = .value entries ∧
      ∃ entry ∈ entries, source.enchantmentName (entry.childShort "id") = .failed

theorem namedEntries_eq_failed_iff (source : Attributes) (entries : List Tag) :
    source.namedEntries entries = .failed <->
      ∃ entry ∈ entries, source.enchantmentName (entry.childShort "id") = .failed := by
  induction entries with
  | nil => simp [namedEntries]
  | cons entry rest inductionHypothesis =>
      simp only [List.mem_cons, exists_eq_or_imp, ← inductionHypothesis]
      cases name : source.enchantmentName (entry.childShort "id") with
      | failed => simp [namedEntries, bind, name]
      | value location =>
          cases others : source.namedEntries rest <;> cases location <;>
            simp [namedEntries, bind, name, others]

theorem enchantments_eq_failed_iff (source : Attributes) :
    source.enchantments = .failed <-> source.EnchantmentsFail := by
  unfold enchantments EnchantmentsFail
  simp only [bind, Reading.bind_eq_failed_iff, namedEntries_eq_failed_iff]

end Attributes

namespace Test

/-- The test makes a reading that fails.  A malformed test, an unknown one and the test that no
item passes make no reading. -/
def ReadsFailure (source : Attributes) : Test -> Prop
  | .stacking _ => source.count = .failed ∨ source.maxCount = .failed
  | .damage _ => source.damage = .failed ∨ source.maxDamage = .failed
  | .nbt _ => source.tree = .failed
  | .includeNbt (some _) => source.tree = .failed
  | .enchantment (some _) => source.EnchantmentsFail
  | .includeEnchantment (some _) => source.EnchantmentsFail
  | .name (some _) => source.displayName = .failed
  | .day (some _) => source.clock = .failed
  | .time (some _) => source.clock = .failed
  | .includeNbt none | .enchantment none | .includeEnchantment none => False
  | .name none | .day none | .time none => False
  | .unknown _ => False
  | .never => False

/-- Two readings are made one after the other, and both are needed. -/
private theorem both_eq_failed_iff {First Second Result : Type} (first : Reading First)
    (second : Reading Second) (result : First -> Second -> Result) :
    (first.bind fun one => second.bind fun two => .value (result one two)) = .failed <->
      first = .failed ∨ second = .failed := by
  cases first <;> cases second <;> simp

private theorem enchantments_bind_eq_failed_iff {Result : Type} (source : Attributes)
    (result : List (Location × Int16) -> Result) :
    (source.enchantments.bind fun levels => .value (result levels)) = .failed <->
      source.EnchantmentsFail := by
  rw [Reading.bind_value_eq_failed_iff, Attributes.enchantments_eq_failed_iff]

/-- A test fails when it makes a reading that fails. -/
theorem holds_eq_failed_iff (test : Test) (source : Attributes) :
    test.holds source = .failed <-> test.ReadsFailure source := by
  cases test with
  | stacking quantity => exact both_eq_failed_iff source.count source.maxCount _
  | damage quantity => exact both_eq_failed_iff source.damage source.maxDamage _
  | nbt pattern => exact Reading.bind_value_eq_failed_iff source.tree _
  | includeNbt names =>
      cases names with
      | none => exact Reading.value_eq_failed_iff false
      | some names => exact Reading.bind_value_eq_failed_iff source.tree _
  | enchantment levels =>
      cases levels with
      | none => exact Reading.value_eq_failed_iff false
      | some levels => exact enchantments_bind_eq_failed_iff source _
  | includeEnchantment names =>
      cases names with
      | none => exact Reading.value_eq_failed_iff false
      | some names => exact enchantments_bind_eq_failed_iff source _
  | name pattern =>
      cases pattern with
      | none => exact Reading.value_eq_failed_iff false
      | some pattern => exact Reading.bind_value_eq_failed_iff source.displayName _
  | day threshold =>
      cases threshold with
      | none => exact Reading.value_eq_failed_iff false
      | some threshold => exact Reading.bind_value_eq_failed_iff source.clock _
  | time threshold =>
      cases threshold with
      | none => exact Reading.value_eq_failed_iff false
      | some threshold => exact Reading.bind_value_eq_failed_iff source.clock _
  | unknown path => exact Reading.value_eq_failed_iff true
  | never => exact Reading.value_eq_failed_iff false

end Test

/-- The property of the threshold is read and is not less. -/
def Threshold.Reached (source : Attributes) (threshold : Threshold) : Prop :=
  ∃ value, source.property threshold.key = .value (some value) ∧
    value.atLeast threshold.least = true

namespace Rule

theorem thresholdReached_eq_true_iff (source : Attributes) (threshold : Threshold) :
    thresholdReached source threshold = .value true <-> threshold.Reached source := by
  unfold thresholdReached Threshold.Reached
  cases source.property threshold.key with
  | failed => simp [bind]
  | value found => cases found <;> simp [bind]

theorem thresholdReached_eq_failed_iff (source : Attributes) (threshold : Threshold) :
    thresholdReached source threshold = .failed <-> source.property threshold.key = .failed := by
  unfold thresholdReached
  cases source.property threshold.key with
  | failed => simp [bind]
  | value found => cases found <;> simp [bind]

/-- Trying the rule comes to a reading that fails: one of its test, or one of a threshold after its
test and all thresholds before that one have held. -/
def ReachesFailure (rule : Rule) (source : Attributes) : Prop :=
  (∃ test, rule.test = some test ∧ test.ReadsFailure source) ∨
    (∀ test, rule.test = some test -> test.holds source = .value true) ∧
      ∃ before threshold after, rule.thresholds = before ++ threshold :: after ∧
        (∀ earlier ∈ before, earlier.Reached source) ∧ source.property threshold.key = .failed

theorem thresholdsReached_eq_failed_iff (rule : Rule) (source : Attributes) :
    rule.thresholdsReached source = .failed <->
      ∃ before threshold after, rule.thresholds = before ++ threshold :: after ∧
        (∀ earlier ∈ before, earlier.Reached source) ∧
        source.property threshold.key = .failed := by
  rw [thresholdsReached, Reading.forAll_eq_failed_iff]
  simp only [thresholdReached_eq_true_iff, thresholdReached_eq_failed_iff]

theorem check_eq_failed_iff (rule : Rule) (source : Attributes) :
    rule.check source = .failed <-> rule.ReachesFailure source := by
  unfold ReachesFailure
  rw [← thresholdsReached_eq_failed_iff]
  cases stated : rule.test with
  | none => simp [check, stated]
  | some test =>
      simp only [Option.some.injEq, exists_eq_left', forall_eq', ← Test.holds_eq_failed_iff]
      cases held : test.holds source with
      | failed => simp [check, stated, held]
      | value holds => cases holds <;> simp [check, stated, held]

/-- The warnings of trying the rule alone. -/
def warnings (rule : Rule) (source : Attributes) : List Warning :=
  Warning.of rule.model (rule.check source)

theorem warnings_of_reachesFailure {rule : Rule} {source : Attributes}
    (reaches : rule.ReachesFailure source) : rule.warnings source = [⟨rule.model⟩] := by
  rw [warnings, (rule.check_eq_failed_iff source).mpr reaches]
  rfl

theorem warnings_of_not_reachesFailure {rule : Rule} {source : Attributes}
    (never : ¬ rule.ReachesFailure source) : rule.warnings source = [] := by
  cases checked : rule.check source with
  | failed => exact absurd ((rule.check_eq_failed_iff source).mp checked) never
  | value holds =>
      rw [warnings, checked]
      rfl

theorem applies_of_reachesFailure {rule : Rule} {source : Attributes}
    (reaches : rule.ReachesFailure source) : rule.applies source = false := by
  rw [applies, (rule.check_eq_failed_iff source).mpr reaches]
  rfl

theorem warnings_of_applies {rule : Rule} {source : Attributes}
    (applies : rule.applies source = true) : rule.warnings source = [] := by
  apply warnings_of_not_reachesFailure
  intro reaches
  rw [applies_of_reachesFailure reaches] at applies
  cases applies

/-! ## Lists of rules -/

/-- Counting the rules from one further on gives places that are one further on. -/
theorem selection_searchFrom_succ (source : Attributes) (start : Nat) (rules : List Rule) :
    (searchFrom source (start + 1) rules).selection =
      (searchFrom source start rules).selection.map fun selection =>
        ⟨selection.index + 1, selection.model⟩ := by
  induction rules generalizing start with
  | nil => rfl
  | cons head rest inductionHypothesis =>
      rw [searchFrom, searchFrom]
      cases succeeded : (head.check source).succeeded with
      | true => rfl
      | false => exact inductionHypothesis (start + 1)

theorem le_index_searchFrom {source : Attributes} {start : Nat} {rules : List Rule}
    {selection : Selection} (chosen : (searchFrom source start rules).selection = some selection) :
    start <= selection.index := by
  rcases (searchFrom_eq_some_iff source start rules selection).mp chosen with
    ⟨index, rule, _, rfl⟩
  exact Nat.le_add_right start index

end Rule

/-- The selection after a rule was put into the list at a place: from that place on, rules stand one
further. -/
def Selection.shifted (place : Nat) (selection : Selection) : Selection :=
  if selection.index < place then selection else ⟨selection.index + 1, selection.model⟩

namespace Rule

/-- A rule that does not apply may be left out of the list. -/
theorem selection_searchFrom_insert (source : Attributes) (start : Nat) (before after : List Rule)
    {rule : Rule} (fails : rule.applies source = false) :
    (searchFrom source start (before ++ rule :: after)).selection =
      (searchFrom source start (before ++ after)).selection.map
        (Selection.shifted (start + before.length)) := by
  induction before generalizing start with
  | nil =>
      have skipped : (searchFrom source start (rule :: after)).selection =
          (searchFrom source (start + 1) after).selection := by
        rw [applies] at fails
        simp [searchFrom, fails]
      rw [List.nil_append, List.nil_append, skipped, selection_searchFrom_succ]
      apply Option.map_congr
      intro selection chosen
      have later := le_index_searchFrom chosen
      exact (if_neg (Nat.not_lt.mpr later)).symm
  | cons head before inductionHypothesis =>
      rw [List.cons_append, List.cons_append, searchFrom, searchFrom]
      cases succeeded : (head.check source).succeeded with
      | true => simp [Selection.shifted]
      | false =>
          have later := inductionHypothesis (start + 1)
          rw [Nat.add_right_comm, Nat.add_assoc] at later
          simpa using later

/-- The warnings of a search are those of the rules before the chosen one, in their order. -/
theorem warnings_searchFrom_of_first (source : Attributes) (start : Nat) (rules : List Rule)
    {index : Nat} {rule : Rule} (first : FirstApplying rules source index rule) :
    (searchFrom source start rules).warnings =
      (rules.take index).flatMap fun rule => rule.warnings source := by
  induction rules generalizing start index with
  | nil => cases first.1
  | cons head rest inductionHypothesis =>
      rcases (firstApplying_cons_iff source head rest index rule).mp first with
        ⟨rfl, rfl, here⟩ | ⟨later, rfl, fails, remains⟩
      · have silent := warnings_of_applies here
        rw [applies] at here
        simpa [searchFrom, here, warnings] using silent
      · rw [applies] at fails
        simp [searchFrom, fails, warnings, inductionHypothesis (start + 1) remains]

theorem warnings_searchFrom_of_none (source : Attributes) (start : Nat) (rules : List Rule)
    (noneApplies : ∀ rule ∈ rules, rule.applies source = false) :
    (searchFrom source start rules).warnings =
      rules.flatMap fun rule => rule.warnings source := by
  induction rules generalizing start with
  | nil => rfl
  | cons head rest inductionHypothesis =>
      rcases List.forall_mem_cons.mp noneApplies with ⟨fails, others⟩
      rw [applies] at fails
      simp [searchFrom, fails, warnings, inductionHypothesis (start + 1) others]

end Rule

namespace Overrides

/-- The warnings are those of the rules before the chosen one, or of all rules when none is
chosen. -/
theorem warnings_search (overrides : Overrides) (source : Attributes) :
    (Rule.search overrides.rules source).warnings =
      match overrides.select source with
      | some selection =>
          (overrides.rules.take selection.index).flatMap fun rule => rule.warnings source
      | none => overrides.rules.flatMap fun rule => rule.warnings source := by
  cases chosen : overrides.select source with
  | none =>
      exact Rule.warnings_searchFrom_of_none source 0 overrides.rules
        ((overrides.select_eq_none_iff source).mp chosen)
  | some selection =>
      rcases (overrides.select_eq_some_iff source selection).mp chosen with
        ⟨index, rule, first, rfl⟩
      exact Rule.warnings_searchFrom_of_first source 0 overrides.rules first

/-- A reading that fails makes the rule that comes to it fail, with one warning, and changes nothing
else: the rule applies or not whatever the order of its thresholds, the selection is that of a list
without the rule, and no warning is about a rule from the chosen one on. -/
theorem failure_stays_with_rule (source : Attributes) :
    (∀ rule : Rule,
      (rule.applies source = true <->
        (∀ test, rule.test = some test -> test.holds source = .value true) ∧
          ∀ threshold ∈ rule.thresholds, threshold.Reached source) ∧
      (∀ permuted : List Threshold, permuted.Perm rule.thresholds ->
        { rule with thresholds := permuted }.applies source = rule.applies source) ∧
      (rule.ReachesFailure source -> rule.warnings source = [⟨rule.model⟩]) ∧
      (¬ rule.ReachesFailure source -> rule.warnings source = [])) ∧
    (∀ (namespaces : Namespaces) (before after : List Rule) (rule : Rule),
      rule.ReachesFailure source ->
        (Overrides.mk (before ++ rule :: after) namespaces).select source =
          ((Overrides.mk (before ++ after) namespaces).select source).map
            (Selection.shifted before.length)) ∧
    ∀ overrides : Overrides, (Rule.search overrides.rules source).warnings =
      match overrides.select source with
      | some selection =>
          (overrides.rules.take selection.index).flatMap fun rule => rule.warnings source
      | none => overrides.rules.flatMap fun rule => rule.warnings source := by
  have applies_iff (rule : Rule) : rule.applies source = true <->
      (∀ test, rule.test = some test -> test.holds source = .value true) ∧
        ∀ threshold ∈ rule.thresholds, threshold.Reached source := by
    simp only [Rule.applies_eq_true_iff, Rule.thresholdReached_eq_true_iff]
  refine ⟨fun rule => ⟨applies_iff rule, fun permuted same => ?_,
    Rule.warnings_of_reachesFailure, Rule.warnings_of_not_reachesFailure⟩, ?_,
    fun overrides => overrides.warnings_search source⟩
  · apply Bool.eq_iff_iff.mpr
    rw [applies_iff, applies_iff]
    exact and_congr_right fun _ => forall_congr' fun threshold => imp_congr_left same.mem_iff
  · intro namespaces before after rule reaches
    have kept := Rule.selection_searchFrom_insert source 0 before after
      (Rule.applies_of_reachesFailure reaches)
    rw [Nat.zero_add] at kept
    exact kept

/-- Without a clock and without properties to read, the rule for the third day is passed over with a
warning, and the rule after it is chosen in its own place.  A rule with two thresholds does not apply
whichever of them comes first. -/
theorem failure_stays_with_day :
    let source := { (Snapshot.new "apple").attributes with
      clock := .failed, property := fun _ => .failed }
    let dated : Rule := ⟨Location.ofText "late", some (.day (some 3)), []⟩
    let plain : Rule := ⟨Location.ofText "any", none, []⟩
    let pull : Threshold := ⟨Location.ofText "pull", Binary.ofInt .single 1⟩
    let pulling : Threshold := ⟨Location.ofText "pulling", Binary.ofInt .single 1⟩
    (Overrides.mk [dated, plain] .standard).select source = some ⟨1, Location.ofText "any"⟩ ∧
      dated.warnings source = [⟨Location.ofText "late"⟩] ∧ plain.warnings source = [] ∧
      { plain with thresholds := [pulling, pull] }.applies source =
        { plain with thresholds := [pull, pulling] }.applies source := by
  intro source dated plain pull pulling
  have spec := failure_stays_with_rule source
  have reaches : dated.ReachesFailure source := Or.inl ⟨.day (some 3), rfl, rfl⟩
  have never : ¬ plain.ReachesFailure source := by
    rintro (⟨test, impossible, _⟩ | ⟨_, before, threshold, after, split, _⟩)
    · cases impossible
    · exact List.append_ne_nil_of_right_ne_nil before (List.cons_ne_nil _ _) split.symm
  have swapped : [pulling, pull].Perm [pull, pulling] := .swap pull pulling []
  exact ⟨spec.2.1 .standard [] [plain] dated reaches, (spec.1 dated).2.2.1 reaches,
    (spec.1 plain).2.2.2 never, (spec.1 { plain with thresholds := [pull, pulling] }).2.1 _ swapped⟩

end Overrides
end ItemModels
