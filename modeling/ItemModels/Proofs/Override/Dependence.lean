import ItemModels.Item.Snapshot
import ItemModels.Override.Overrides

namespace ItemModels

/-!
# What a selection depends on

A source offers many readings, and a list of rules names a few of them.  Two
sources that agree on the named ones are the same to the list: both searches
give the same result, down to the warnings, whatever the sources give or refuse
elsewhere.  To agree on a reading is to give the same value or to fail both.

Which readings a test names depends on its kind alone, not on what it asks of
them.  A malformed test, an unknown one and the test that no item passes name
none.
-/

/-- One of the readings that a source offers. -/
inductive Feature where
  | count
  | maxCount
  | damage
  | maxDamage
  | tree
  | enchantmentEntries
  | enchantmentName (id : Int16)
  | displayName
  | clock
  | property (key : Location)

/-- The readings from which enchantments and their levels are gathered. -/
def Feature.OfEnchantments (feature : Feature) : Prop :=
  feature = .enchantmentEntries ∨ ∃ id, feature = .enchantmentName id

/-- Both sources give the same value there, or both fail. -/
def Attributes.AgreeAt (one other : Attributes) : Feature -> Prop
  | .count => one.count = other.count
  | .maxCount => one.maxCount = other.maxCount
  | .damage => one.damage = other.damage
  | .maxDamage => one.maxDamage = other.maxDamage
  | .tree => one.tree = other.tree
  | .enchantmentEntries => one.enchantmentEntries = other.enchantmentEntries
  | .enchantmentName id => one.enchantmentName id = other.enchantmentName id
  | .displayName => one.displayName = other.displayName
  | .clock => one.clock = other.clock
  | .property key => one.property key = other.property key

def Test.Names : Test -> Feature -> Prop
  | .stacking _, feature => feature = .count ∨ feature = .maxCount
  | .damage _, feature => feature = .damage ∨ feature = .maxDamage
  | .nbt _, feature => feature = .tree
  | .includeNbt (some _), feature => feature = .tree
  | .enchantment (some _), feature => feature.OfEnchantments
  | .includeEnchantment (some _), feature => feature.OfEnchantments
  | .name (some _), feature => feature = .displayName
  | .day (some _), feature => feature = .clock
  | .time (some _), feature => feature = .clock
  | .includeNbt none, _ | .enchantment none, _ | .includeEnchantment none, _ => False
  | .name none, _ | .day none, _ | .time none, _ => False
  | .unknown _, _ => False
  | .never, _ => False

def Rule.Names (rule : Rule) (feature : Feature) : Prop :=
  (∃ test, rule.test = some test ∧ test.Names feature) ∨
    ∃ threshold ∈ rule.thresholds, feature = .property threshold.key

/-- Some rule of the list names the reading. -/
def Overrides.Names (overrides : Overrides) (feature : Feature) : Prop :=
  ∃ rule ∈ overrides.rules, rule.Names feature

variable {one other : Attributes}

/-! ## One test -/

namespace Attributes

theorem namedEntries_congr
    (names : ∀ id, one.enchantmentName id = other.enchantmentName id) (entries : List Tag) :
    one.namedEntries entries = other.namedEntries entries := by
  induction entries with
  | nil => rfl
  | cons entry rest inductionHypothesis =>
      rw [namedEntries, namedEntries, names, inductionHypothesis]

theorem enchantments_congr
    (agree : ∀ feature : Feature, feature.OfEnchantments -> one.AgreeAt other feature) :
    one.enchantments = other.enchantments := by
  have entries : one.enchantmentEntries = other.enchantmentEntries :=
    agree .enchantmentEntries (Or.inl rfl)
  have names : ∀ id, one.enchantmentName id = other.enchantmentName id :=
    fun id => agree (.enchantmentName id) (Or.inr ⟨id, rfl⟩)
  have gathered : one.namedEntries = other.namedEntries := by
    funext entries
    exact namedEntries_congr names entries
  rw [enchantments, enchantments, entries, gathered]

end Attributes

/-- A test gives the same for sources that agree on what it names. -/
theorem Test.holds_congr (test : Test)
    (agree : ∀ feature, test.Names feature -> one.AgreeAt other feature) :
    test.holds one = test.holds other := by
  cases test with
  | stacking quantity =>
      have count : one.count = other.count := agree .count (Or.inl rfl)
      have most : one.maxCount = other.maxCount := agree .maxCount (Or.inr rfl)
      rw [holds, holds, count, most]
  | damage quantity =>
      have damage : one.damage = other.damage := agree .damage (Or.inl rfl)
      have most : one.maxDamage = other.maxDamage := agree .maxDamage (Or.inr rfl)
      rw [holds, holds, damage, most]
  | nbt pattern =>
      have tree : one.tree = other.tree := agree .tree rfl
      rw [holds, holds, tree]
  | includeNbt names =>
      cases names with
      | none => rfl
      | some names =>
          have tree : one.tree = other.tree := agree .tree rfl
          rw [holds, holds, tree]
  | enchantment levels =>
      cases levels with
      | none => rfl
      | some levels => rw [holds, holds, Attributes.enchantments_congr agree]
  | includeEnchantment names =>
      cases names with
      | none => rfl
      | some names => rw [holds, holds, Attributes.enchantments_congr agree]
  | name pattern =>
      cases pattern with
      | none => rfl
      | some pattern =>
          have displayName : one.displayName = other.displayName := agree .displayName rfl
          rw [holds, holds, displayName]
  | day threshold =>
      cases threshold with
      | none => rfl
      | some threshold =>
          have clock : one.clock = other.clock := agree .clock rfl
          rw [holds, holds, clock]
  | time threshold =>
      cases threshold with
      | none => rfl
      | some threshold =>
          have clock : one.clock = other.clock := agree .clock rfl
          rw [holds, holds, clock]
  | unknown path => rfl
  | never => rfl

/-! ## One rule -/

theorem Reading.forAll_congr {Item : Type} {check check' : Item -> Reading Bool} {items : List Item}
    (same : ∀ item ∈ items, check item = check' item) :
    forAll check items = forAll check' items := by
  induction items with
  | nil => rfl
  | cons item rest inductionHypothesis =>
      rcases List.forall_mem_cons.mp same with ⟨here, others⟩
      rw [forAll, forAll, here, inductionHypothesis others]

namespace Rule

/-- The test of the rule, if it has one, and its thresholds give the same for both sources. -/
structure DecidesAlike (rule : Rule) (one other : Attributes) : Prop where
  test : ∀ test, rule.test = some test -> test.holds one = test.holds other
  thresholds : rule.thresholdsReached one = rule.thresholdsReached other

namespace DecidesAlike

variable {rule : Rule}

theorem check_eq (alike : rule.DecidesAlike one other) : rule.check one = rule.check other := by
  cases stated : rule.test with
  | none => simp only [check, stated, alike.thresholds]
  | some test => simp only [check, stated, alike.test test stated, alike.thresholds]

theorem attempt_eq (alike : rule.DecidesAlike one other) (index : Nat) :
    rule.attempt one index = rule.attempt other index := by
  cases stated : rule.test with
  | none => simp only [attempt, stated, Option.map_none, alike.thresholds]
  | some test =>
      simp only [attempt, stated, Option.map_some, alike.test test stated, alike.thresholds]

/-- It is enough to agree on the readings that the rule names. -/
theorem of_agree (agree : ∀ feature, rule.Names feature -> one.AgreeAt other feature) :
    rule.DecidesAlike one other where
  test := by
    intro test stated
    apply test.holds_congr
    intro feature named
    exact agree feature (Or.inl ⟨test, stated, named⟩)
  thresholds := by
    apply Reading.forAll_congr
    intro threshold listed
    have property : one.property threshold.key = other.property threshold.key :=
      agree (.property threshold.key) (Or.inr ⟨threshold, listed, rfl⟩)
    rw [thresholdReached, thresholdReached, property]

end DecidesAlike

/-! ## Whole searches -/

section Searches

variable {rules : List Rule}

theorem searchFrom_of_alike (alike : ∀ rule ∈ rules, rule.DecidesAlike one other) (start : Nat) :
    searchFrom one start rules = searchFrom other start rules := by
  induction rules generalizing start with
  | nil => rfl
  | cons head rest inductionHypothesis =>
      rcases List.forall_mem_cons.mp alike with ⟨here, others⟩
      rw [searchFrom, searchFrom, here.check_eq, inductionHypothesis others]

theorem reportFrom_of_alike (alike : ∀ rule ∈ rules, rule.DecidesAlike one other) (start : Nat) :
    reportFrom one start rules = reportFrom other start rules := by
  induction rules generalizing start with
  | nil => rfl
  | cons head rest inductionHypothesis =>
      rcases List.forall_mem_cons.mp alike with ⟨here, others⟩
      rw [reportFrom, reportFrom, here.attempt_eq, inductionHypothesis others]

theorem searchFrom_congr
    (agree : ∀ rule ∈ rules, ∀ feature, rule.Names feature -> one.AgreeAt other feature)
    (start : Nat) : searchFrom one start rules = searchFrom other start rules :=
  searchFrom_of_alike (fun rule listed => .of_agree (agree rule listed)) start

theorem reportFrom_congr
    (agree : ∀ rule ∈ rules, ∀ feature, rule.Names feature -> one.AgreeAt other feature)
    (start : Nat) : reportFrom one start rules = reportFrom other start rules :=
  reportFrom_of_alike (fun rule listed => .of_agree (agree rule listed)) start

end Searches

end Rule

namespace Overrides

/-- Sources that agree on every reading that some rule names get the same selection, the same
report with the same outcomes, and the same warnings from both searches. -/
theorem selects_by_named_features (overrides : Overrides) (one other : Attributes)
    (agree : ∀ feature, overrides.Names feature -> one.AgreeAt other feature) :
    overrides.select one = overrides.select other ∧
      overrides.model? one = overrides.model? other ∧
      (Rule.search overrides.rules one).warnings = (Rule.search overrides.rules other).warnings ∧
      overrides.report one = overrides.report other := by
  have eachAgrees : ∀ rule ∈ overrides.rules, ∀ feature, rule.Names feature ->
      one.AgreeAt other feature := by
    intro rule listed feature named
    exact agree feature ⟨rule, listed, named⟩
  have searched : Rule.search overrides.rules one = Rule.search overrides.rules other :=
    Rule.searchFrom_congr eachAgrees 0
  have chosen : overrides.select one = overrides.select other := by
    rw [select, select, searched]
  have named : overrides.model? one = overrides.model? other := by
    rw [model?, model?, chosen]
  exact ⟨chosen, named, congrArg Search.warnings searched, Rule.reportFrom_congr eachAgrees 0⟩

/-- A pile is chosen for its size by a source without a data tree and a clock, which gives the item
another name and some damage.  Both sources fail to give the pull that the first rule names.  The
second rule does not name the clock, because the value of its test was malformed. -/
theorem selects_pile_by_count :
    let pile := { (Snapshot.new "apple").attributes with
      count := .value 5, property := fun _ => .failed }
    let bare := { pile with
      damage := .value 3, tree := .failed, displayName := .value "pear", clock := .failed }
    let pull : Threshold := ⟨Location.ofText "pull", Binary.ofInt .single 1⟩
    let overrides : Overrides :=
      ⟨[⟨Location.ofText "bow", none, [pull]⟩, ⟨Location.ofText "late", some (.day none), []⟩,
        ⟨Location.ofText "pile", some (.stacking (.atLeast 3)), []⟩], .standard⟩
    (∀ feature, overrides.Names feature -> pile.AgreeAt bare feature) ∧
      overrides.select bare = some ⟨2, Location.ofText "pile"⟩ ∧
      overrides.select pile = overrides.select bare ∧
      overrides.report pile = overrides.report bare := by
  intro pile bare pull overrides
  have agree : ∀ feature, overrides.Names feature -> pile.AgreeAt bare feature := by
    rintro feature ⟨rule, listed, named⟩
    simp only [overrides, List.mem_cons, List.not_mem_nil, or_false] at listed
    rcases listed with rfl | rfl | rfl
    · rcases named with ⟨test, impossible, _⟩ | ⟨threshold, _, rfl⟩
      · cases impossible
      · rfl
    · rcases named with ⟨test, stated, impossible⟩ | ⟨threshold, impossible, _⟩
      · cases stated
        cases impossible
      · cases impossible
    · rcases named with ⟨test, stated, sizes⟩ | ⟨threshold, impossible, _⟩
      · cases stated
        rcases sizes with rfl | rfl <;> rfl
      · cases impossible
  have same := selects_by_named_features overrides pile bare agree
  exact ⟨agree, by decide +kernel, same.1, same.2.2.2⟩

end Overrides
end ItemModels
