import ItemModels.Proofs.Item.Known
import ItemModels.Proofs.Json.Shape
import ItemModels.Proofs.Override.Application
import ItemModels.Proofs.Override.Compilation

namespace ItemModels

/-!
# Reading requirements anew for every item

A rule is made once and then applied to many items.  This module states what the
requirements themselves ask of an item, without a rule: which entry counts, and
what its value demands, read from the JSON value each time.  The main result
says that a rule that could be made applies exactly to the items that meet its
requirements.

The comparison is with items whose attributes can all be read.  What a rule does
when a reading fails is the subject of the search for rules.
-/

namespace Item

/-- What the value of a test of the given kind asks of the item. -/
def Passes (item : Item) (value : Json) : TestKind -> Prop
  | .stacking => (Quantity.ofJson value).holds item.count item.maxCount = true
  | .damage => (Quantity.ofJson value).holds item.damage item.maxDamage = true
  | .nbt => item.tree.satisfies value = true
  | .includeNbt =>
      ∃ names, value.Lists names ∧
        ∃ entries, item.tree.child? "tag" = some (.compound entries) ∧
          ∀ name ∈ names, name ∈ entries.map Prod.fst
  | .enchantment =>
      ∃ members, value = .object members ∧
        ∀ member ∈ members, ∃ least, member.2 = .number least ∧
          ∃ level, item.HasLevel (Location.ofText member.1) level ∧ least.toInt64.toInt16 <= level
  | .includeEnchantment =>
      ∃ names, value.Lists names ∧
        ∀ name ∈ names, ∃ level, item.HasLevel (Location.ofText name) level
  | .name => acceptsName item.displayName value = true
  | .day => ∃ least, value = .number least ∧ Clock.onOrAfterDay item.clock least.toInt64 = true
  | .time => ∃ least, value = .number least ∧ Clock.onOrAfterTime item.clock least.toInt64 = true

/-- What a key and its value ask of the item.  A path that names no kind of test asks
nothing. -/
def PassesEntry (item : Item) (entry : Location × Json) : Prop :=
  ∀ kind : TestKind, Text.sameLetters kind.title entry.1.path = true -> item.Passes entry.2 kind

end Item

namespace Requirements

/-- The key of the entry states a test, and its value is not null. -/
def Decides (namespaces : Namespaces) (entry : Location × Json) : Prop :=
  namespaces.role entry.1 = .test ∧ entry.2 ≠ .null

/-- The item passes the test of the requirements: either no key states a test, or the first
entry that states one with a value other than null is passed.  Where all values are null
there is no such entry, and no item passes. -/
def TestMet (requirements : Requirements) (namespaces : Namespaces) (item : Item) : Prop :=
  (∀ entry ∈ requirements.entries, namespaces.role entry.1 ≠ .test) ∨
    ∃ before entry after, requirements.entries = before ++ entry :: after ∧
      (∀ earlier ∈ before, ¬ Decides namespaces earlier) ∧
      Decides namespaces entry ∧ item.PassesEntry entry

/-- The item has every property that an entry outside the namespaces of tests names, and the
number of the entry is no more than its value. -/
def ThresholdsMet (requirements : Requirements) (namespaces : Namespaces) (item : Item) : Prop :=
  ∀ entry ∈ requirements.entries, namespaces.role entry.1 = .threshold ->
    ∃ least value, entry.2 = .number least ∧ item.property entry.1 = some value ∧
      value.atLeast least.toSingle = true

/-- The item meets the requirements. -/
def MetBy (requirements : Requirements) (namespaces : Namespaces) (item : Item) : Prop :=
  requirements.TestMet namespaces item ∧ requirements.ThresholdsMet namespaces item

end Requirements

/-! ## Tests made once and tests read anew -/

namespace TestKind

theorem title_injective {left right : TestKind}
    (same : Text.lowered left.title = Text.lowered right.title) : left = right := by
  cases left <;> cases right <;> first | rfl | (revert same; decide +kernel)

private theorem named_of_ofPath {path : String} {kind : TestKind}
    (found : ofPath? path = some kind) : Text.sameLetters kind.title path = true :=
  List.find?_some (p := fun other : TestKind => Text.sameLetters other.title path) found

/-- A path names at most one kind, so the search for the kind is no matter of order. -/
theorem ofPath_eq_some_iff (path : String) (kind : TestKind) :
    ofPath? path = some kind <-> Text.sameLetters kind.title path = true := by
  constructor
  · exact named_of_ofPath
  · intro named
    cases found : ofPath? path with
    | none =>
        have listed : kind ∈ all := by cases kind <;> simp [all]
        exact absurd named (List.find?_eq_none.mp found kind listed)
    | some other =>
        have first := (Text.sameLetters_eq_true_iff _ _).mp (named_of_ofPath found)
        have second := (Text.sameLetters_eq_true_iff _ _).mp named
        rw [title_injective (first.trans second.symm)]

end TestKind

namespace Test

variable {source : Attributes} {item : Item}

theorem holds_includeNbt_iff (shows : source.Shows item) (value : Json) :
    (Test.ofJson .includeNbt value).holds source = .value true <->
      item.Passes value .includeNbt := by
  simp only [Item.Passes, ← Json.toTexts_eq_some_iff, ← Tag.hasDataNames_eq_true_iff]
  cases texts : value.toTexts? <;>
    simp [Test.ofJson, holds, texts, bind, shows.tree]

theorem holds_includeEnchantment_iff (shows : source.Shows item) (value : Json) :
    (Test.ofJson .includeEnchantment value).holds source = .value true <->
      item.Passes value .includeEnchantment := by
  simp only [Item.Passes, ← Json.toTexts_eq_some_iff]
  cases texts : value.toTexts? <;>
    simp [Test.ofJson, holds, names?, texts, bind, Attributes.enchantments_of_shows shows,
      hasEnchantments_eq_true_iff]

theorem holds_enchantment_iff (shows : source.Shows item) (value : Json) :
    (Test.ofJson .enchantment value).holds source = .value true <->
      item.Passes value .enchantment := by
  have reached : (Test.ofJson .enchantment value).holds source = .value true <->
      ∃ required, levels? value = some required ∧ meetsLevels item.levels required = true := by
    cases levels : levels? value <;>
      simp [Test.ofJson, holds, levels, bind, Attributes.enchantments_of_shows shows]
  rw [reached, Item.Passes]
  cases value with
  | object members =>
      simp only [meetsLevels_eq_true_iff, levels?, exists_mapM_iff]
      constructor
      · intro each
        refine ⟨members, rfl, fun member listed => ?_⟩
        rcases each member listed with ⟨entry, stated, level, present, enough⟩
        rcases Option.map_eq_some_iff.mp stated with ⟨word, number, rfl⟩
        rcases (Json.toInt64_eq_some_iff _ _).mp number with ⟨least, same, rfl⟩
        exact ⟨least, same, level, present, enough⟩
      · rintro ⟨_, same, each⟩ member listed
        cases same
        rcases each member listed with ⟨least, number, level, present, enough⟩
        refine ⟨(Location.ofText member.1, least.toInt64.toInt16), ?_, level, present, enough⟩
        rw [number]
        rfl
  | _ => simp [levels?]

/-- A test that was made from a value once asks what the value asks. -/
theorem holds_ofJson_iff (shows : source.Shows item) (kind : TestKind) (value : Json) :
    (Test.ofJson kind value).holds source = .value true <-> item.Passes value kind := by
  cases kind with
  | stacking => simp [Test.ofJson, holds, bind, Item.Passes, shows.count, shows.maxCount]
  | damage => simp [Test.ofJson, holds, bind, Item.Passes, shows.damage, shows.maxDamage]
  | nbt => simp [Test.ofJson, holds, bind, Item.Passes, shows.tree]
  | includeNbt => exact holds_includeNbt_iff shows value
  | enchantment => exact holds_enchantment_iff shows value
  | includeEnchantment => exact holds_includeEnchantment_iff shows value
  | name =>
      cases stated : pattern? value <;>
        simp [Test.ofJson, holds, bind, Item.Passes, acceptsName, stated, shows.displayName]
  | day =>
      cases value <;>
        simp [Test.ofJson, holds, bind, Item.Passes, Json.toInt64?, shows.clock]
  | time =>
      cases value <;>
        simp [Test.ofJson, holds, bind, Item.Passes, Json.toInt64?, shows.clock]

end Test

namespace Rule

variable {source : Attributes} {item : Item}

theorem holds_entryTest_iff (shows : source.Shows item) (entry : Location × Json) :
    (entryTest entry).holds source = .value true <-> item.PassesEntry entry := by
  simp only [Item.PassesEntry, ← TestKind.ofPath_eq_some_iff]
  cases kind : TestKind.ofPath? entry.1.path with
  | none => simp [entryTest, compileTest, kind, Test.holds]
  | some kind' => simp [entryTest, compileTest, kind, Test.holds_ofJson_iff shows]

private theorem thresholdReached_iff (shows : source.Shows item) (threshold : Threshold) :
    thresholdReached source threshold = .value true <->
      ∃ value, item.property threshold.key = some value ∧
        value.atLeast threshold.least = true := by
  cases found : item.property threshold.key <;>
    simp [thresholdReached, bind, shows.property, found]

/-- The thresholds of the rule that valid entries make are met as the entries state them. -/
private theorem thresholds_met_iff {namespaces : Namespaces} {entries : List (Location × Json)}
    (valid : entries.find? namespaces.invalid = none) (shows : source.Shows item) :
    (∀ threshold ∈ entries.filterMap namespaces.threshold?,
        thresholdReached source threshold = .value true) <->
      ∀ entry ∈ entries, namespaces.role entry.1 = .threshold ->
        ∃ least value, entry.2 = .number least ∧ item.property entry.1 = some value ∧
          value.atLeast least.toSingle = true := by
  rw [List.forall_mem_filterMap]
  refine forall_congr' fun entry => forall_congr' fun listed => ?_
  cases role : namespaces.role entry.1 with
  | test => simp [Namespaces.threshold?, role]
  | dropped => simp [Namespaces.threshold?, role]
  | threshold =>
      have hasNumber := List.find?_eq_none.mp valid entry listed
      cases stated : entry.2 with
      | number least =>
          simp [Namespaces.threshold?, role, least?, stated, thresholdReached_iff shows]
      | _ => simp [Namespaces.invalid, role, stated, least?] at hasNumber

theorem states_and_not_null_iff (namespaces : Namespaces) (entry : Location × Json) :
    (namespaces.statesTest entry.1 && !entry.2.isNull) = true <->
      Requirements.Decides namespaces entry := by
  have null : entry.2.isNull = false <-> entry.2 ≠ .null := by
    cases entry.2 <;> simp [Json.isNull]
  simp [Namespaces.statesTest, Requirements.Decides, null]

theorem decidingEntry_eq_some_iff (namespaces : Namespaces) (entries : List (Location × Json))
    (entry : Location × Json) :
    namespaces.decidingEntry? entries = some entry <->
      ∃ before after, entries = before ++ entry :: after ∧
        (∀ earlier ∈ before, ¬ Requirements.Decides namespaces earlier) ∧
        Requirements.Decides namespaces entry := by
  unfold Namespaces.decidingEntry?
  rw [List.find?_eq_some_iff_append]
  constructor
  · rintro ⟨decides, before, after, split, others⟩
    refine ⟨before, after, split, fun earlier member decided => ?_,
      (states_and_not_null_iff namespaces entry).mp decides⟩
    have undecided := others earlier member
    rw [(states_and_not_null_iff namespaces earlier).mpr decided] at undecided
    cases undecided
  · rintro ⟨before, after, split, others, decides⟩
    refine ⟨(states_and_not_null_iff namespaces entry).mpr decides, before, after, split,
      fun earlier member => ?_⟩
    rw [Bool.not_eq_true', Bool.eq_false_iff]
    intro decided
    exact others earlier member ((states_and_not_null_iff namespaces earlier).mp decided)

/-- The test of the rule that entries make holds when the item passes the test that the entries
state. -/
private theorem test_met_iff {namespaces : Namespaces} {requirements : Requirements}
    (model : Location) (shows : source.Shows item) :
    (∀ test, (ofEntries namespaces model requirements.entries).test = some test ->
        test.holds source = .value true) <->
      requirements.TestMet namespaces item := by
  unfold Requirements.TestMet
  cases deciding : namespaces.decidingEntry? requirements.entries with
  | some entry =>
      have first := (decidingEntry_eq_some_iff namespaces _ entry).mp deciding
      rcases first with ⟨before, after, split, others, decides⟩
      simp only [ofEntries, Draft.finalTest, Draft.extend, Draft.start, deciding, Option.map_some,
        Option.none_or, Option.isNone_some, Bool.and_false, Bool.false_eq_true, if_false,
        Option.some.injEq, forall_eq', holds_entryTest_iff shows]
      constructor
      · intro passes
        exact Or.inr ⟨before, entry, after, split, others, decides, passes⟩
      -- Any other way to split the entries at the deciding one is the same way.
      · rintro (noTest | ⟨before', other, after', split', others', decides', passes⟩)
        · have member : entry ∈ requirements.entries := by simp [split]
          exact absurd decides.1 (noTest entry member)
        · have same := (decidingEntry_eq_some_iff namespaces _ other).mpr
            ⟨before', after', split', others', decides'⟩
          rw [deciding] at same
          cases same
          exact passes
  | none =>
      have noTest : (∀ entry ∈ requirements.entries, namespaces.role entry.1 ≠ .test) <->
          requirements.entries.any (fun entry => namespaces.statesTest entry.1) = false := by
        simp [Namespaces.statesTest]
      rw [noTest]
      -- Without a deciding entry, the rule has no test at all or the one that never holds.
      simp only [ofEntries, Draft.finalTest, Draft.extend, Draft.start, deciding, Option.map_none,
        Option.none_or, Option.isNone_none, Bool.and_true, Bool.false_or]
      constructor
      · intro holds
        cases states : requirements.entries.any fun entry => namespaces.statesTest entry.1 with
        | false => exact Or.inl rfl
        | true =>
            have impossible := holds .never (by rw [states]; rfl)
            cases impossible
      · rintro (noKey | ⟨before, other, after, split, others, decides, _⟩)
        · rw [noKey]
          intro test impossible
          cases impossible
        · have found := (decidingEntry_eq_some_iff namespaces _ other).mpr
            ⟨before, after, split, others, decides⟩
          rw [deciding] at found
          cases found

/-- A rule that could be made from requirements applies exactly to the items that meet the
requirements, read anew. -/
theorem applies_iff_metBy {model : String} {requirements : Requirements}
    {namespaces : Namespaces} {rule : Rule}
    (made : (compile model requirements namespaces).result = .ok rule)
    (shows : source.Shows item) :
    rule.applies source = true <-> requirements.MetBy namespaces item := by
  have result := result_compile model requirements namespaces
  rw [made] at result
  cases valid : requirements.entries.find? namespaces.invalid with
  | some entry =>
      rw [valid] at result
      cases result
  | none =>
      rw [valid] at result
      cases result
      rw [applies_eq_true_iff, test_met_iff _ shows]
      exact and_congr_right fun _ => thresholds_met_iff valid shows

end Rule

/-- An override with a null value, a dropped key and a second test meets a pile of apples: only
its first test with a value, written in capitals, and its threshold count. -/
theorem pile_metBy :
    (Requirements.ofMembers
      [("ios:name", .null), ("sti:damage", .ofInt 3), ("IOS:Stacking", .string ">1 & <32"),
       ("ios:day", .ofInt 2), ("pulling", .ofInt 1)]).MetBy .standard
      { (Snapshot.new "apple").setProperty "pulling" (Binary.ofInt .single 1) with
        count := 5 }.item := by
  have valid : (Requirements.ofMembers
      [("ios:name", .null), ("sti:damage", .ofInt 3), ("IOS:Stacking", .string ">1 & <32"),
       ("ios:day", .ofInt 2), ("pulling", .ofInt 1)]).entries.find?
        Namespaces.standard.invalid = none := by
    decide +kernel
  exact (Rule.applies_iff_metBy (Rule.result_compile_of_valid "item/pile" valid)
    (Snapshot.attributes_shows _)).mp (by decide +kernel)

end ItemModels
