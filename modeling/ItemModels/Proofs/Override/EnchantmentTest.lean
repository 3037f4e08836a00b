import ItemModels.Proofs.Item.Enchanted
import ItemModels.Proofs.Override.Dependence
import ItemModels.Proofs.Override.SingleTest

namespace ItemModels

/-!
# Tests for enchantments

A rule can ask for enchantments by name, with or without the least level of each.
Here it is said what such a rule asks of the entries of an item and of the
registry.  Names are compared as locations, so two spellings in one value are two
requirements on one enchantment, and levels are compared as words of 16 bits.

The entries are those that the source gives, whatever tags they are.  An entry
whose identifier has no name is passed over, so sources that differ in nothing but
such entries are the same to these rules.
-/

namespace Attributes

/-- The value is an object of numbers, and for each member there is an entry of its name, the
last of which has at least the level of the member. -/
def ReachesLevels (source : Attributes) (value : Json) : Prop :=
  ∃ members, value = .object members ∧ ∃ entries, source.Enlists entries ∧
    ∀ member ∈ members, ∃ least, member.2 = .number least ∧
      ∃ last, source.LastEntry entries (Location.ofText member.1) last ∧
        least.wrapped 16 <= last.shortUnder "lvl"

/-- The value lists texts, and for each of them there is an entry of its name. -/
def NamesListed (source : Attributes) (value : Json) : Prop :=
  ∃ texts, value.Lists texts ∧ ∃ entries, source.Enlists entries ∧
    ∀ text ∈ texts, ∃ entry ∈ entries, source.Registers entry (Location.ofText text)

/-- The entries without those that have no name.  An entry about which the registry refuses to
answer stays. -/
def registeredEntries (source : Attributes) : Reading (List Tag) :=
  source.enchantmentEntries.map fun entries =>
    entries.filter fun entry => source.enchantmentName (entry.childShort "id") ≠ .value none

/-- The registries agree, and so do the entries that have a name. -/
structure SameRegistered (source other : Attributes) : Prop where
  names : ∀ id, source.enchantmentName id = other.enchantmentName id
  entries : source.registeredEntries = other.registeredEntries

variable {source other : Attributes}

theorem meetsLevels_named_iff (entries : List Tag) (required : List (Location × Int16)) :
    meetsLevels (entries.filterMap source.named?) required = true <->
      ∀ entry ∈ required, ∃ last, source.LastEntry entries entry.1 last ∧
        entry.2 <= last.childShort "lvl" := by
  rw [meetsLevels_iff_levelOf]
  refine forall_congr' fun entry => forall_congr' fun _ => ?_
  simp only [levelOf_named_iff]
  constructor
  · rintro ⟨_, ⟨last, found, rfl⟩, enough⟩
    exact ⟨last, found, enough⟩
  · rintro ⟨last, found, enough⟩
    exact ⟨_, ⟨last, found, rfl⟩, enough⟩

/-- There is a last entry of a name as soon as there is one. -/
theorem exists_lastEntry_iff (entries : List Tag) (name : Location) :
    (∃ last, source.LastEntry entries name last) <->
      ∃ entry ∈ entries, source.Registers entry name := by
  constructor
  · rintro ⟨last, before, after, rfl, registered, _⟩
    exact ⟨last, by simp, registered⟩
  · intro present
    induction entries with
    | nil => simp at present
    | cons entry rest inductionHypothesis =>
        by_cases later : ∃ other ∈ rest, source.Registers other name
        · rcases inductionHypothesis later with ⟨last, before, after, split, found⟩
          exact ⟨last, entry :: before, after, by rw [split]; rfl, found⟩
        · rcases present with ⟨other, listed, registered⟩
          rcases List.mem_cons.mp listed with rfl | listed
          · exact ⟨other, [], rest, rfl, registered, fun later' member again =>
              later ⟨later', member, again⟩⟩
          · exact absurd ⟨other, listed, registered⟩ later

theorem hasEnchantments_named_iff (entries : List Tag) (names : List Location) :
    hasEnchantments (entries.filterMap source.named?) names = true <->
      ∀ name ∈ names, ∃ entry ∈ entries, source.Registers entry name := by
  rw [hasEnchantments_iff_levelOf]
  refine forall_congr' fun name => forall_congr' fun _ => ?_
  rw [← exists_lastEntry_iff]
  simp only [levelOf_named_iff]
  constructor
  · rintro ⟨_, last, found, _⟩
    exact ⟨last, found⟩
  · rintro ⟨last, found⟩
    exact ⟨_, last, found, rfl⟩

/-! ## Entries without a name -/

theorem namedEntries_registered (entries : List Tag) :
    source.namedEntries (entries.filter fun entry =>
        source.enchantmentName (entry.childShort "id") ≠ .value none) =
      source.namedEntries entries := by
  induction entries with
  | nil => rfl
  | cons entry rest inductionHypothesis =>
      by_cases nameless : source.enchantmentName (entry.childShort "id") = .value none
      · have passed : source.namedEntries (entry :: rest) = source.namedEntries rest := by
          cases others : source.namedEntries rest <;>
            simp [namedEntries, bind, nameless, others]
        rw [passed, ← inductionHypothesis, List.filter_cons_of_neg (by simp [nameless])]
      · rw [List.filter_cons_of_pos (by simp [nameless]), namedEntries, namedEntries,
          inductionHypothesis]

theorem SameRegistered.enchantments_eq (same : source.SameRegistered other) :
    source.enchantments = other.enchantments := by
  have gathered (source : Attributes) :
      source.enchantments = source.registeredEntries.bind source.namedEntries := by
    unfold enchantments registeredEntries
    cases read : source.enchantmentEntries with
    | failed => rfl
    | value entries => exact (namedEntries_registered entries).symm
  have names : source.namedEntries = other.namedEntries := by
    funext entries
    exact namedEntries_congr same.names entries
  rw [gathered, gathered, same.entries, names]

end Attributes

/-! ## The tests and their rules -/

namespace Test

variable {source other : Attributes}

/-- A check of the gathered enchantments holds when they can be gathered and pass it. -/
theorem bind_enchantments_iff (passes : List (Location × Int16) -> Bool) :
    (source.enchantments.bind fun levels => .value (passes levels)) = .value true <->
      ∃ entries, source.Enlists entries ∧ passes (entries.filterMap source.named?) = true := by
  constructor
  · intro holds
    cases gathered : source.enchantments with
    | failed =>
        rw [gathered] at holds
        cases holds
    | value levels =>
        rw [gathered] at holds
        rcases (Attributes.enchantments_eq_value_iff levels).mp gathered with ⟨entries, enlisted, rfl⟩
        exact ⟨entries, enlisted, Reading.value.inj holds⟩
  · rintro ⟨entries, enlisted, passed⟩
    rw [(Attributes.enchantments_eq_value_iff _).mpr ⟨entries, enlisted, rfl⟩, Reading.bind_value,
      passed]

theorem holds_enchantment_iff_reachesLevels (value : Json) :
    (Test.ofJson .enchantment value).holds source = .value true <-> source.ReachesLevels value := by
  cases value with
  | object members =>
      let read (member : String × Json) : Option (Location × Int16) :=
        member.2.toInt64?.map fun level => (Location.ofText member.1, level.toInt16)
      have gathered : (Test.ofJson .enchantment (.object members)).holds source = .value true <->
          ∃ entries, source.Enlists entries ∧ ∃ required, members.mapM read = some required ∧
            ∀ entry ∈ required, ∃ last, source.LastEntry entries entry.1 last ∧
              entry.2 <= last.childShort "lvl" := by
        simp only [← Attributes.meetsLevels_named_iff]
        have stated : Test.ofJson .enchantment (.object members) = .enchantment (members.mapM read) :=
          rfl
        rw [stated]
        cases members.mapM read with
        | none => simp [holds]
        | some required =>
            simpa [holds, bind] using bind_enchantments_iff fun levels => meetsLevels levels required
      have each (entries : List Tag) (member : String × Json) :
          (∃ entry, read member = some entry ∧ ∃ last, source.LastEntry entries entry.1 last ∧
              entry.2 <= last.childShort "lvl") <->
            ∃ least, member.2 = .number least ∧
              ∃ last, source.LastEntry entries (Location.ofText member.1) last ∧
                least.wrapped 16 <= last.shortUnder "lvl" := by
        simp only [← Tag.toInt_childShort, ← JsonNumber.toInt_toInt16, ← Int16.le_iff_toInt_le]
        constructor
        · rintro ⟨entry, stated, last, found, enough⟩
          rcases Option.map_eq_some_iff.mp stated with ⟨word, number, rfl⟩
          rcases (Json.toInt64_eq_some_iff _ _).mp number with ⟨least, same, rfl⟩
          exact ⟨least, same, last, found, enough⟩
        · rintro ⟨least, number, last, found, enough⟩
          refine ⟨(Location.ofText member.1, least.toInt64.toInt16), ?_, last, found, enough⟩
          simp [read, number, Json.toInt64?]
      rw [gathered]
      simp only [exists_mapM_iff, each, Attributes.ReachesLevels, Json.object.injEq,
        exists_eq_left']
  | _ =>
      constructor
      · intro impossible
        cases impossible
      · rintro ⟨members, impossible, _⟩
        cases impossible

theorem holds_includeEnchantment_iff_namesListed (value : Json) :
    (Test.ofJson .includeEnchantment value).holds source = .value true <->
      source.NamesListed value := by
  unfold Attributes.NamesListed
  simp only [← Json.toTexts_eq_some_iff]
  cases texts : value.toTexts? with
  | none => simp [Test.ofJson, holds, names?, texts]
  | some texts' =>
      let passes := fun levels => hasEnchantments levels (texts'.map Location.ofText)
      have gathered : (source.enchantments.bind fun levels => .value (passes levels)) =
          .value true <-> _ := bind_enchantments_iff passes
      simp only [passes, Attributes.hasEnchantments_named_iff, List.forall_mem_map] at gathered
      simpa [Test.ofJson, holds, names?, texts, bind] using gathered

/-- What a test for enchantments asks depends on nothing but the entries that have a name. -/
theorem holds_of_sameRegistered (same : source.SameRegistered other) {kind : TestKind}
    (kinds : kind = .enchantment ∨ kind = .includeEnchantment) (value : Json) :
    (Test.ofJson kind value).holds source = (Test.ofJson kind value).holds other := by
  have gathered := same.enchantments_eq
  rcases kinds with rfl | rfl
  · cases levels : levels? value <;> simp [Test.ofJson, holds, levels, gathered]
  · cases names : names? value <;> simp [Test.ofJson, holds, names, gathered]

end Test

namespace Rule

/-- A rule with a test for enchantments and nothing else exists for every value, and applies when
the entries of the source have what the value asks for.  Entries that have no name make no
difference. -/
theorem applies_by_entries {namespaces : Namespaces} {key : String}
    (states : namespaces.role (Location.ofText key) = .test) (model : String) (value : Json) :
    (Text.sameLetters TestKind.enchantment.title (Location.ofText key).path = true ->
      ∃ rule, (compile model (.ofMembers [(key, value)]) namespaces).result = .ok rule ∧
        (∀ source, rule.applies source = true <-> source.ReachesLevels value) ∧
        ∀ source other, source.SameRegistered other -> rule.applies source = rule.applies other) ∧
    (Text.sameLetters TestKind.includeEnchantment.title (Location.ofText key).path = true ->
      ∃ rule, (compile model (.ofMembers [(key, value)]) namespaces).result = .ok rule ∧
        (∀ source, rule.applies source = true <-> source.NamesListed value) ∧
        ∀ source other, source.SameRegistered other -> rule.applies source = rule.applies other) := by
  constructor
  · intro named
    rcases exists_rule_of_test states named model value with ⟨rule, made, spec⟩
    refine ⟨rule, made, fun source => ?_, fun source other same => Bool.eq_iff_iff.mpr ?_⟩
    · rw [spec, Test.holds_enchantment_iff_reachesLevels]
    · rw [spec, spec, Test.holds_of_sameRegistered same (Or.inl rfl)]
  · intro named
    rcases exists_rule_of_test states named model value with ⟨rule, made, spec⟩
    refine ⟨rule, made, fun source => ?_, fun source other same => Bool.eq_iff_iff.mpr ?_⟩
    · rw [spec, Test.holds_includeEnchantment_iff_namesListed]
    · rw [spec, spec, Test.holds_of_sameRegistered same (Or.inr rfl)]

/-- Two identifiers have one name here, and the later of their entries counts.  It has the level
three, which both spellings of the name ask for at most. -/
theorem applies_to_sharp_sword :
    let first : Tag := .compound [("id", .short 16), ("lvl", .short 5)]
    let nameless : Tag := .compound [("id", .short 99), ("lvl", .short 7)]
    let second : Tag := .compound [("id", .int 65553), ("lvl", .long 3)]
    let sword := ({ Snapshot.new "sword" with
        tag := some (.compound [("ench", .list [first, nameless, second])]) }.registerEnchantment
          16 "sharpness").registerEnchantment 17 "Sharpness"
    let value : Json := .object [("sharpness", .ofInt 2), ("minecraft:SHARPNESS", .ofInt 65539)]
    ∃ rule, (compile "item/sword" (.ofMembers [("IOS:Enchantment", value)]) .standard).result =
        .ok rule ∧
      rule.applies sword.attributes = true := by
  intro first nameless second sword value
  have states : Namespaces.standard.role (Location.ofText "IOS:Enchantment") = .test := by
    decide +kernel
  have named : Text.sameLetters TestKind.enchantment.title
      (Location.ofText "IOS:Enchantment").path = true := by
    decide +kernel
  rcases (applies_by_entries states "item/sword" value).1 named with ⟨rule, made, spec, _⟩
  have enlisted : sword.attributes.Enlists [first, nameless, second] :=
    ⟨rfl, fun _ _ => nofun⟩
  have counts : sword.attributes.LastEntry [first, nameless, second]
      (Location.ofText "sharpness") second :=
    ⟨[first, nameless], [], rfl, by unfold Attributes.Registers; decide +kernel, by simp⟩
  have same : Location.ofText "minecraft:SHARPNESS" = Location.ofText "sharpness" := by
    decide +kernel
  refine ⟨rule, made, (spec _).mpr ⟨_, rfl, _, enlisted, ?_⟩⟩
  rw [List.forall_mem_cons, List.forall_mem_singleton, same]
  exact ⟨⟨.whole 2, rfl, second, counts, by decide +kernel⟩,
    ⟨.whole 65539, rfl, second, counts, by decide +kernel⟩⟩

end Rule
end ItemModels
