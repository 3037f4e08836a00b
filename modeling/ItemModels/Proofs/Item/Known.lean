import ItemModels.Item.Snapshot

namespace ItemModels

/-!
# Items whose attributes are all known

A source of attributes may fail at any reading.  When it never does, it shows an
item: a plain record of what the readings give.  Snapshots are such sources.
What an item's enchantments and its data tree offer is stated here for the item,
and the readings are proved to give just that.
-/

/-- An item all of whose attributes are known. -/
structure Item where
  count : Int32
  maxCount : Int32
  damage : Int32
  maxDamage : Int32
  tree : Tag
  enchantmentEntries : List Tag
  enchantmentName : Int16 -> Option Location
  displayName : String
  clock : Option Clock
  property : Location -> Option (Binary .single)

/-- No reading of the source fails, and the readings give the item. -/
structure Attributes.Shows (source : Attributes) (item : Item) : Prop where
  count : source.count = .value item.count
  maxCount : source.maxCount = .value item.maxCount
  damage : source.damage = .value item.damage
  maxDamage : source.maxDamage = .value item.maxDamage
  tree : source.tree = .value item.tree
  enchantmentEntries : source.enchantmentEntries = .value item.enchantmentEntries
  enchantmentName : ∀ id, source.enchantmentName id = .value (item.enchantmentName id)
  displayName : source.displayName = .value item.displayName
  clock : source.clock = .value item.clock
  property : ∀ key, source.property key = .value (item.property key)

namespace Item

/-- The enchantments of the item with their levels, in the order of the entries.  Entries
without a registered identifier are passed over. -/
def levels (item : Item) : List (Location × Int16) :=
  item.enchantmentEntries.filterMap fun entry =>
    (item.enchantmentName (entry.childShort "id")).map fun name => (name, entry.childShort "lvl")

/-- The item has the enchantment with this level.  Of several levels the last one counts. -/
def HasLevel (item : Item) (name : Location) (level : Int16) : Prop :=
  ∃ before after, item.levels = before ++ (name, level) :: after ∧
    ∀ later ∈ after, later.1 ≠ name

end Item

namespace Snapshot

/-- The item of a snapshot. -/
def item (snapshot : Snapshot) : Item :=
  { count := snapshot.count
    maxCount := snapshot.maxCount
    damage := snapshot.damage
    maxDamage := snapshot.maxDamage
    tree := snapshot.tree
    enchantmentEntries := snapshot.tree.enchantments
    enchantmentName := snapshot.enchantmentName?
    displayName := snapshot.displayName
    clock := snapshot.clock
    property := snapshot.property? }

/-- A snapshot is a source that never fails. -/
theorem attributes_shows (snapshot : Snapshot) : snapshot.attributes.Shows snapshot.item where
  count := rfl
  maxCount := rfl
  damage := rfl
  maxDamage := rfl
  tree := rfl
  enchantmentEntries := rfl
  enchantmentName := fun _ => rfl
  displayName := rfl
  clock := rfl
  property := fun _ => rfl

end Snapshot

/-! ## Enchantments and names of data -/

namespace Attributes

variable {source : Attributes} {item : Item}

theorem namedEntries_of_shows (shows : source.Shows item) (entries : List Tag) :
    source.namedEntries entries = .value (entries.filterMap fun entry =>
      (item.enchantmentName (entry.childShort "id")).map fun name =>
        (name, entry.childShort "lvl")) := by
  induction entries with
  | nil => rfl
  | cons entry rest inductionHypothesis =>
      cases name : item.enchantmentName (entry.childShort "id") <;>
        simp [namedEntries, bind, shows.enchantmentName, inductionHypothesis, name]

theorem enchantments_of_shows (shows : source.Shows item) :
    source.enchantments = .value item.levels := by
  simp only [enchantments, bind, shows.enchantmentEntries, Reading.bind_value,
    namedEntries_of_shows shows, Item.levels]

end Attributes

theorem levelOf_eq_some_iff_last (levels : List (Location × Int16)) (name : Location)
    (level : Int16) :
    levelOf? levels name = some level <->
      ∃ before after, levels = before ++ (name, level) :: after ∧ ∀ later ∈ after, later.1 ≠ name := by
  unfold levelOf?
  rw [Option.map_eq_some_iff]
  constructor
  · rintro ⟨found, first, rfl⟩
    rcases List.find?_eq_some_iff_append.mp first with ⟨named, before, after, split, others⟩
    refine ⟨after.reverse, before.reverse, ?_, ?_⟩
    · rw [← List.reverse_reverse levels, split]
      simp [← beq_iff_eq.mp named]
    · intro later member
      simpa using others later (List.mem_reverse.mp member)
  · rintro ⟨before, after, split, others⟩
    refine ⟨(name, level), List.find?_eq_some_iff_append.mpr ⟨by simp, after.reverse,
      before.reverse, by simp [split], ?_⟩, rfl⟩
    intro later member
    simpa using others later (List.mem_reverse.mp member)

theorem levelOf_eq_some_iff (item : Item) (name : Location) (level : Int16) :
    levelOf? item.levels name = some level <-> item.HasLevel name level :=
  levelOf_eq_some_iff_last item.levels name level

theorem meetsLevels_iff_levelOf (levels required : List (Location × Int16)) :
    meetsLevels levels required = true <->
      ∀ entry ∈ required, ∃ level, levelOf? levels entry.1 = some level ∧ entry.2 <= level := by
  unfold meetsLevels
  rw [List.all_eq_true]
  refine forall_congr' fun (name, least) => forall_congr' fun _ => ?_
  cases found : levelOf? levels name <;> simp [found]

theorem hasEnchantments_iff_levelOf (levels : List (Location × Int16)) (names : List Location) :
    hasEnchantments levels names = true <->
      ∀ name ∈ names, ∃ level, levelOf? levels name = some level := by
  unfold hasEnchantments
  rw [List.all_eq_true]
  exact forall_congr' fun name => forall_congr' fun _ => Option.isSome_iff_exists

theorem meetsLevels_eq_true_iff (item : Item) (required : List (Location × Int16)) :
    meetsLevels item.levels required = true <->
      ∀ entry ∈ required, ∃ level, item.HasLevel entry.1 level ∧ entry.2 <= level := by
  simp only [meetsLevels_iff_levelOf, levelOf_eq_some_iff]

theorem hasEnchantments_eq_true_iff (item : Item) (names : List Location) :
    hasEnchantments item.levels names = true <->
      ∀ name ∈ names, ∃ level, item.HasLevel name level := by
  simp only [hasEnchantments_iff_levelOf, levelOf_eq_some_iff]

theorem Tag.hasChild_compound_iff (entries : List (String × Tag)) (name : String) :
    (Tag.compound entries).hasChild name = true <-> name ∈ entries.map Prod.fst := by
  rw [Tag.hasChild, Tag.child?, ← Option.ne_none_iff_isSome, ne_eq, Tag.latest_eq_none_iff,
    Decidable.not_not]

theorem Tag.hasDataNames_eq_true_iff (tree : Tag) (names : List String) :
    tree.hasDataNames names = true <->
      ∃ entries, tree.child? "tag" = some (.compound entries) ∧
        ∀ name ∈ names, name ∈ entries.map Prod.fst := by
  unfold Tag.hasDataNames
  split
  · rename_i entries data
    simp only [List.all_eq_true, Tag.hasChild_compound_iff]
    constructor
    · intro present
      exact ⟨entries, data, present⟩
    · rintro ⟨others, same, present⟩
      rw [data] at same
      cases same
      exact present
  · rename_i other
    constructor
    · intro impossible
      cases impossible
    · rintro ⟨entries, data, _⟩
      exact absurd data (other entries)

end ItemModels
