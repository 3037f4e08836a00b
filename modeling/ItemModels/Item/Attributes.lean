import ItemModels.Item.Clock
import ItemModels.Item.Reading
import ItemModels.Location
import ItemModels.Tag.Basic

namespace ItemModels

/-!
What the choice of a model may ask about an item and its surroundings.

Each attribute is a reading, so a source may fail to give some of them and still
give the others.
-/

/-- The entries of the enchantment list in an item's data tree, empty unless the tree's `tag`
has a list under `ench`. -/
def Tag.enchantments (tree : Tag) : List Tag :=
  match (tree.child? "tag").bind fun tag => tag.child? "ench" with
  | some (.list entries) => entries
  | _ => []

/-- A source of attributes. -/
structure Attributes where
  count : Reading Int32
  maxCount : Reading Int32
  damage : Reading Int32
  maxDamage : Reading Int32
  tree : Reading Tag
  /-- The entries that name its enchantments, by default those in the data tree. -/
  enchantmentEntries : Reading (List Tag) := tree.map Tag.enchantments
  /-- The name that a registry gives to an enchantment identifier. -/
  enchantmentName : Int16 -> Reading (Option Location)
  displayName : Reading String
  /-- The clock of the world, if there is a world. -/
  clock : Reading (Option Clock)
  /-- The value of a property of the item, by default of none. -/
  property : Location -> Reading (Option (Binary .single)) := fun _ => .value none

namespace Attributes

/-- The enchantments that some entries name, with their levels, in the order of the entries.
Entries without a registered identifier are passed over. -/
def namedEntries (source : Attributes) : List Tag -> Reading (List (Location × Int16))
  | [] => .value []
  | entry :: rest => do
      let name <- source.enchantmentName (entry.childShort "id")
      let others <- source.namedEntries rest
      match name with
      | some location => .value ((location, entry.childShort "lvl") :: others)
      | none => .value others

def enchantments (source : Attributes) : Reading (List (Location × Int16)) := do
  let entries <- source.enchantmentEntries
  source.namedEntries entries

end Attributes

/-- The level of an enchantment: that of its last entry. -/
def levelOf? (levels : List (Location × Int16)) (name : Location) : Option Int16 :=
  (levels.reverse.find? fun level => level.1 == name).map Prod.snd

/-- The enchantments with their levels, each name once. -/
def levelTable (levels : List (Location × Int16)) : List (Location × Int16) :=
  (levels.map Prod.fst).eraseDups.filterMap fun name =>
    (levelOf? levels name).map fun level => (name, level)

def meetsLevels (levels required : List (Location × Int16)) : Bool :=
  required.all fun (name, least) =>
    match levelOf? levels name with
    | some level => decide (least <= level)
    | none => false

def hasEnchantments (levels : List (Location × Int16)) (names : List Location) : Bool :=
  names.all fun name => (levelOf? levels name).isSome

/-- Every listed name is one of a child of the data tree's `tag`, which must be a compound. -/
def Tag.hasDataNames (tree : Tag) (names : List String) : Bool :=
  match tree.child? "tag" with
  | some (.compound entries) => names.all fun name => (Tag.compound entries).hasChild name
  | _ => false

end ItemModels
