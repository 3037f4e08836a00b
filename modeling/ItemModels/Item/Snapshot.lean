import ItemModels.Item.Attributes

namespace ItemModels

/-!
Snapshots: items whose attributes are all known.
-/

/-- The attributes of an item at one moment. -/
structure Snapshot where
  id : Location
  count : Int32
  maxCount : Int32
  damage : Int32
  maxDamage : Int32
  tag : Option Tag
  displayName : String
  clock : Option Clock
  /-- Names of enchantment identifiers, the last one registered first. -/
  enchantmentNames : List (Int16 × Location)
  /-- Values of properties, the last one set first. -/
  properties : List (Location × Binary .single)

namespace Snapshot

/-- One item without damage, stackable to sixty-four and named after its identifier. -/
def new (id : String) : Snapshot :=
  let location := Location.ofText id
  { id := location
    count := 1
    maxCount := 64
    damage := 0
    maxDamage := 0
    tag := none
    displayName := location.path
    clock := none
    enchantmentNames := []
    properties := [] }

def registerEnchantment (snapshot : Snapshot) (id : Int16) (name : String) : Snapshot :=
  { snapshot with enchantmentNames := (id, Location.ofText name) :: snapshot.enchantmentNames }

def setProperty (snapshot : Snapshot) (key : String) (value : Binary .single) : Snapshot :=
  { snapshot with properties := (Location.ofText key, value) :: snapshot.properties }

/-- The data tree: the identifier, the count as a byte, the damage as a 16-bit word and, if
there is one, the tag. -/
def tree (snapshot : Snapshot) : Tag :=
  let fields : List (String × Tag) :=
    [("id", .string snapshot.id.toText), ("Count", .byte snapshot.count.toInt8),
     ("Damage", .short snapshot.damage.toInt16)]
  .compound (fields ++ snapshot.tag.toList.map fun tag => ("tag", tag))

def enchantmentName? (snapshot : Snapshot) (id : Int16) : Option Location :=
  (snapshot.enchantmentNames.find? fun entry => entry.1 == id).map Prod.snd

def property? (snapshot : Snapshot) (key : Location) : Option (Binary .single) :=
  (snapshot.properties.find? fun entry => entry.1 == key).map Prod.snd

/-- The snapshot as a source of attributes that never fails. -/
def attributes (snapshot : Snapshot) : Attributes :=
  { count := .value snapshot.count
    maxCount := .value snapshot.maxCount
    damage := .value snapshot.damage
    maxDamage := .value snapshot.maxDamage
    tree := .value snapshot.tree
    enchantmentName := fun id => .value (snapshot.enchantmentName? id)
    displayName := .value snapshot.displayName
    clock := .value snapshot.clock
    property := fun key => .value (snapshot.property? key) }

end Snapshot
end ItemModels
