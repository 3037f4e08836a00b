import ItemModels.Item.Attributes
import ItemModels.Pattern.Read
import ItemModels.Quantity
import ItemModels.Tag.Match

namespace ItemModels

/-!
Tests: what an override may ask of an item beyond thresholds on its properties.

The last part of a key names the test, without regard to case, and the value
states what is asked.  A value of the wrong shape gives a malformed test, which
no item passes.  Tests read only the attributes that they need, in a fixed order,
and fail when such a reading fails.
-/

/-- The tests that have a name. -/
inductive TestKind where
  | stacking
  | damage
  | nbt
  | includeNbt
  | enchantment
  | includeEnchantment
  | name
  | day
  | time
deriving DecidableEq, Repr

namespace TestKind

def all : List TestKind :=
  [stacking, damage, nbt, includeNbt, enchantment, includeEnchantment, name, day, time]

def title : TestKind -> String
  | .stacking => "stacking"
  | .damage => "damage"
  | .nbt => "nbt"
  | .includeNbt => "includeNbt"
  | .enchantment => "enchantment"
  | .includeEnchantment => "includeEnchantment"
  | .name => "name"
  | .day => "day"
  | .time => "time"

def ofPath? (path : String) : Option TestKind :=
  all.find? fun kind => Text.sameLetters kind.title path

end TestKind

/-- A test.  Where the value can be malformed, it is absent then. -/
inductive Test where
  | stacking (quantity : Quantity)
  | damage (quantity : Quantity)
  | nbt (pattern : Json)
  | includeNbt (names : Option (List String))
  | enchantment (levels : Option (List (Location × Int16)))
  | includeEnchantment (names : Option (List Location))
  | name (pattern : Option Pattern)
  | day (threshold : Option Int64)
  | time (threshold : Option Int64)
  /-- A test that is not known, which every item passes. -/
  | unknown (path : String)
  /-- The test of an override that states only null values, which no item passes. -/
  | never

namespace Test

/-- The least levels that an object states for enchantments. -/
def levels? : Json -> Option (List (Location × Int16))
  | .object members =>
      members.mapM fun member =>
        member.2.toInt64?.map fun level => (Location.ofText member.1, level.toInt16)
  | _ => none

/-- The enchantments that a string or an array of strings names. -/
def names? (value : Json) : Option (List Location) :=
  value.toTexts?.map fun texts => texts.map Location.ofText

/-- The pattern that a string states for whole names. -/
def pattern? (value : Json) : Option Pattern :=
  value.toText?.bind Pattern.wholeName?

/-- The test of a kind that a value states. -/
def ofJson (kind : TestKind) (value : Json) : Test :=
  match kind with
  | .stacking => .stacking (.ofJson value)
  | .damage => .damage (.ofJson value)
  | .nbt => .nbt value
  | .includeNbt => .includeNbt value.toTexts?
  | .enchantment => .enchantment (levels? value)
  | .includeEnchantment => .includeEnchantment (names? value)
  | .name => .name (pattern? value)
  | .day => .day value.toInt64?
  | .time => .time value.toInt64?

def isMalformed : Test -> Bool
  | .stacking quantity => quantity.isMalformed
  | .damage quantity => quantity.isMalformed
  | .nbt _ => false
  | .includeNbt names => names.isNone
  | .enchantment levels => levels.isNone
  | .includeEnchantment names => names.isNone
  | .name pattern => pattern.isNone
  | .day threshold => threshold.isNone
  | .time threshold => threshold.isNone
  | .unknown _ => false
  | .never => false

def title : Test -> String
  | .stacking _ => TestKind.stacking.title
  | .damage _ => TestKind.damage.title
  | .nbt _ => TestKind.nbt.title
  | .includeNbt _ => TestKind.includeNbt.title
  | .enchantment _ => TestKind.enchantment.title
  | .includeEnchantment _ => TestKind.includeEnchantment.title
  | .name _ => TestKind.name.title
  | .day _ => TestKind.day.title
  | .time _ => TestKind.time.title
  | .unknown path => path
  | .never => "<null>"

def holds (source : Attributes) : Test -> Reading Bool
  | .stacking quantity => do
      let count <- source.count
      let most <- source.maxCount
      .value (quantity.holds count most)
  | .damage quantity => do
      let damage <- source.damage
      let most <- source.maxDamage
      .value (quantity.holds damage most)
  | .nbt pattern => do
      let tree <- source.tree
      .value (tree.satisfies pattern)
  | .includeNbt (some names) => do
      let tree <- source.tree
      .value (tree.hasDataNames names)
  | .enchantment (some required) => do
      let levels <- source.enchantments
      .value (meetsLevels levels required)
  | .includeEnchantment (some names) => do
      let levels <- source.enchantments
      .value (hasEnchantments levels names)
  | .name (some pattern) => do
      let displayName <- source.displayName
      .value (pattern.occursIn displayName)
  | .day (some threshold) => do
      let clock <- source.clock
      .value (Clock.onOrAfterDay clock threshold)
  | .time (some threshold) => do
      let clock <- source.clock
      .value (Clock.onOrAfterTime clock threshold)
  | .unknown _ => .value true
  | .includeNbt none => .value false
  | .enchantment none => .value false
  | .includeEnchantment none => .value false
  | .name none => .value false
  | .day none => .value false
  | .time none => .value false
  | .never => .value false

end Test

/-- Whether a JSON value states a pattern that matches a whole name. -/
def acceptsName (displayName : String) (value : Json) : Bool :=
  match Test.pattern? value with
  | some pattern => pattern.occursIn displayName
  | none => false

end ItemModels
