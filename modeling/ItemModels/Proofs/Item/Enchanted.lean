import ItemModels.Proofs.Item.Known
import ItemModels.Proofs.Tag.Satisfaction
import Mathlib.Algebra.Ring.Int.Defs

namespace ItemModels

/-!
# The enchantments that entries name

An entry carries the identifier of an enchantment and its level, and a registry
gives names to identifiers.  Several identifiers may have one name, an
identifier may have none, and there may be several entries for one enchantment.
The last of them is the one whose level counts.

Sources may refuse readings.  To gather the enchantments, all entries are read
and the registry is asked about each of them, also about those that turn out to
be of no interest.  `Attributes.Enlists` says that none of this fails, and what
follows is stated for the entries of which it holds.
-/

/-! ## Words of 16 bits -/

namespace Tag

/-- The whole number that a tag is read as: words wrap to 16 bits, binary numbers lose their
fraction and are held in range, and all else is zero. -/
def shortReading : Tag -> Int
  | .float value => value.truncated (-2 ^ 15) (2 ^ 15 - 1)
  | .double value => value.truncated (-2 ^ 15) (2 ^ 15 - 1)
  | tag =>
      match tag.word? with
      | some (_, value) => (BitVec.ofInt 16 value).toInt
      | none => 0

/-- The whole number that the child of a name is read as, zero if there is no such child. -/
def shortUnder (tag : Tag) (name : String) : Int :=
  match tag.child? name with
  | some child => child.shortReading
  | none => 0

theorem toInt_toInt16_of_binary {format : Format} (value : Binary format) :
    value.toInt16.toInt = value.truncated (-2 ^ 15) (2 ^ 15 - 1) := by
  have least : Int16.minValue.toInt = -2 ^ 15 := by decide
  have most : Int16.maxValue.toInt = 2 ^ 15 - 1 := by decide
  have bounds : -2 ^ 15 <= value.truncated (-2 ^ 15) (2 ^ 15 - 1) ∧
      value.truncated (-2 ^ 15) (2 ^ 15 - 1) <= 2 ^ 15 - 1 :=
    value.truncated_mem (by decide) (by decide)
  rw [Binary.toInt16, least, most]
  exact Int16.toInt_ofInt_of_le bounds.1 (by omega)

theorem toInt_toShort (tag : Tag) : (tag.toShort?.getD 0).toInt = tag.shortReading := by
  cases tag with
  | byte value =>
      have least := value.le_toInt
      have most := value.toInt_lt
      rw [toShort?, Option.getD_some, Int8.toInt_toInt16]
      exact (BitVec.toInt_ofInt_eq_self (by decide) (by omega) (by omega)).symm
  | short value =>
      exact (BitVec.toInt_ofInt_eq_self (by decide) value.le_toInt value.toInt_lt).symm
  | int value =>
      rw [toShort?, Option.getD_some, Int32.toInt_toInt16]
      exact (BitVec.toInt_ofInt ..).symm
  | long value =>
      rw [toShort?, Option.getD_some, Int64.toInt_toInt16]
      exact (BitVec.toInt_ofInt ..).symm
  | float value => exact toInt_toInt16_of_binary value
  | double value => exact toInt_toInt16_of_binary value
  | _ => rfl

theorem toInt_childShort (tag : Tag) (name : String) :
    (tag.childShort name).toInt = tag.shortUnder name := by
  unfold childShort shortUnder
  cases tag.child? name with
  | none => rfl
  | some child => exact child.toInt_toShort

theorem ofInt_shortUnder (tag : Tag) (name : String) :
    Int16.ofInt (tag.shortUnder name) = tag.childShort name := by
  rw [← toInt_childShort, Int16.ofInt_toInt]

end Tag

/-! ## Entries and the registry -/

namespace Attributes

/-- The enchantment that an entry names, with its level, if the registry gives it a name. -/
def named? (source : Attributes) (entry : Tag) : Option (Location × Int16) :=
  match source.enchantmentName (entry.childShort "id") with
  | .value (some name) => some (name, entry.childShort "lvl")
  | _ => none

/-- These are the entries of the source, and the registry answers for each of them. -/
structure Enlists (source : Attributes) (entries : List Tag) : Prop where
  read : source.enchantmentEntries = .value entries
  answered : ∀ entry ∈ entries, source.enchantmentName (entry.childShort "id") ≠ .failed

/-- The identifier of the entry is registered under the name. -/
def Registers (source : Attributes) (entry : Tag) (name : Location) : Prop :=
  source.enchantmentName (Int16.ofInt (entry.shortUnder "id")) = .value (some name)

/-- The last of the entries whose identifier is registered under the name. -/
def LastEntry (source : Attributes) (entries : List Tag) (name : Location) (last : Tag) : Prop :=
  ∃ before after, entries = before ++ last :: after ∧ source.Registers last name ∧
    ∀ later ∈ after, ¬ source.Registers later name

variable {source : Attributes}

theorem namedEntries_of_answered {entries : List Tag}
    (answered : ∀ entry ∈ entries, source.enchantmentName (entry.childShort "id") ≠ .failed) :
    source.namedEntries entries = .value (entries.filterMap source.named?) := by
  induction entries with
  | nil => rfl
  | cons entry rest inductionHypothesis =>
      rcases List.forall_mem_cons.mp answered with ⟨here, later⟩
      cases answer : source.enchantmentName (entry.childShort "id") with
      | failed => exact absurd answer here
      | value name =>
          cases name <;>
            simp [namedEntries, bind, answer, inductionHypothesis later, named?]

theorem answered_of_namedEntries {entries : List Tag} {levels : List (Location × Int16)}
    (read : source.namedEntries entries = .value levels) :
    ∀ entry ∈ entries, source.enchantmentName (entry.childShort "id") ≠ .failed := by
  induction entries generalizing levels with
  | nil => simp
  | cons entry rest inductionHypothesis =>
      cases answer : source.enchantmentName (entry.childShort "id") with
      | failed => simp [namedEntries, bind, answer] at read
      | value name =>
          cases others : source.namedEntries rest with
          | failed => simp [namedEntries, bind, answer, others] at read
          | value found =>
              rw [List.forall_mem_cons, answer]
              exact ⟨by simp, inductionHypothesis others⟩

/-- Gathering the enchantments succeeds when nothing is refused, and then gives those that the
entries name in their order. -/
theorem enchantments_eq_value_iff (levels : List (Location × Int16)) :
    source.enchantments = .value levels <->
      ∃ entries, source.Enlists entries ∧ levels = entries.filterMap source.named? := by
  unfold enchantments
  constructor
  · intro gathered
    cases read : source.enchantmentEntries with
    | failed => simp [bind, read] at gathered
    | value entries =>
        rw [read] at gathered
        have answered : ∀ entry ∈ entries, _ := answered_of_namedEntries gathered
        refine ⟨entries, ⟨read, answered⟩, ?_⟩
        have found := (namedEntries_of_answered answered).symm.trans gathered
        cases found
        rfl
  · rintro ⟨entries, enlisted, rfl⟩
    rw [enlisted.read]
    exact namedEntries_of_answered enlisted.answered

theorem registers_iff (entry : Tag) (name : Location) :
    source.Registers entry name <-> source.named? entry = some (name, entry.childShort "lvl") := by
  rw [Registers, Tag.ofInt_shortUnder, named?]
  split
  · rename_i registered answer
    simp [answer]
  · rename_i others
    simp only [reduceCtorEq, iff_false]
    exact others name

theorem registers_of_named {entry : Tag} {level : Location × Int16}
    (named : source.named? entry = some level) :
    source.Registers entry level.1 ∧ level.2 = entry.childShort "lvl" := by
  have same : level.2 = entry.childShort "lvl" := by
    unfold named? at named
    split at named <;> cases named
    rfl
  refine ⟨(registers_iff entry level.1).mpr ?_, same⟩
  rw [named, ← same]

/-- The level of an enchantment is that of the last entry that names it. -/
theorem levelOf_named_iff (entries : List Tag) (name : Location) (level : Int16) :
    levelOf? (entries.filterMap source.named?) name = some level <->
      ∃ last, source.LastEntry entries name last ∧ level = last.childShort "lvl" := by
  rw [levelOf_eq_some_iff_last]
  constructor
  · rintro ⟨earlier, later, split, others⟩
    rcases List.filterMap_eq_append_iff.mp split with ⟨front, back, rfl, -, rest⟩
    rcases List.filterMap_eq_cons_iff.mp rest with ⟨passed, last, after, rfl, -, named, rfl⟩
    rcases registers_of_named named with ⟨registered, same⟩
    refine ⟨last, ⟨front ++ passed, after, by simp, registered, fun entry listed => ?_⟩, same⟩
    intro again
    exact others _ (List.mem_filterMap.mpr ⟨entry, listed, (registers_iff entry name).mp again⟩) rfl
  · rintro ⟨last, ⟨before, after, rfl, registered, others⟩, rfl⟩
    refine ⟨before.filterMap source.named?, after.filterMap source.named?, ?_, ?_⟩
    · rw [List.filterMap_append, List.filterMap_cons, (registers_iff last name).mp registered]
    · intro level listed same
      rcases List.mem_filterMap.mp listed with ⟨entry, member, named⟩
      apply others entry member
      rw [← same]
      exact (registers_of_named named).1

end Attributes
end ItemModels
