import ItemModels.Proofs.Json.Number
import ItemModels.Tag.Match
import Mathlib.Data.List.Basic

namespace ItemModels
namespace Tag

/-!
# What it means that a tag satisfies a pattern

Checking walks the pattern and keeps a record on the way.  The relation
`Satisfies` states in positive terms, and without a record, what is asked: for
an array every item, for an object a child under every name, and of a child what
its type admits.  Numbers are compared as integers, the pattern's number after
narrowing to the width of the tag.

The main result says that checking decides this relation.  The proof follows the
mutual recursion of the check; all that concerns tags without tags inside is in
`leafHolds_eq_true_iff`.
-/

/-- The width and the value of a tag that holds one word. -/
def word? : Tag -> Option (Nat × Int)
  | .byte value => some (8, value.toInt)
  | .short value => some (16, value.toInt)
  | .int value => some (32, value.toInt)
  | .long value => some (64, value.toInt)
  | _ => none

/-- The width and the values of a tag that holds an array of words. -/
def words? : Tag -> Option (Nat × List Int)
  | .bytes values => some (8, values.map Int8.toInt)
  | .ints values => some (32, values.map Int32.toInt)
  | .longs values => some (64, values.map Int64.toInt)
  | _ => none

/-- What a value asks of a tag that has no tags inside. -/
inductive LeafSatisfies : Tag -> Json -> Prop where
  /-- A word is at least the number, narrowed to its width. -/
  | word {leaf : Tag} {width : Nat} {actual : Int} {least : JsonNumber}
      (holds : leaf.word? = some (width, actual))
      (reached : least.wrapped width <= actual) : LeafSatisfies leaf (.number least)
  /-- A byte is compared with a truth value: zero is false, and all else is true. -/
  | truth {actual : Int8} {wanted : Bool} (same : wanted = true <-> actual ≠ 0) :
      LeafSatisfies (.byte actual) (.bool wanted)
  | single {actual : Binary .single} {least : JsonNumber}
      (notLess : actual.less least.toSingle = false) : LeafSatisfies (.float actual) (.number least)
  | double {actual : Binary .double} {least : JsonNumber}
      (notLess : actual.less least.toDouble = false) :
      LeafSatisfies (.double actual) (.number least)
  | string (text : String) : LeafSatisfies (.string text) (.string text)
  /-- An array of words has every number, narrowed to the width of the words. -/
  | words {leaf : Tag} {width : Nat} {actual : List Int} {items : List Json}
      (holds : leaf.words? = some (width, actual))
      (present : ∀ item ∈ items, ∃ number, item = .number number ∧ number.wrapped width ∈ actual) :
      LeafSatisfies leaf (.array items)

mutual

/-- The tag has what the pattern asks for. -/
inductive Satisfies : Tag -> Json -> Prop where
  /-- An array asks for all of its items. -/
  | array {tag : Tag} {items : List Json} (each : ∀ item ∈ items, Satisfies tag item) :
      Satisfies tag (.array items)
  /-- An object asks for a compound with a child for every member, and of each child for what
  the member's value asks. -/
  | object {entries : List (String × Tag)} {members : List (String × Json)}
      (present : ∀ member ∈ members, (Tag.compound entries).hasChild member.1 = true)
      (each : ∀ member ∈ members, ∀ child,
        (Tag.compound entries).child? member.1 = some child -> ChildSatisfies child member.2) :
      Satisfies (.compound entries) (.object members)

/-- The child of a compound has what the value of its name asks for.  Nothing is asked of a
child of unknown type, and nothing is satisfied by the end marker. -/
inductive ChildSatisfies : Tag -> Json -> Prop where
  | unknown (id : UInt8) (value : Json) : ChildSatisfies (.unknown id) value
  | leaf {child : Tag} {value : Json} (satisfied : LeafSatisfies child value) :
      ChildSatisfies child value
  /-- Every item of a list has all that the array asks for. -/
  | list {elements : List Tag} {items : List Json}
      (each : ∀ element ∈ elements, Satisfies element (.array items)) :
      ChildSatisfies (.list elements) (.array items)
  | compound {entries : List (String × Tag)} {members : List (String × Json)}
      (satisfied : Satisfies (.compound entries) (.object members)) :
      ChildSatisfies (.compound entries) (.object members)

end

/-! ## Tags without tags inside -/

/-- Words have every number of an array when their values have each number, wrapped to their
width. -/
private theorem holdsAll_eq_true_iff {Word : Type} [BEq Word] [LawfulBEq Word] {width : Nat}
    (narrow : Int64 -> Word) {toInt : Word -> Int} (injective : Function.Injective toInt)
    (narrowed : ∀ number : JsonNumber, toInt (narrow number.toInt64) = number.wrapped width)
    (words : List Word) (items : List Json) :
    holdsAll (fun word => words.contains (narrow word)) items = true <->
      ∀ item ∈ items, ∃ number, item = .number number ∧ number.wrapped width ∈ words.map toInt := by
  have holdsWord (number : JsonNumber) : words.contains (narrow number.toInt64) = true <->
      number.wrapped width ∈ words.map toInt := by
    rw [List.contains_iff_mem, ← narrowed]
    exact (List.mem_map_of_injective injective).symm
  rw [holdsAll, List.all_eq_true]
  apply forall_congr'
  intro item
  apply forall_congr'
  intro _
  cases item with
  | number number =>
      rw [holdsWord]
      exact ⟨fun held => ⟨number, rfl, held⟩, by rintro ⟨_, ⟨⟩, held⟩; exact held⟩
  | _ => simp

private theorem leafHolds_word_iff {leaf : Tag} {width : Nat} {actual : Int}
    (holds : leaf.word? = some (width, actual)) (least : JsonNumber) :
    leafHolds (.number least) leaf = true <-> least.wrapped width <= actual := by
  cases leaf <;> cases holds
  · rw [← JsonNumber.toInt_toInt8, ← Int8.le_iff_toInt_le]
    exact decide_eq_true_iff
  · rw [← JsonNumber.toInt_toInt16, ← Int16.le_iff_toInt_le]
    exact decide_eq_true_iff
  · rw [← JsonNumber.toInt_toInt32, ← Int32.le_iff_toInt_le]
    exact decide_eq_true_iff
  · rw [JsonNumber.wrapped_64, ← JsonNumber.toInt_toInt64, ← Int64.le_iff_toInt_le]
    exact decide_eq_true_iff

private theorem leafHolds_words_iff {leaf : Tag} {width : Nat} {actual : List Int}
    (holds : leaf.words? = some (width, actual)) (items : List Json) :
    leafHolds (.array items) leaf = true <->
      ∀ item ∈ items, ∃ number, item = .number number ∧ number.wrapped width ∈ actual := by
  cases leaf <;> cases holds
  · apply holdsAll_eq_true_iff Int64.toInt8 _ JsonNumber.toInt_toInt8
    exact fun _ _ => Int8.toInt_inj.mp
  · apply holdsAll_eq_true_iff Int64.toInt32 _ JsonNumber.toInt_toInt32
    exact fun _ _ => Int32.toInt_inj.mp
  · apply holdsAll_eq_true_iff (fun word => word)
    · exact fun _ _ => Int64.toInt_inj.mp
    · intro number
      rw [JsonNumber.wrapped_64, JsonNumber.toInt_toInt64]

/-- What a number asks of a tag that has no tags inside. -/
private theorem leafHolds_number_iff (least : JsonNumber) (child : Tag) :
    leafHolds (.number least) child = true <-> LeafSatisfies child (.number least) := by
  constructor
  · intro holds
    cases child with
    | byte _ | short _ | int _ | long _ =>
        exact .word rfl ((leafHolds_word_iff rfl least).mp holds)
    | float actual => exact .single (by simpa [leafHolds] using holds)
    | double actual => exact .double (by simpa [leafHolds] using holds)
    | _ => cases holds
  · intro satisfied
    cases satisfied with
    | word holds reached => exact (leafHolds_word_iff holds least).mpr reached
    | single notLess => simp [leafHolds, notLess]
    | double notLess => simp [leafHolds, notLess]

/-- What an array asks of a tag that has no tags inside. -/
private theorem leafHolds_array_iff (items : List Json) (child : Tag) :
    leafHolds (.array items) child = true <-> LeafSatisfies child (.array items) := by
  constructor
  · intro holds
    cases child with
    | bytes _ | ints _ | longs _ => exact .words rfl ((leafHolds_words_iff rfl items).mp holds)
    | _ => cases holds
  · intro satisfied
    cases satisfied with
    | words holds present => exact (leafHolds_words_iff holds items).mpr present

/-- The test of tags without tags inside decides what is asked of them. -/
theorem leafHolds_eq_true_iff (value : Json) (child : Tag) :
    leafHolds value child = true <-> LeafSatisfies child value := by
  cases value with
  | number least => exact leafHolds_number_iff least child
  | array items => exact leafHolds_array_iff items child
  | bool wanted =>
      constructor
      · intro holds
        cases child with
        | byte actual => exact .truth (by cases wanted <;> simpa [leafHolds] using holds)
        | _ => cases holds
      · rintro ⟨⟩
        rename_i actual same
        cases wanted <;> simpa [leafHolds] using same
  | string wanted =>
      constructor
      · intro holds
        cases child with
        | string actual =>
            rw [← eq_of_beq holds]
            exact .string wanted
        | _ => cases holds
      · rintro ⟨⟩
        exact beq_self_eq_true wanted
  | null =>
      constructor
      · intro holds
        cases child <;> cases holds
      · rintro ⟨⟩
  | object members =>
      constructor
      · intro holds
        cases child <;> cases holds
      · rintro ⟨⟩

/-! ## Tags with tags inside -/

/-- What is asked under one name of a compound. -/
theorem satisfies_object_iff {entries : List (String × Tag)}
    {members : List (String × Json)} :
    Satisfies (.compound entries) (.object members) <->
      ∀ member ∈ members, ∃ child, latest? member.1 entries = some child ∧
        ChildSatisfies child member.2 := by
  constructor
  · rintro (_ | ⟨present, each⟩) member mem
    rcases Option.isSome_iff_exists.mp (present member mem) with ⟨child, found⟩
    exact ⟨child, found, each member mem child found⟩
  · intro held
    refine .object (fun member mem => ?_) (fun member mem child found => ?_)
    · rcases held member mem with ⟨child, found, _⟩
      exact Option.isSome_iff_exists.mpr ⟨child, found⟩
    · rcases held member mem with ⟨other, others, satisfied⟩
      cases others.symm.trans found
      exact satisfied

theorem satisfies_array_iff {tag : Tag} {items : List Json} :
    Satisfies tag (.array items) <-> ∀ item ∈ items, Satisfies tag item := by
  constructor
  · rintro ⟨each⟩
    exact each
  · exact .array

private theorem childSatisfies_list_iff {elements : List Tag} {items : List Json} :
    ChildSatisfies (.list elements) (.array items) <->
      ∀ element ∈ elements, ∀ item ∈ items, Satisfies element item := by
  constructor
  · intro satisfied
    cases satisfied with
    | leaf satisfied =>
        cases satisfied with
        | words holds => cases holds
    | list each => exact fun element mem => satisfies_array_iff.mp (each element mem)
  · exact fun each => .list fun element mem => satisfies_array_iff.mpr (each element mem)

theorem childSatisfies_compound_iff {entries : List (String × Tag)}
    {members : List (String × Json)} :
    ChildSatisfies (.compound entries) (.object members) <->
      Satisfies (.compound entries) (.object members) := by
  constructor
  · rintro (_ | ⟨⟨⟩⟩ | _ | satisfied)
    exact satisfied
  · exact .compound

private theorem holds_checkChild_unknown (name : String) (value : Json) (id : UInt8) :
    (checkChild name value (.unknown id)).holds = true <-> ChildSatisfies (.unknown id) value := by
  rw [checkChild]
  exact ⟨fun _ => .unknown id value, fun _ => rfl⟩

/-- Where a child and its value are not walked into, the test of tags without tags inside
decides. -/
private theorem holds_checkChild_leaf {name : String} {value : Json} {child : Tag}
    (known : ∀ id, child ≠ .unknown id)
    (noList : ∀ items elements, value = .array items -> child ≠ .list elements)
    (noCompound : ∀ members entries, value = .object members -> child ≠ .compound entries) :
    (checkChild name value child).holds = true <-> ChildSatisfies child value := by
  rw [checkChild, Verdict.ofBool, leafHolds_eq_true_iff]
  rotate_left
  · exact known
  · exact noList
  · exact noCompound
  constructor
  · exact .leaf
  · intro satisfied
    cases satisfied with
    | unknown id => exact absurd rfl (known id)
    | leaf satisfied => exact satisfied
    | list each => exact absurd rfl (noList _ _ rfl)
    | compound satisfied => exact absurd rfl (noCompound _ _ rfl)

/-- A value that is neither an array nor an object is not walked into. -/
private theorem holds_checkChild_flat {name : String} {value : Json} {child : Tag}
    (noArray : ∀ items, value ≠ .array items) (noObject : ∀ members, value ≠ .object members) :
    (checkChild name value child).holds = true <-> ChildSatisfies child value := by
  by_cases known : ∃ id, child = .unknown id
  · rcases known with ⟨id, rfl⟩
    exact holds_checkChild_unknown name value id
  · exact holds_checkChild_leaf (fun id same => known ⟨id, same⟩)
      (fun items _ same => absurd same (noArray items))
      (fun members _ same => absurd same (noObject members))

/-- A pattern that is neither an array nor an object is satisfied by nothing. -/
private theorem holds_check_flat {pattern : Json} {tag : Tag}
    (noArray : ∀ items, pattern ≠ .array items) (noObject : ∀ members, pattern ≠ .object members) :
    (check pattern tag).holds = true <-> Satisfies tag pattern := by
  rw [check]
  rotate_left
  · exact noArray
  · exact fun members _ same => absurd same (noObject members)
  constructor
  · rintro ⟨⟩
  · rintro ⟨⟩
    · exact absurd rfl (noArray _)
    · exact absurd rfl (noObject _)

mutual

/-- The check of a tag, by recursion on the pattern. -/
theorem holds_check_iff : ∀ (pattern : Json) (tag : Tag),
    (check pattern tag).holds = true <-> Satisfies tag pattern
  | .array items, tag => by
      rw [check, satisfies_array_iff]
      exact holds_checkItems_iff items tag
  | .object members, tag => by
      cases tag with
      | compound entries =>
          rw [check, satisfies_object_iff]
          exact holds_checkMembers_iff members entries
      | _ =>
          constructor
          · rintro ⟨⟩
          · rintro ⟨⟩
  | .null, tag | .bool _, tag | .number _, tag | .string _, tag =>
      holds_check_flat (by simp) (by simp)

private theorem holds_checkItems_iff : ∀ (items : List Json) (tag : Tag),
    (checkItems items tag).holds = true <-> ∀ item ∈ items, Satisfies tag item
  | [], tag => by simp [checkItems, Verdict.pass]
  | item :: rest, tag => by
      rw [checkItems, Verdict.holds_andThen, Bool.and_eq_true, List.forall_mem_cons]
      exact and_congr (holds_check_iff item tag) (holds_checkItems_iff rest tag)

private theorem holds_checkMembers_iff :
    ∀ (members : List (String × Json)) (entries : List (String × Tag)),
      (checkMembers members entries).holds = true <->
        ∀ member ∈ members, ∃ child, latest? member.1 entries = some child ∧
          ChildSatisfies child member.2
  | [], entries => by simp [checkMembers, Verdict.pass]
  | (name, value) :: rest, entries => by
      rw [checkMembers, Verdict.holds_andThen, Bool.and_eq_true, List.forall_mem_cons]
      refine and_congr ?_ (holds_checkMembers_iff rest entries)
      cases found : latest? name entries with
      | none => simp [Verdict.fail]
      | some child => simp [holds_checkChild_iff name value child]

private theorem holds_checkChild_iff (name : String) : ∀ (value : Json) (child : Tag),
    (checkChild name value child).holds = true <-> ChildSatisfies child value
  | .array items, child => by
      cases child with
      | unknown id => exact holds_checkChild_unknown name _ id
      | list elements =>
          rw [checkChild, Verdict.holds_forAll, List.all_eq_true, childSatisfies_list_iff]
          exact forall_congr' fun element =>
            forall_congr' fun _ => holds_checkItems_iff items element
      | _ => exact holds_checkChild_leaf (by simp) (by simp) (by simp)
  | .object members, child => by
      cases child with
      | unknown id => exact holds_checkChild_unknown name _ id
      | compound entries =>
          rw [checkChild, childSatisfies_compound_iff, satisfies_object_iff]
          exact holds_checkMembers_iff members entries
      | _ => exact holds_checkChild_leaf (by simp) (by simp) (by simp)
  | .null, child | .bool _, child | .number _, child | .string _, child =>
      holds_checkChild_flat (by simp) (by simp)

end

/-- Checking decides what it means to satisfy a pattern. -/
theorem satisfies_decides (tag : Tag) (pattern : Json) :
    tag.satisfies pattern = true <-> Satisfies tag pattern :=
  holds_check_iff pattern tag

/-- As a byte, 300 is 44. -/
example : (compound [("Count", .byte 44)]).satisfies (.object [("Count", .ofInt 300)]) = true := by
  decide

end Tag
end ItemModels
