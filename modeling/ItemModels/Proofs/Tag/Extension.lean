import ItemModels.Proofs.Json.Weaker
import ItemModels.Proofs.Tag.Nested
import ItemModels.Proofs.Tag.Satisfaction

namespace ItemModels
namespace Tag

/-!
# Tags that have more

A tag extends another when it has at least what the other has, in the sense in
which patterns ask for it.  The direction differs from type to type.  A word may
grow, an array of words may gain words, and a compound may gain children.  A
list is asked item by item, so it extends another when it has no items but such
as extend items of the other; it may lose items, down to none at all.

What a tag satisfies is kept when the tag is extended and the pattern is
weakened.  The induction is on the stronger pattern alone: whenever the check
goes into a list it goes on with items of the pattern, and whenever it goes into
a compound with values of its members.
-/

mutual

/-- The first tag has at least what the second has. -/
inductive Extends : Tag -> Tag -> Prop where
  | same (tag : Tag) : Extends tag tag
  /-- A word of the same width is not less.  A byte is also a truth value, so it is zero only
  where the other is. -/
  | word {later tag : Tag} {width : Nat} {actual grown : Int}
      (before : tag.word? = some (width, actual)) (after : later.word? = some (width, grown))
      (atLeast : actual <= grown) (truth : width = 8 -> (actual = 0 <-> grown = 0)) :
      Extends later tag
  /-- An array of words of the same width has every word. -/
  | words {later tag : Tag} {width : Nat} {actual more : List Int}
      (before : tag.words? = some (width, actual)) (after : later.words? = some (width, more))
      (kept : ∀ word ∈ actual, word ∈ more) : Extends later tag
  | list {later items : List Tag} (each : ∀ item ∈ later, ExtendsItem item items) :
      Extends (.list later) (.list items)
  | compound {later entries : List (String × Tag)}
      (each : ∀ name child, (compound entries).child? name = some child ->
        HasExtension (compound later) name child) :
      Extends (.compound later) (.compound entries)
  | unknown (later id : UInt8) : Extends (.unknown later) (.unknown id)

/-- The tag extends one of the items. -/
inductive ExtendsItem : Tag -> List Tag -> Prop where
  | of {later item : Tag} {items : List Tag} (listed : item ∈ items)
      (extended : Extends later item) : ExtendsItem later items

/-- The tag has a child of the name that extends the given one. -/
inductive HasExtension : Tag -> String -> Tag -> Prop where
  | of {tag later child : Tag} {name : String} (found : tag.child? name = some later)
      (extended : Extends later child) : HasExtension tag name child

end

/-! ## What an extension looks like -/

/-- A tag that holds one word holds no array of words. -/
theorem words_eq_none {tag : Tag} {held : Nat × Int} (holds : tag.word? = some held) :
    tag.words? = none := by
  cases tag <;> first | rfl | cases holds

theorem eq_byte_of_word {tag : Tag} {value : Int} (holds : tag.word? = some (8, value)) :
    ∃ byte : Int8, tag = .byte byte ∧ byte.toInt = value := by
  cases tag <;> cases holds
  exact ⟨_, rfl, rfl⟩

namespace Extends

theorem of_word {later tag : Tag} {width : Nat} {actual : Int} (extended : Extends later tag)
    (holds : tag.word? = some (width, actual)) :
    ∃ grown, later.word? = some (width, grown) ∧ actual <= grown ∧
      (width = 8 -> (actual = 0 <-> grown = 0)) := by
  cases extended with
  | same => exact ⟨actual, holds, Int.le_refl actual, fun _ => Iff.rfl⟩
  | word before after atLeast truth =>
      cases before.symm.trans holds
      exact ⟨_, after, atLeast, truth⟩
  | words before =>
      rw [words_eq_none holds] at before
      cases before
  | list => cases holds
  | compound => cases holds
  | unknown => cases holds

theorem of_words {later tag : Tag} {width : Nat} {actual : List Int}
    (extended : Extends later tag) (holds : tag.words? = some (width, actual)) :
    ∃ more, later.words? = some (width, more) ∧ ∀ word ∈ actual, word ∈ more := by
  cases extended with
  | same => exact ⟨actual, holds, fun _ listed => listed⟩
  | word before =>
      rw [words_eq_none before] at holds
      cases holds
  | words before after kept =>
      cases before.symm.trans holds
      exact ⟨_, after, kept⟩
  | list => cases holds
  | compound => cases holds
  | unknown => cases holds

/-- A text and a binary number extend only themselves. -/
theorem of_fixed {later tag : Tag} (extended : Extends later tag)
    (fixed : (∃ text, tag = .string text) ∨ (∃ value, tag = .float value) ∨
      ∃ value, tag = .double value) : later = tag := by
  rcases fixed with ⟨_, rfl⟩ | ⟨_, rfl⟩ | ⟨_, rfl⟩ <;>
    cases extended with
    | same => rfl
    | word before => cases before
    | words before => cases before

theorem of_unknown {later : Tag} {id : UInt8} (extended : Extends later (.unknown id)) :
    ∃ other, later = .unknown other := by
  cases extended with
  | same => exact ⟨id, rfl⟩
  | word before => cases before
  | words before => cases before
  | unknown other => exact ⟨other, rfl⟩

theorem of_list {later : Tag} {items : List Tag} (extended : Extends later (.list items)) :
    ∃ others, later = .list others ∧ ∀ other ∈ others, ∃ item ∈ items, Extends other item := by
  cases extended with
  | same => exact ⟨items, rfl, fun item listed => ⟨item, listed, .same item⟩⟩
  | word before => cases before
  | words before => cases before
  | list each =>
      refine ⟨_, rfl, fun other listed => ?_⟩
      rcases each other listed with ⟨item, extended⟩
      exact ⟨_, item, extended⟩

theorem of_compound {later : Tag} {entries : List (String × Tag)}
    (extended : Extends later (.compound entries)) :
    ∃ others, later = .compound others ∧ ∀ name child, latest? name entries = some child ->
      ∃ other, latest? name others = some other ∧ Extends other child := by
  cases extended with
  | same => exact ⟨entries, rfl, fun name child found => ⟨child, found, .same child⟩⟩
  | word before => cases before
  | words before => cases before
  | compound each =>
      refine ⟨_, rfl, fun name child found => ?_⟩
      rcases each name child found with ⟨present, extended⟩
      exact ⟨_, present, extended⟩

theorem compound_of_entries {later entries : List (String × Tag)}
    (each : ∀ entry ∈ entries, ∃ other, latest? entry.1 later = some other ∧
      Extends other entry.2) :
    Extends (.compound later) (.compound entries) := by
  apply Extends.compound
  intro name child found
  rcases each _ (mem_of_latest found) with ⟨other, present, extended⟩
  exact .of present extended

end Extends

/-! ## Satisfied by more, and asked for less -/

variable {tag later : Tag} {pattern weaker : Json}

/-- The step for tags without tags inside. -/
theorem LeafSatisfies.of_extends (satisfied : LeafSatisfies tag pattern)
    (extended : later.Extends tag) (weakened : weaker.Weaker pattern) :
    LeafSatisfies later weaker := by
  cases satisfied with
  | word holds reached =>
      rcases extended.of_word holds with ⟨grown, after, atLeast, _⟩
      rw [weakened.of_flat (by simp) (by simp)]
      exact .word after (Int.le_trans reached atLeast)
  | truth same =>
      rcases extended.of_word rfl with ⟨grown, after, _, truth⟩
      rcases eq_byte_of_word after with ⟨byte, rfl, rfl⟩
      rw [weakened.of_flat (by simp) (by simp)]
      apply LeafSatisfies.truth
      rw [same, ne_eq, ne_eq, ← Int8.toInt_inj, ← Int8.toInt_inj]
      exact not_congr (truth rfl)
  | single notLess =>
      rw [weakened.of_flat (by simp) (by simp), extended.of_fixed (by simp)]
      exact .single notLess
  | double notLess =>
      rw [weakened.of_flat (by simp) (by simp), extended.of_fixed (by simp)]
      exact .double notLess
  | string text =>
      rw [weakened.of_flat (by simp) (by simp), extended.of_fixed (by simp)]
      exact .string text
  | words holds present =>
      rcases extended.of_words holds with ⟨more, after, kept⟩
      rcases weakened.of_array with ⟨items, rfl, each⟩
      apply LeafSatisfies.words after
      intro item listed
      rcases each item listed with ⟨other, stands, weakened⟩
      rcases present other stands with ⟨number, rfl, found⟩
      exact ⟨number, weakened.of_flat (by simp) (by simp), kept _ found⟩

/-- The step from whole tags to children.  The items of a list are whole tags that the same
pattern is asked of, so nothing but the assumption about whole tags is needed. -/
theorem ChildSatisfies.of_extends
    (whole : ∀ {tag later weaker}, Satisfies tag pattern -> later.Extends tag ->
      weaker.Weaker pattern -> Satisfies later weaker)
    (satisfied : ChildSatisfies tag pattern) (extended : later.Extends tag)
    (weakened : weaker.Weaker pattern) : ChildSatisfies later weaker := by
  cases satisfied with
  | unknown id =>
      rcases extended.of_unknown with ⟨other, rfl⟩
      exact .unknown other weaker
  | leaf satisfied => exact .leaf (satisfied.of_extends extended weakened)
  | list each =>
      rcases extended.of_list with ⟨others, rfl, sources⟩
      rcases weakened.of_array with ⟨fewer, rfl, _⟩
      apply ChildSatisfies.list
      intro element listed
      rcases sources element listed with ⟨item, stands, extended⟩
      exact whole (each item stands) extended weakened
  | compound satisfied =>
      rcases extended.of_compound with ⟨others, rfl, _⟩
      rcases weakened.of_object with ⟨fewer, rfl, _⟩
      exact .compound (whole satisfied extended weakened)

theorem Satisfies.of_extends (satisfied : Satisfies tag pattern) (extended : later.Extends tag)
    (weakened : weaker.Weaker pattern) : Satisfies later weaker := by
  induction pattern using Json.nested_induction generalizing tag later weaker with
  | flat pattern noArray noObject =>
      cases satisfied with
      | array => exact absurd rfl (noArray _)
      | object => exact absurd rfl (noObject _)
  | array items inductionHypothesis =>
      rcases weakened.of_array with ⟨fewer, rfl, each⟩
      apply Satisfies.array
      intro item listed
      rcases each item listed with ⟨other, stands, weakened⟩
      have held := satisfies_array_iff.mp satisfied other stands
      exact inductionHypothesis other stands held extended weakened
  | object members inductionHypothesis =>
      rcases weakened.of_object with ⟨fewer, rfl, each⟩
      cases satisfied with
      | object present satisfied =>
          rcases extended.of_compound with ⟨others, rfl, kept⟩
          have held := satisfies_object_iff.mp (.object present satisfied)
          apply satisfies_object_iff.mpr
          intro member listed
          rcases each member listed with ⟨other, stands, name, weakened⟩
          rcases held other stands with ⟨child, found, satisfied⟩
          rcases kept other.1 child found with ⟨grown, found, extended⟩
          rw [name] at found
          exact ⟨grown, found,
            satisfied.of_extends (inductionHypothesis other stands) extended weakened⟩

/-- A tag that satisfies a pattern still satisfies a weaker one when it is extended.  What is
rearranged in a pattern, at any depth, changes nothing. -/
theorem satisfies_monotone :
    (∀ (tag later : Tag) (pattern weaker : Json), later.Extends tag -> weaker.Weaker pattern ->
      tag.satisfies pattern = true -> later.satisfies weaker = true) ∧
    ∀ (tag : Tag) (pattern other : Json), pattern.Rearranged other ->
      tag.satisfies pattern = tag.satisfies other := by
  have monotone : ∀ (tag later : Tag) (pattern weaker : Json), later.Extends tag ->
      weaker.Weaker pattern -> tag.satisfies pattern = true -> later.satisfies weaker = true := by
    intro tag later pattern weaker extended weakened holds
    have satisfied := (holds_check_iff pattern tag).mp holds
    have kept := satisfied.of_extends extended weakened
    exact (holds_check_iff weaker later).mpr kept
  refine ⟨monotone, fun tag pattern other rearranged => ?_⟩
  rcases rearranged.weaker with ⟨forward, backward⟩
  apply Bool.eq_iff_iff.mpr
  constructor
  · exact monotone tag tag pattern other (.same tag) backward
  · exact monotone tag tag other pattern (.same tag) forward

/-- An item with a higher count and more in its line of lore still satisfies what is left of a
pattern, also when what is left lists a part twice. -/
theorem lore_monotone :
    let lore : Tag := .list [compound [("by", .stop), ("at", .int 7)]]
    let left : Json := .array [.object [("at", .ofInt 2)], .object []]
    let twice : Json := .array [.object [], .object [("at", .ofInt 2)], .object []]
    (compound [("lore", lore), ("Count", .byte 5)]).satisfies (.object [("lore", left)]) = true ∧
      (compound [("lore", lore)]).satisfies (.object [("lore", left)]) =
        (compound [("lore", lore)]).satisfies (.object [("lore", twice)]) := by
  intro lore left twice
  have line : (compound [("by", .stop), ("at", .int 7)]).Extends (compound [("at", .int 2)]) := by
    apply Extends.compound_of_entries
    intro entry listed
    rw [List.mem_singleton.mp listed]
    exact ⟨.int 7, rfl, .word rfl rfl (by decide) (by decide)⟩
  have lines : lore.Extends (list [.compound [("at", .int 2)]]) := by
    apply Extends.list
    intro later listed
    rw [List.mem_singleton.mp listed]
    exact .of List.mem_cons_self line
  have extended : (compound [("lore", lore), ("Count", .byte 5)]).Extends
      (compound [("Count", .byte 3), ("lore", .list [.compound [("at", .int 2)]])]) := by
    apply Extends.compound_of_entries
    intro entry listed
    rcases List.mem_cons.mp listed with rfl | listed
    · exact ⟨.byte 5, rfl, .word rfl rfl (by decide) (by decide)⟩
    · rw [List.mem_singleton.mp listed]
      exact ⟨lore, rfl, lines⟩
  have parts : left.Weaker (.array [.object [("at", .ofInt 2)]]) := by
    apply Json.Weaker.array_of_each
    intro item listed
    refine ⟨_, List.mem_cons_self, ?_⟩
    rcases List.mem_cons.mp listed with rfl | listed
    · exact .same _
    · rw [List.mem_singleton.mp listed]
      exact .object_of_subset (List.nil_subset _)
  have weakened : (Json.object [("lore", left)]).Weaker
      (.object [("Count", .ofInt 2), ("lore", .array [.object [("at", .ofInt 2)]])]) := by
    apply Json.Weaker.object_of_each
    intro member listed
    rw [List.mem_singleton.mp listed]
    exact ⟨("lore", _), List.mem_cons_of_mem _ List.mem_cons_self, rfl, parts⟩
  constructor
  · exact satisfies_monotone.1 _ _ _ _ extended weakened (by decide +kernel)
  · apply satisfies_monotone.2
    exact .member [] [] "lore" (.repeated (List.mem_cons_of_mem _ List.mem_cons_self))

end Tag
end ItemModels
