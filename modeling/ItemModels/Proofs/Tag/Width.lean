import ItemModels.Proofs.Tag.Correspondence
import ItemModels.Proofs.Tag.Satisfaction

namespace ItemModels

/-!
# Words of different widths

A number of a pattern is narrowed to the width of the word that it is compared
with, so one pattern can ask for different things of equal words.  It does not
when every number in it already is a signed byte: narrowing to any width leaves
such a number as it is, and then only the values of the words count.  A truth
value is the other thing that tells widths apart, since only bytes have one.

`Tag.Widened` replaces words and arrays of words by wider ones with the same
values, at any depth.  A pattern that fits a byte gets the same verdict from both
trees, with the same record of what was passed.
-/

/-- Every number in the value is read as a signed byte, and there is no truth value in it. -/
inductive Json.FitsByte : Json -> Prop where
  | null : FitsByte .null
  | number {number : JsonNumber} (least : -128 <= number.reading) (most : number.reading <= 127) :
      FitsByte (.number number)
  | string (text : String) : FitsByte (.string text)
  | array {items : List Json} (each : ∀ item ∈ items, FitsByte item) : FitsByte (.array items)
  | object {members : List (String × Json)} (each : ∀ member ∈ members, FitsByte member.2) :
      FitsByte (.object members)

namespace Tag

/-- A tag with one word or with an array of words is followed by one with wider words of the same
values. -/
inductive WidensWords : Tag -> Tag -> Prop where
  | word {tag wide : Tag} {width wider : Nat} {value : Int} (more : width < wider)
      (before : tag.word? = some (width, value)) (after : wide.word? = some (wider, value)) :
      WidensWords tag wide
  | words {tag wide : Tag} {width wider : Nat} {values : List Int} (more : width < wider)
      (before : tag.words? = some (width, values)) (after : wide.words? = some (wider, values)) :
      WidensWords tag wide

mutual

/-- The second tree is the first one with wider words of the same values in any number of places,
at any depth. -/
inductive Widened : Tag -> Tag -> Prop where
  | same (tag : Tag) : Widened tag tag
  | words {tag wide : Tag} (widens : WidensWords tag wide) : Widened tag wide
  | list {items wides : List Tag} (each : List.Forall₂ Widened items wides) :
      Widened (.list items) (.list wides)
  | compound {entries wides : List (String × Tag)}
      (each : List.Forall₂ WidenedEntry entries wides) :
      Widened (.compound entries) (.compound wides)

/-- The entries have the same name, and the tag of the second is that of the first with wider
words. -/
inductive WidenedEntry : String × Tag -> String × Tag -> Prop where
  | of (name : String) {tag wide : Tag} (inside : Widened tag wide) :
      WidenedEntry (name, tag) (name, wide)

end

/-! ## What is asked of words -/

/-- A number that fits a byte is the same in every width of words. -/
theorem wrapped_of_fitsByte {number : JsonNumber} (fits : Json.FitsByte (.number number))
    {width : Nat} (wide : 8 <= width) : number.wrapped width = number.reading := by
  cases fits with
  | number least most =>
      have enough : (2 : Int) ^ 7 <= 2 ^ (width - 1) := by
        exact_mod_cast Nat.pow_le_pow_right (by decide) (by omega)
      exact BitVec.toInt_ofInt_eq_self (by omega) (by omega) (by omega)

theorem wrapped_of_listed {items : List Json} (fits : Json.FitsByte (.array items))
    {number : JsonNumber} (listed : .number number ∈ items) {width : Nat} (wide : 8 <= width) :
    number.wrapped width = number.reading := by
  cases fits with
  | array each => exact wrapped_of_fitsByte (each _ listed) wide

theorem width_of_word {tag : Tag} {width : Nat} {value : Int}
    (holds : tag.word? = some (width, value)) : 8 <= width := by
  cases tag <;> cases holds <;> decide

theorem width_of_words {tag : Tag} {width : Nat} {values : List Int}
    (holds : tag.words? = some (width, values)) : 8 <= width := by
  cases tag <;> cases holds <;> decide

/-- Only its value counts of a word, for a value that fits a byte. -/
theorem leafSatisfies_of_word {tag : Tag} {width : Nat} {actual : Int} {value : Json}
    (holds : tag.word? = some (width, actual)) (fits : value.FitsByte) :
    LeafSatisfies tag value <-> ∃ least, value = .number least ∧ least.reading <= actual := by
  constructor
  · intro satisfied
    cases satisfied with
    | word holds' reached =>
        cases holds.symm.trans holds'
        rw [wrapped_of_fitsByte fits (width_of_word holds)] at reached
        exact ⟨_, rfl, reached⟩
    | truth => cases fits
    | words holds' => cases tag <;> cases holds <;> cases holds'
    | _ => cases holds
  · rintro ⟨least, rfl, reached⟩
    apply LeafSatisfies.word holds
    rw [wrapped_of_fitsByte fits (width_of_word holds)]
    exact reached

/-- Only their values count of words in an array, for a value that fits a byte. -/
theorem leafSatisfies_of_words {tag : Tag} {width : Nat} {actual : List Int} {value : Json}
    (holds : tag.words? = some (width, actual)) (fits : value.FitsByte) :
    LeafSatisfies tag value <-> ∃ items, value = .array items ∧
      ∀ item ∈ items, ∃ number, item = .number number ∧ number.reading ∈ actual := by
  constructor
  · intro satisfied
    cases satisfied with
    | words holds' present =>
        cases holds.symm.trans holds'
        refine ⟨_, rfl, fun item listed => ?_⟩
        rcases present item listed with ⟨number, rfl, held⟩
        rw [wrapped_of_listed fits listed (width_of_words holds)] at held
        exact ⟨number, rfl, held⟩
    | word holds' => cases tag <;> cases holds <;> cases holds'
    | _ => cases holds
  · rintro ⟨items, rfl, present⟩
    apply LeafSatisfies.words holds
    intro item listed
    rcases present item listed with ⟨number, rfl, held⟩
    refine ⟨number, rfl, ?_⟩
    rw [wrapped_of_listed fits listed (width_of_words holds)]
    exact held

theorem isCompared_of_word {tag : Tag} {width : Nat} {value : Int}
    (holds : tag.word? = some (width, value)) : tag.IsCompared := by
  cases tag <;> cases holds <;> constructor <;> simp

theorem isCompared_of_words {tag : Tag} {width : Nat} {values : List Int}
    (holds : tag.words? = some (width, values)) : tag.IsCompared := by
  cases tag <;> cases holds <;> constructor <;> simp

theorem WidensWords.answersAlike {tag wide : Tag} (widens : WidensWords tag wide) :
    AnswersAlike Json.FitsByte tag wide := by
  cases widens with
  | word _ before after =>
      refine ⟨isCompared_of_word before, isCompared_of_word after, fun value fits => ?_⟩
      rw [Bool.eq_iff_iff, leafHolds_eq_true_iff, leafHolds_eq_true_iff,
        leafSatisfies_of_word before fits, leafSatisfies_of_word after fits]
  | words _ before after =>
      refine ⟨isCompared_of_words before, isCompared_of_words after, fun value fits => ?_⟩
      rw [Bool.eq_iff_iff, leafHolds_eq_true_iff, leafHolds_eq_true_iff,
        leafSatisfies_of_words before fits, leafSatisfies_of_words after fits]

/-! ## Trees with wider words -/

theorem Widened.latest {entries wides : List (String × Tag)}
    (each : List.Forall₂ WidenedEntry entries wides) (name : String) :
    Option.Rel Widened (latest? name entries) (latest? name wides) := by
  induction each with
  | nil => exact .none
  | @cons _ _ rest wides here _ inductionHypothesis =>
      cases here with
      | of key inside =>
          rw [latest?, latest?]
          generalize latest? name rest = found, latest? name wides = wide at inductionHypothesis ⊢
          cases inductionHypothesis with
          | some later => exact .some later
          | none =>
              dsimp only
              split
              · exact .some inside
              · exact .none

theorem Widened.corresponds {tag wide : Tag} (widened : Widened tag wide) :
    Corresponds WidensWords Widened tag wide := by
  cases widened with
  | same tag => exact .same tag
  | words widens => exact .leaf widens
  | list each => exact .list each
  | compound each => exact .compound (Widened.latest each)

/-- A pattern that fits a byte does not show how wide the words of a tree are. -/
theorem satisfies_in_any_width {tag wide : Tag} {pattern : Json} (fits : pattern.FitsByte)
    (widened : Widened tag wide) : wide.satisfies pattern = tag.satisfies pattern := by
  have alike : check pattern tag = check pattern wide := by
    refine check_of_related Json.FitsByte WidensWords.answersAlike Widened.corresponds ?_ ?_ fits widened
    · rintro items ⟨⟩
      assumption
    · rintro members ⟨⟩
      assumption
  rw [satisfies, satisfies, alike]

/-- The least and the greatest byte, in an array of words and in the pages of a list. -/
theorem satisfies_with_wider_pages :
    let tag : Tag := compound [("marks", .bytes [127, -128]), ("lore", .string "old"),
      ("pages", .list [compound [("wear", .byte (-128))], compound [("wear", .short 127)]])]
    let wide : Tag := compound [("marks", .longs [127, -128]), ("lore", .string "old"),
      ("pages", .list [compound [("wear", .short (-128))], compound [("wear", .int 127)]])]
    let pattern : Json := .object [("marks", .array [.ofInt (-128)]),
      ("pages", .array [.object [("wear", .ofInt (-128))]])]
    tag.satisfies pattern = true ∧ wide.satisfies pattern = true := by
  intro tag wide pattern
  have fitsLeast : (Json.ofInt (-128)).FitsByte := .number (by decide) (by decide)
  have fits : pattern.FitsByte := by
    refine .object (List.forall_mem_cons.mpr ⟨?_, List.forall_mem_singleton.mpr ?_⟩)
    · exact .array (List.forall_mem_singleton.mpr fitsLeast)
    · refine .array (List.forall_mem_singleton.mpr (.object ?_))
      exact List.forall_mem_singleton.mpr fitsLeast
  have page {narrow later : Tag} (widens : WidensWords narrow later) :
      Widened (compound [("wear", narrow)]) (compound [("wear", later)]) :=
    .compound (.cons (.of "wear" (.words widens)) .nil)
  have pages : Widened (.list [compound [("wear", .byte (-128))], compound [("wear", .short 127)]])
      (.list [compound [("wear", .short (-128))], compound [("wear", .int 127)]]) := by
    refine .list (.cons (page ?_) (.cons (page ?_) .nil))
    · exact .word (by decide : 8 < 16) rfl rfl
    · exact .word (by decide : 16 < 32) rfl rfl
  have widened : Widened tag wide := by
    have marks : WidensWords (.bytes [127, -128]) (.longs [127, -128]) :=
      .words (by decide : 8 < 64) rfl rfl
    exact .compound (.cons (.of _ (.words marks))
      (.cons (.of _ (.same _)) (.cons (.of _ pages) .nil)))
  have satisfied : tag.satisfies pattern = true := by decide
  exact ⟨satisfied, (satisfies_in_any_width fits widened).trans satisfied⟩

/-- As a byte, 128 is -128, and only a byte has a truth value. -/
example :
    let worn (wear : Tag) (least : Json) : Bool :=
      (compound [("wear", wear)]).satisfies (.object [("wear", least)])
    worn (.byte (-128)) (.ofInt 128) = true ∧ worn (.short (-128)) (.ofInt 128) = false ∧
      worn (.byte 1) (.bool true) = true ∧ worn (.short 1) (.bool true) = false := by
  decide

end Tag
end ItemModels
