import ItemModels.Proofs.Json.Nested
import ItemModels.Proofs.Tag.Satisfaction

namespace ItemModels

/-!
# Patterns that ask for nothing

An array asks that all of its items hold of the same tag.  A pattern that is built
from arrays alone never comes to a question, and every tag satisfies it.  As soon
as there is anything else in it, an object or a value that is no pattern, it holds
of compounds only or of nothing.  So what is not a compound satisfies these
patterns and no others, and it does not matter of which type it is.

For the items of a list this has a consequence.  They are asked for the value that
the list was asked for, and one item that is not a compound is enough to make the
value ask for nothing or fail.
-/

/-- Built from arrays alone. -/
inductive Json.Vacuous : Json -> Prop where
  | array {items : List Json} (each : ∀ item ∈ items, Vacuous item) : Vacuous (.array items)

namespace Tag

theorem satisfies_of_vacuous {pattern : Json} (vacuous : pattern.Vacuous) (tag : Tag) :
    Satisfies tag pattern := by
  induction vacuous with
  | array each inductionHypothesis => exact .array inductionHypothesis

/-- What is not a compound satisfies the patterns that ask for nothing. -/
theorem satisfies_iff_vacuous {tag : Tag} (noCompound : ∀ entries, tag ≠ .compound entries)
    (pattern : Json) : Satisfies tag pattern <-> pattern.Vacuous := by
  refine ⟨fun satisfied => ?_, fun vacuous => satisfies_of_vacuous vacuous tag⟩
  induction pattern using Json.nested_induction with
  | flat pattern noArray noObject =>
      cases satisfied with
      | array => exact absurd rfl (noArray _)
      | object => exact absurd rfl (noObject _)
  | array items inductionHypothesis =>
      rw [satisfies_array_iff] at satisfied
      exact .array fun item listed => inductionHypothesis item listed (satisfied item listed)
  | object members inductionHypothesis =>
      cases satisfied with
      | object => exact absurd rfl (noCompound _)

/-- Whether a pattern asks for nothing is tested with the end marker. -/
instance (pattern : Json) : Decidable pattern.Vacuous :=
  decidable_of_iff ((check pattern .stop).holds = true)
    ((holds_check_iff pattern .stop).trans (satisfies_iff_vacuous (by simp) pattern))

/-- One item that is not a compound decides for the whole list. -/
theorem childSatisfies_list_iff_vacuous {elements : List Tag} {element : Tag}
    (listed : element ∈ elements) (noCompound : ∀ entries, element ≠ .compound entries)
    (value : Json) : ChildSatisfies (.list elements) value <-> value.Vacuous := by
  constructor
  · intro satisfied
    cases satisfied with
    | leaf satisfied =>
        cases satisfied with
        | word holds => cases holds
        | words holds => cases holds
    | list each => exact (satisfies_iff_vacuous noCompound _).mp (each element listed)
  · intro vacuous
    cases vacuous with
    | array each => exact .list fun other _ => satisfies_of_vacuous (.array each) other

/-- An object asks for what its other members ask and for what it asks of one child. -/
theorem satisfies_object_split {entries : List (String × Tag)} {name : String} {child : Tag}
    (found : latest? name entries = some child) (value : Json)
    (before after : List (String × Json)) :
    Satisfies (.compound entries) (.object (before ++ (name, value) :: after)) <->
      ChildSatisfies child value ∧ Satisfies (.compound entries) (.object (before ++ after)) := by
  rw [satisfies_object_iff, satisfies_object_iff, List.forall_mem_append, List.forall_mem_cons,
    List.forall_mem_append, found]
  constructor
  · rintro ⟨front, ⟨_, ⟨⟩, satisfied⟩, back⟩
    exact ⟨satisfied, front, back⟩
  · rintro ⟨satisfied, front, back⟩
    exact ⟨front, ⟨child, rfl, satisfied⟩, back⟩

/-- A tag that is not a compound satisfies a pattern if and only if it is built from arrays alone,
and compounds satisfy such patterns as well.  Where an object asks something of a list that has an
item that is not a compound, it holds if and only if the value there is built from arrays alone
and all else that it asks holds. -/
theorem only_vacuous_without_compound (pattern : Json) :
    (∀ tag : Tag, (∀ entries, tag ≠ .compound entries) ->
      (tag.satisfies pattern = true <-> pattern.Vacuous)) ∧
    (∀ entries, pattern.Vacuous -> (compound entries).satisfies pattern = true) ∧
    ∀ entries name elements, (compound entries).child? name = some (.list elements) ->
      (∃ element ∈ elements, ∀ others, element ≠ .compound others) ->
      ∀ before after,
        ((compound entries).satisfies (.object (before ++ (name, pattern) :: after)) = true <->
          pattern.Vacuous ∧ (compound entries).satisfies (.object (before ++ after)) = true) := by
  simp only [satisfies, holds_check_iff]
  refine ⟨fun tag noCompound => satisfies_iff_vacuous noCompound pattern,
    fun entries vacuous => satisfies_of_vacuous vacuous _, ?_⟩
  rintro entries name elements found ⟨element, listed, noCompound⟩ before after
  rw [satisfies_object_split found, childSatisfies_list_iff_vacuous listed noCompound]

/-- One page of a book is a string.  So the pages satisfy arrays of empty arrays and no array in
which there is an object, although the other page would, and the book fails with them. -/
theorem only_vacuous_for_pages :
    let pages : Tag := .list [.string "one", .compound [("text", .string "one")]]
    let book : Tag := .compound [("author", .string "Alex"), ("pages", pages)]
    let empty : Json := .array [.array [], .array [.array []]]
    let object : Json := .array [.array [], .object [("text", .string "one")]]
    let asks (value : Json) : Json := .object [("author", .string "Alex"), ("pages", value)]
    empty.Vacuous ∧ ¬ object.Vacuous ∧
      pages.satisfies empty = true ∧ pages.satisfies object = false ∧
      book.satisfies empty = true ∧
      book.satisfies (asks empty) = true ∧ book.satisfies (asks object) = false := by
  intro pages book empty object asks
  have vacuous : empty.Vacuous := by decide
  have asking : ¬ object.Vacuous := by decide
  have noCompound : ∀ entries, pages ≠ .compound entries := by simp [pages]
  have found : book.child? "pages" = some pages := rfl
  have mixed : ∃ element ∈ [Tag.string "one", .compound [("text", .string "one")]],
      ∀ others, element ≠ .compound others := ⟨_, List.mem_cons_self, by simp⟩
  have author : book.satisfies (.object [("author", .string "Alex")]) = true := by decide
  rcases only_vacuous_without_compound empty with ⟨emptyAlone, emptyInside, emptyAsked⟩
  rcases only_vacuous_without_compound object with ⟨objectAlone, -, objectAsked⟩
  have emptyHolds := emptyAsked _ "pages" _ found mixed [("author", .string "Alex")] []
  have objectHolds := objectAsked _ "pages" _ found mixed [("author", .string "Alex")] []
  refine ⟨vacuous, asking, (emptyAlone pages noCompound).mpr vacuous, ?_, emptyInside _ vacuous,
    emptyHolds.mpr ⟨vacuous, author⟩, ?_⟩
  · rw [Bool.eq_false_iff]
    exact fun holds => asking ((objectAlone pages noCompound).mp holds)
  · rw [Bool.eq_false_iff]
    exact fun holds => asking (objectHolds.mp holds).1

end Tag
end ItemModels
