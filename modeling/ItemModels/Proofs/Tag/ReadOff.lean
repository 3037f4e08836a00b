import ItemModels.Proofs.Json.Weaker
import ItemModels.Proofs.Number.Widening
import ItemModels.Proofs.Tag.Extension

namespace ItemModels

/-!
# The pattern that is read off from a tag

`Tag.toPattern` writes a tag down as a pattern: numbers, texts and arrays of words
as they are, a compound as the object of what its children are written as, and of
a list no more than that it is one.  A compound satisfies its own pattern, since
every number is narrowed back to what it was.  Two kinds of children stand in the
way, because no pattern is satisfied there: end markers, and binary numbers that
no JSON number can write.

The pattern names every child, at every depth that compounds alone lead to.  So a
compound from which one of these has been taken does not satisfy it any more.
-/

/-- Neither an infinity nor what is not a number. -/
def Binary.isFinite {format : Format} : Binary format -> Bool
  | .finite _ _ _ => true
  | _ => false

/-- A binary number as a JSON value, null when no number can write it. -/
def Json.ofBinary {format : Format} (value : Binary format) : Json :=
  match JsonNumber.ofBinary? value with
  | some written => .number written
  | none => .null

namespace Tag

mutual

/-- The pattern that writes the tag down. -/
def toPattern : Tag -> Json
  | .byte value => .ofInt value.toInt
  | .short value => .ofInt value.toInt
  | .int value => .ofInt value.toInt
  | .long value => .ofInt value.toInt
  | .float value => .ofBinary value
  | .double value => .ofBinary value
  | .string text => .string text
  | .bytes values => .array (values.map fun word => .ofInt word.toInt)
  | .ints values => .array (values.map fun word => .ofInt word.toInt)
  | .longs values => .array (values.map fun word => .ofInt word.toInt)
  | .list _ => .array []
  | .compound entries => .object (toMembers entries)
  | .stop => .null
  | .unknown _ => .null

/-- The members that write the children down, each name once. -/
def toMembers : List (String × Tag) -> List (String × Json)
  | [] => []
  | (name, child) :: rest =>
      if (latest? name rest).isSome then toMembers rest
      else (name, toPattern child) :: toMembers rest

end

/-- The tag, or one that children of compounds lead to. -/
inductive Reaches : Tag -> Tag -> Prop where
  | here (tag : Tag) : Reaches tag tag
  | under {tag child inner : Tag} {name : String} (found : tag.child? name = some child)
      (further : Reaches child inner) : Reaches tag inner

/-- Some pattern asks for just what the tag holds. -/
def Matchable : Tag -> Prop
  | .stop => False
  | .float value => value.isFinite = true
  | .double value => value.isFinite = true
  | _ => True

/-- The first compound is the second without one child, or it has such a compound in the place
of a child.  All other children are the same. -/
inductive LacksChild : Tag -> Tag -> Prop where
  | here {entries fewer : List (String × Tag)} {name : String}
      (present : (compound entries).hasChild name = true)
      (gone : (compound fewer).child? name = none)
      (kept : ∀ other, other ≠ name -> (compound fewer).child? other = (compound entries).child? other) :
      LacksChild (.compound fewer) (.compound entries)
  | under {entries others : List (String × Tag)} {name : String} {child less : Tag}
      (found : (compound entries).child? name = some child)
      (replaced : (compound others).child? name = some less) (inside : LacksChild less child)
      (kept : ∀ other, other ≠ name -> (compound others).child? other = (compound entries).child? other) :
      LacksChild (.compound others) (.compound entries)

theorem Reaches.matchable_compound {entries : List (String × Tag)}
    (each : ∀ entry ∈ entries, ∀ inner, entry.2.Reaches inner -> inner.Matchable) :
    ∀ inner, (compound entries).Reaches inner -> inner.Matchable := by
  intro inner further
  cases further with
  | here => trivial
  | under found further => exact each _ (mem_of_latest found) inner further

theorem Reaches.matchable_flat {tag : Tag} (matchable : tag.Matchable)
    (childless : ∀ name, tag.child? name = none) :
    ∀ inner, tag.Reaches inner -> inner.Matchable := by
  intro inner further
  cases further with
  | here => exact matchable
  | under found => cases (childless _).symm.trans found

/-! ## Tags without tags inside -/

theorem wrapped_whole {width : Nat} {value : Int} (positive : 0 < width) (fits : width <= 64)
    (least : -2 ^ (width - 1) <= value) (most : value < 2 ^ (width - 1)) :
    (JsonNumber.whole value).wrapped width = value := by
  have wider : (2 : Int) ^ (width - 1) <= 2 ^ 63 := by
    exact_mod_cast Nat.pow_le_pow_right (by decide) (by omega)
  have reading : (JsonNumber.whole value).reading = value :=
    BitVec.toInt_ofInt_eq_self (by decide) (by omega) (by omega)
  rw [JsonNumber.wrapped, reading]
  exact BitVec.toInt_ofInt_eq_self positive least most

theorem wrapped_of_word {tag : Tag} {width : Nat} {value : Int}
    (holds : tag.word? = some (width, value)) : (JsonNumber.whole value).wrapped width = value := by
  cases tag with
  | byte word | short word | int word | long word =>
      cases holds
      exact wrapped_whole (by decide) (by decide) word.le_toInt word.toInt_lt
  | _ => cases holds

theorem wrapped_of_words {tag : Tag} {width : Nat} {values : List Int}
    (holds : tag.words? = some (width, values)) :
    ∀ value ∈ values, (JsonNumber.whole value).wrapped width = value := by
  cases tag with
  | bytes words | ints words | longs words =>
      cases holds
      rw [List.forall_mem_map]
      exact fun word _ => wrapped_whole (by decide) (by decide) word.le_toInt word.toInt_lt
  | _ => cases holds

theorem satisfies_of_word {tag : Tag} {width : Nat} {value : Int}
    (holds : tag.word? = some (width, value)) : LeafSatisfies tag (.ofInt value) :=
  .word holds (Int.le_of_eq (wrapped_of_word holds))

theorem satisfies_of_words {tag : Tag} {width : Nat} {values : List Int}
    (holds : tag.words? = some (width, values)) :
    LeafSatisfies tag (.array (values.map .ofInt)) := by
  apply LeafSatisfies.words holds
  rw [List.forall_mem_map]
  intro value listed
  refine ⟨.whole value, rfl, ?_⟩
  rw [wrapped_of_words holds value listed]
  exact listed

/-- A finite number is written as itself in the widest format. -/
theorem ofBinary_of_finite {format : Format} {value : Binary format}
    (widens : Format.double.Widens format) (finite : value.isFinite = true) :
    Json.ofBinary value = .number (.real (value.convert .double)) := by
  cases value with
  | finite negative units held =>
      rw [Json.ofBinary, JsonNumber.ofBinary?, Binary.convert_widened widens held,
        JsonNumber.ofDouble?]
  | _ => cases finite

/-- What has no tags inside satisfies what it is written as. -/
theorem satisfies_toPattern_flat {tag : Tag} (matchable : tag.Matchable)
    (noList : ∀ items, tag ≠ .list items) (noCompound : ∀ entries, tag ≠ .compound entries) :
    ChildSatisfies tag tag.toPattern := by
  cases tag with
  | stop => exact absurd matchable id
  | unknown id => exact .unknown id _
  | list items => exact absurd rfl (noList items)
  | compound entries => exact absurd rfl (noCompound entries)
  | string text => exact .leaf (.string text)
  | byte _ | short _ | int _ | long _ => exact .leaf (satisfies_of_word rfl)
  | bytes words | ints words | longs words =>
      apply ChildSatisfies.leaf
      rw [toPattern, ← Function.comp_def, ← List.map_map]
      exact satisfies_of_words rfl
  | float value =>
      rw [toPattern, ofBinary_of_finite Format.double_widens_single matchable]
      apply ChildSatisfies.leaf
      apply LeafSatisfies.single
      rw [JsonNumber.toSingle, JsonNumber.toDouble,
        Binary.convert_convert Format.double_widens_single, Binary.less_self]
  | double value =>
      rw [toPattern, ofBinary_of_finite (Format.widens_self _) matchable, Binary.convert_self]
      exact .leaf (.double value.less_self)

/-! ## Children and members -/

theorem mem_toMembers_iff (entries : List (String × Tag)) (name : String) (value : Json) :
    (name, value) ∈ toMembers entries <->
      ∃ child, latest? name entries = some child ∧ value = child.toPattern := by
  induction entries with
  | nil => simp [toMembers, latest?]
  | cons entry rest inductionHypothesis =>
      rcases entry with ⟨other, child⟩
      rw [toMembers, latest?]
      by_cases same : other = name
      · subst same
        cases later : latest? other rest with
        | some _ => simp [inductionHypothesis, later]
        | none => simp [inductionHypothesis, later]
      · have elsewhere : (name, value) ≠ (other, child.toPattern) := by
          intro equal
          exact same (Prod.mk.inj equal).1.symm
        cases later : latest? name rest <;>
          split <;> simp [inductionHypothesis, elsewhere, later]

theorem satisfies_toPattern (tag : Tag) (matchable : ∀ inner, tag.Reaches inner -> inner.Matchable) :
    ChildSatisfies tag tag.toPattern := by
  induction tag using nested_induction with
  | flat tag noList noCompound =>
      exact satisfies_toPattern_flat (matchable tag (.here tag)) noList noCompound
  | list items _ =>
      apply ChildSatisfies.list
      intro item _
      exact satisfies_array_iff.mpr (by simp)
  | compound entries inductionHypothesis =>
      apply ChildSatisfies.compound
      rw [satisfies_object_iff]
      rintro ⟨name, value⟩ listed
      rcases (mem_toMembers_iff entries name value).mp listed with ⟨child, found, rfl⟩
      refine ⟨child, found, inductionHypothesis name child found fun inner further => ?_⟩
      exact matchable inner (.under found further)

/-! ## Taking a child away -/

theorem latest_without_self (name : String) (entries : List (String × Tag)) :
    latest? name (entries.filter (·.1 != name)) = none := by
  simp [latest_eq_none_iff]

theorem latest_without_other {name other : String} (different : other ≠ name)
    (entries : List (String × Tag)) :
    latest? other (entries.filter (·.1 != name)) = latest? other entries := by
  induction entries with
  | nil => rfl
  | cons entry rest inductionHypothesis =>
      rcases entry with ⟨key, child⟩
      by_cases same : key = name
      · cases found : latest? other rest <;>
          simp [latest?, same, inductionHypothesis, found, different.symm]
      · simp [latest?, same, inductionHypothesis]

/-- Every child can be taken away. -/
theorem LacksChild.without {entries : List (String × Tag)} {name : String}
    (present : (compound entries).hasChild name = true) :
    LacksChild (.compound (entries.filter (·.1 != name))) (.compound entries) :=
  .here present (latest_without_self name entries)
    fun _ different => latest_without_other different entries

/-- What can be taken from a child can be taken inside the compound. -/
theorem LacksChild.inside {entries : List (String × Tag)} {name : String} {child less : Tag}
    (found : (compound entries).child? name = some child) (lacks : LacksChild less child) :
    LacksChild (.compound ((name, less) :: entries.filter (·.1 != name))) (.compound entries) := by
  refine .under found ?_ lacks fun other different => ?_
  · simp [child?, latest?, latest_without_self]
  · cases later : latest? other entries <;>
      simp [child?, latest?, latest_without_other different, later, different.symm]

theorem LacksChild.not_satisfies {less tag : Tag} (lacks : LacksChild less tag) :
    ¬ Satisfies less tag.toPattern := by
  induction lacks with
  | here present gone kept =>
      rename_i entries fewer name
      intro satisfied
      rcases Option.isSome_iff_exists.mp present with ⟨child, found⟩
      have listed := (mem_toMembers_iff entries name _).mpr ⟨child, found, rfl⟩
      rcases satisfies_object_iff.mp satisfied _ listed with ⟨other, still, _⟩
      cases gone.symm.trans still
  | under found replaced inside kept inductionHypothesis =>
      rename_i entries others name child less
      intro satisfied
      have listed := (mem_toMembers_iff entries name _).mpr ⟨child, found, rfl⟩
      rcases satisfies_object_iff.mp satisfied _ listed with ⟨other, there, held⟩
      cases replaced.symm.trans there
      apply inductionHypothesis
      cases inside <;> exact childSatisfies_compound_iff.mp held

/-- A compound satisfies the pattern that is read off from it, however the pattern's members are
ordered.  Without one of the children that it names, at whatever depth, a compound does not. -/
theorem read_off_exact (entries : List (String × Tag))
    (matchable : ∀ inner, (compound entries).Reaches inner -> inner.Matchable)
    (pattern : Json) (written : pattern.Rearranged (compound entries).toPattern) :
    (compound entries).satisfies pattern = true ∧
      ∀ less : Tag, less.LacksChild (compound entries) -> less.satisfies pattern = false := by
  rcases written.weaker with ⟨weaker, stronger⟩
  constructor
  · have satisfied : Satisfies (compound entries) (compound entries).toPattern :=
      childSatisfies_compound_iff.mp (satisfies_toPattern _ matchable)
    rw [satisfies, holds_check_iff]
    exact satisfied.of_extends (.same _) weaker
  · intro less lacks
    rw [Bool.eq_false_iff, ne_eq, satisfies, holds_check_iff]
    intro satisfied
    exact lacks.not_satisfies (satisfied.of_extends (.same _) stronger)

/-- A worn sword, whose page of marks is asked for too: without its words, or without the page,
it is another item. -/
theorem read_off_worn_sword :
    let page : List (String × Tag) := [("marks", .ints [5, -7]), ("lore", .list [.stop])]
    let sword : List (String × Tag) := [("Count", .byte (-3)), ("Wear", .float (.ofInt _ (-2))),
      ("page", .compound page), ("odd", .unknown 99)]
    let bare : Tag := .compound (("page", .compound [("lore", .list [.stop])]) ::
      sword.filter (·.1 != "page"))
    (compound sword).satisfies (compound sword).toPattern = true ∧
      bare.satisfies (compound sword).toPattern = false ∧
      (compound (sword.filter (·.1 != "odd"))).satisfies (compound sword).toPattern = false := by
  intro page sword bare
  have pageMatchable : ∀ inner, (compound page).Reaches inner -> inner.Matchable := by
    apply Reaches.matchable_compound
    simp only [page, List.forall_mem_cons, List.not_mem_nil, false_implies, implies_true, and_true]
    exact ⟨Reaches.matchable_flat trivial fun _ => rfl, Reaches.matchable_flat trivial fun _ => rfl⟩
  have wear : (Binary.ofInt .single (-2)).isFinite = true := by decide +kernel
  have matchable : ∀ inner, (compound sword).Reaches inner -> inner.Matchable := by
    apply Reaches.matchable_compound
    simp only [sword, List.forall_mem_cons, List.not_mem_nil, false_implies, implies_true, and_true]
    exact ⟨Reaches.matchable_flat trivial fun _ => rfl,
      Reaches.matchable_flat wear fun _ => rfl, pageMatchable,
      Reaches.matchable_flat trivial fun _ => rfl⟩
  have exact := read_off_exact sword matchable _ (.same _)
  refine ⟨exact.1, exact.2 bare ?_, exact.2 _ (.without rfl)⟩
  have marked : (compound page).hasChild "marks" = true := rfl
  exact .inside rfl (.without marked)

end Tag
end ItemModels
