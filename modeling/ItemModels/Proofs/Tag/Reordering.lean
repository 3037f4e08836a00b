import ItemModels.Proofs.Tag.Correspondence
import ItemModels.Proofs.Tag.Listing
import Mathlib.Data.List.Nodup

namespace ItemModels
namespace Tag

/-!
# The order in which entries came

A compound has its children under names, and of the entries with one name only the
last counts.  `Reordered` states what may be done to a tree without touching its
children: single steps that bring entries with different names into another order,
or that drop an entry which a later one replaces, at any place inside.

Such steps lead through trees that look quite different on the way.  But all of them
keep that the trees correspond, with children that are again connected by steps; and
neither a check nor the text form sees more than corresponding children.
-/

/-- The trees differ only in the order in which compounds got entries with different names, and in
entries that later ones replace, at any depth. -/
inductive Reordered : Tag -> Tag -> Prop where
  | same (tag : Tag) : Reordered tag tag
  | symm {one other : Tag} (back : Reordered other one) : Reordered one other
  | trans {first second third : Tag} (one : Reordered first second)
      (two : Reordered second third) : Reordered first third
  | permuted {entries others : List (String × Tag)} (distinct : (entries.map Prod.fst).Nodup)
      (permuted : entries.Perm others) : Reordered (.compound entries) (.compound others)
  /-- The value of a name is that of its last entry. -/
  | replaced (before after : List (String × Tag)) {name : String} (tag : Tag)
      (again : name ∈ after.map Prod.fst) :
      Reordered (.compound (before ++ (name, tag) :: after)) (.compound (before ++ after))
  /-- A step inside an item of a list. -/
  | item (before after : List Tag) {item other : Tag} (inside : Reordered item other) :
      Reordered (.list (before ++ item :: after)) (.list (before ++ other :: after))
  /-- A step inside the value of an entry. -/
  | entry (before after : List (String × Tag)) (name : String) {tag other : Tag}
      (inside : Reordered tag other) :
      Reordered (.compound (before ++ (name, tag) :: after))
        (.compound (before ++ (name, other) :: after))

/-! ## Looking up among entries -/

theorem latest_append (name : String) (before after : List (String × Tag)) :
    latest? name (before ++ after) = (latest? name after).or (latest? name before) := by
  induction before with
  | nil => rw [List.nil_append, latest?, Option.or_none]
  | cons entry rest inductionHypothesis =>
      rcases entry with ⟨other, value⟩
      rw [List.cons_append, latest?, latest?, inductionHypothesis]
      cases latest? name after <;> rfl

/-- Where names are distinct, the entries are the children. -/
theorem latest_eq_some_iff_mem {entries : List (String × Tag)}
    (distinct : (entries.map Prod.fst).Nodup) (name : String) (child : Tag) :
    latest? name entries = some child <-> (name, child) ∈ entries := by
  refine ⟨mem_of_latest, fun listed => ?_⟩
  cases found : latest? name entries with
  | none =>
      rw [latest_eq_none_iff] at found
      exact absurd (List.mem_map_of_mem listed) found
  | some other =>
      have same := List.inj_on_of_nodup_map distinct (mem_of_latest found) listed rfl
      rw [(Prod.mk.inj same).2]

theorem latest_permuted {entries others : List (String × Tag)}
    (distinct : (entries.map Prod.fst).Nodup) (permuted : entries.Perm others) (name : String) :
    latest? name entries = latest? name others := by
  have distinct' : (others.map Prod.fst).Nodup := (permuted.map Prod.fst).nodup_iff.mp distinct
  ext child
  rw [latest_eq_some_iff_mem distinct, latest_eq_some_iff_mem distinct', permuted.mem_iff]

theorem latest_replaced (before : List (String × Tag)) {after : List (String × Tag)} {name : String}
    (tag : Tag) (again : name ∈ after.map Prod.fst) (key : String) :
    latest? key (before ++ (name, tag) :: after) = latest? key (before ++ after) := by
  rw [latest_append, latest_append, latest?]
  cases found : latest? key after with
  | some _ => rfl
  | none =>
      have different : name ≠ key := by
        rintro rfl
        exact (latest_eq_none_iff name after).mp found again
      simp only [if_neg different]

/-! ## Relations that are kept by parts -/

section Parts

variable {Part : Type} {Related : Part -> Part -> Prop}

theorem optionRel_refl (refl : ∀ part, Related part part) :
    ∀ option : Option Part, Option.Rel Related option option
  | none => .none
  | some part => .some (refl part)

theorem optionRel_symm (back : ∀ {part other}, Related other part -> Related part other)
    {one other : Option Part} (related : Option.Rel Related other one) :
    Option.Rel Related one other := by
  cases related with
  | none => exact .none
  | some related => exact .some (back related)

theorem optionRel_trans (trans : ∀ first second third, Related first second ->
      Related second third -> Related first third) {first second third : Option Part}
    (one : Option.Rel Related first second) (two : Option.Rel Related second third) :
    Option.Rel Related first third := by
  cases one with
  | none => exact two
  | some here =>
      cases two with
      | some there => exact .some (trans _ _ _ here there)

theorem forall₂_trans (trans : ∀ first second third, Related first second ->
      Related second third -> Related first third) {firsts seconds thirds : List Part}
    (one : List.Forall₂ Related firsts seconds) (two : List.Forall₂ Related seconds thirds) :
    List.Forall₂ Related firsts thirds := by
  induction one generalizing thirds with
  | nil => exact two
  | cons here _ inductionHypothesis =>
      cases two with
      | cons there others => exact .cons (trans _ _ _ here there) (inductionHypothesis others)

/-- One part is replaced. -/
theorem forall₂_replaced (refl : ∀ part, Related part part) (before after : List Part)
    {part other : Part} (inside : Related part other) :
    List.Forall₂ Related (before ++ part :: after) (before ++ other :: after) := by
  have kept (parts : List Part) : List.Forall₂ Related parts parts :=
    List.forall₂_same.mpr fun part _ => refl part
  exact List.rel_append (kept before) (.cons inside (kept after))

end Parts

namespace Corresponds

variable {inside : Tag -> Tag -> Prop}

theorem symm (back : ∀ {one other}, inside other one -> inside one other) {one other : Tag}
    (corresponds : Corresponds (fun _ _ => False) inside other one) :
    Corresponds (fun _ _ => False) inside one other := by
  cases corresponds with
  | same => exact .same _
  | leaf impossible => exact impossible.elim
  | list each => exact .list (each.imp fun _ _ => back).flip
  | compound each =>
      exact .compound fun name => optionRel_symm back (each name)

theorem trans (onward : ∀ first second third, inside first second -> inside second third ->
      inside first third) {first second third : Tag}
    (one : Corresponds (fun _ _ => False) inside first second)
    (two : Corresponds (fun _ _ => False) inside second third) :
    Corresponds (fun _ _ => False) inside first third := by
  cases one with
  | same => exact two
  | leaf impossible => exact impossible.elim
  | list each =>
      cases two with
      | same => exact .list each
      | leaf impossible => exact impossible.elim
      | list further => exact .list (forall₂_trans onward each further)
  | compound each =>
      cases two with
      | same => exact .compound each
      | leaf impossible => exact impossible.elim
      | compound further =>
          exact .compound fun name => optionRel_trans onward (each name) (further name)

end Corresponds

/-! ## Steps and children -/

/-- Trees that steps connect correspond, and steps connect their parts. -/
theorem Reordered.corresponds {one other : Tag} (reordered : Reordered one other) :
    Corresponds (fun _ _ => False) Reordered one other := by
  induction reordered with
  | same tag => exact .same tag
  | symm _ inductionHypothesis => exact inductionHypothesis.symm .symm
  | trans _ _ first second => exact first.trans (fun _ _ _ => .trans) second
  | permuted distinct permuted =>
      refine .compound fun name => ?_
      rw [latest_permuted distinct permuted]
      exact optionRel_refl .same _
  | replaced before after tag again =>
      refine .compound fun name => ?_
      rw [latest_replaced before tag again]
      exact optionRel_refl .same _
  | item before after inside => exact .list (forall₂_replaced .same before after inside)
  | entry before after name inside =>
      refine .compound fun key => ?_
      rw [latest_append, latest_append, latest?, latest?]
      -- The changed entry is seen only where no later one has its name.
      cases latest? key after with
      | some _ => exact optionRel_refl .same _
      | none =>
          dsimp only
          split
          · exact .some inside
          · exact optionRel_refl .same _

/-! ## What is made of trees -/

/-- The text form does not show in which order entries came. -/
theorem Reordered.render_eq {one other : Tag} (reordered : Reordered one other) :
    one.render = other.render := by
  induction one using nested_induction generalizing other with
  | flat tag noList noCompound =>
      cases reordered.corresponds with
      | same => rfl
      | leaf impossible => exact impossible.elim
      | list => exact absurd rfl (noList _)
      | compound => exact absurd rfl (noCompound _)
  | list items inductionHypothesis =>
      cases reordered.corresponds with
      | same => rfl
      | leaf impossible => exact impossible.elim
      | @list _ others each =>
          have rendered := (List.forall₂_and_left items others).mpr ⟨inductionHypothesis, each⟩
          rw [render, render, renderItems_eq_map, renderItems_eq_map]
          apply congrArg
          rw [← List.forall₂_eq_eq_eq, List.forall₂_map_left_iff, List.forall₂_map_right_iff]
          exact rendered.imp fun _ _ both => both.1 both.2
  | compound entries inductionHypothesis =>
      cases reordered.corresponds with
      | same => rfl
      | leaf impossible => exact impossible.elim
      | @compound _ others each =>
          apply render_compound_congr
          intro name
          have related := each name
          generalize found : latest? name entries = child, latest? name others = other at related ⊢
          cases related with
          | none => rfl
          | some inside => exact congrArg some (inductionHypothesis name _ found inside)

/-- A check does not see in which order entries came. -/
theorem Reordered.check_eq {one other : Tag} (reordered : Reordered one other) (pattern : Json) :
    check pattern one = check pattern other :=
  check_of_related (fun _ => True) False.elim Reordered.corresponds
    (fun _ _ _ => trivial) (fun _ _ _ => trivial) trivial reordered

theorem Reordered.satisfies_eq {one other : Tag} (reordered : Reordered one other)
    (pattern : Json) : one.satisfies pattern = other.satisfies pattern := by
  rw [satisfies, satisfies, reordered.check_eq]

end Tag
end ItemModels
