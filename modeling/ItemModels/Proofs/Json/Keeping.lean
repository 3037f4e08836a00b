import ItemModels.Json.Fault
import ItemModels.Proofs.Json.Spelling

namespace ItemModels
namespace Json
namespace Outline

/-!
# Values that can be kept

Not every well-formed value can be kept.  Containers may nest only so deep, a
number must be one that the 64-bit format has, and an escape in a string or a
name must not leave half of a surrogate pair alone.  A value that is passed over
may do all of this.
-/

/-- At most so many containers are inside one another, and every number, string and name has a
value. -/
inductive Fits : Nat -> Outline -> Prop where
  | null (depth : Nat) : Fits depth .null
  | bool (depth : Nat) (value : Bool) : Fits depth (.bool value)
  | number (depth : Nat) (value : JsonNumber) : Fits depth (.number (some value))
  | string (depth : Nat) (text : String) : Fits depth (.string (some text))
  | array {depth : Nat} {items : List Outline} (each : ∀ item ∈ items, Fits depth item) :
      Fits (depth + 1) (.array items true)
  | object {depth : Nat} {members : List (Option String × Outline)}
      (named : ∀ member ∈ members, member.1 ≠ none)
      (each : ∀ member ∈ members, Fits depth member.2) :
      Fits (depth + 1) (.object members true)

theorem Fits.wellFormed {depth : Nat} {outline : Outline} (fits : outline.Fits depth) :
    outline.wellFormed = true := by
  induction fits with
  | null => rfl
  | bool => rfl
  | number => rfl
  | string => rfl
  | array _ inductionHypothesis => exact (wellFormed_array_iff _ _).mpr ⟨inductionHypothesis, rfl⟩
  | object _ _ inductionHypothesis =>
      exact (wellFormed_object_iff _ _).mpr ⟨inductionHypothesis, rfl⟩

/-- A container is kept if it is closed and may be one. -/
theorem not_refused_iff (depth : Nat) (closed : Bool) :
    ¬ (decide (depth = 0) || !closed) = true <->
      (∃ inside, depth = inside + 1) ∧ closed = true := by
  cases depth <;> cases closed <;> simp

theorem exists_keepItems_iff (depth : Nat) (items : List Outline) :
    (∃ values, keepItems? depth items = some values) <->
      ∀ item ∈ items, ∃ value, item.keep? depth = some value := by
  induction items with
  | nil => simp [keepItems?]
  | cons item rest inductionHypothesis =>
      rw [List.forall_mem_cons, ← inductionHypothesis]
      simp only [keepItems?, Option.bind_eq_bind, Option.bind_eq_some_iff]
      constructor
      · rintro ⟨_, value, kept, others, later, _⟩
        exact ⟨⟨value, kept⟩, others, later⟩
      · rintro ⟨⟨value, kept⟩, others, later⟩
        exact ⟨_, value, kept, others, later, rfl⟩

theorem exists_keepMembers_iff (depth : Nat) (members : List (Option String × Outline)) :
    (∃ written, keepMembers? depth members = some written) <->
      (∀ member ∈ members, member.1 ≠ none) ∧
        ∀ member ∈ members, ∃ value, member.2.keep? depth = some value := by
  induction members with
  | nil => simp [keepMembers?]
  | cons member rest inductionHypothesis =>
      rcases member with ⟨name, value⟩
      rw [List.forall_mem_cons, List.forall_mem_cons, and_and_and_comm, ← inductionHypothesis]
      simp only [keepMembers?, Option.bind_eq_bind, Option.bind_eq_some_iff,
        ← Option.isSome_iff_ne_none, Option.isSome_iff_exists]
      constructor
      · rintro ⟨_, text, named, kept, here, others, later, _⟩
        exact ⟨⟨⟨text, named⟩, kept, here⟩, others, later⟩
      · rintro ⟨⟨⟨text, named⟩, kept, here⟩, others, later⟩
        exact ⟨_, text, named, kept, here, others, later, rfl⟩

/-- Exactly the values that fit are kept. -/
theorem exists_keep_iff (depth : Nat) (outline : Outline) :
    (∃ value, outline.keep? depth = some value) <-> outline.Fits depth := by
  induction outline using nested_induction generalizing depth with
  | broken =>
      constructor
      · rintro ⟨_, ⟨⟩⟩
      · rintro ⟨⟩
  | null => exact ⟨fun _ => .null depth, fun _ => ⟨_, rfl⟩⟩
  | bool value => exact ⟨fun _ => .bool depth value, fun _ => ⟨_, rfl⟩⟩
  | number value =>
      cases value with
      | none =>
          constructor
          · rintro ⟨_, ⟨⟩⟩
          · rintro ⟨⟩
      | some number => exact ⟨fun _ => .number depth number, fun _ => ⟨_, rfl⟩⟩
  | string text =>
      cases text with
      | none =>
          constructor
          · rintro ⟨_, ⟨⟩⟩
          · rintro ⟨⟩
      | some letters => exact ⟨fun _ => .string depth letters, fun _ => ⟨_, rfl⟩⟩
  | array items closed inductionHypothesis =>
      have each (depth : Nat) : (∃ values, keepItems? depth items = some values) <->
          ∀ item ∈ items, item.Fits depth :=
        (exists_keepItems_iff depth items).trans
          (forall₂_congr fun item listed => inductionHypothesis item listed depth)
      rw [keep?]
      constructor
      · rintro ⟨value, kept⟩
        split_ifs at kept with refused
        rcases (not_refused_iff depth closed).mp refused with ⟨⟨inside, rfl⟩, rfl⟩
        rcases Option.map_eq_some_iff.mp kept with ⟨values, found, _⟩
        exact .array ((each inside).mp ⟨values, found⟩)
      · rintro (_ | _)
        rename_i inside fits
        rcases (each inside).mpr fits with ⟨values, found⟩
        exact ⟨.array values, by simp [found]⟩
  | object members closed inductionHypothesis =>
      have each (depth : Nat) : (∃ written, keepMembers? depth members = some written) <->
          (∀ member ∈ members, member.1 ≠ none) ∧ ∀ member ∈ members, member.2.Fits depth :=
        (exists_keepMembers_iff depth members).trans
          (and_congr_right fun _ =>
            forall₂_congr fun member listed => inductionHypothesis member listed depth)
      rw [keep?]
      constructor
      · rintro ⟨value, kept⟩
        split_ifs at kept with refused
        rcases (not_refused_iff depth closed).mp refused with ⟨⟨inside, rfl⟩, rfl⟩
        rcases Option.map_eq_some_iff.mp kept with ⟨written, found, _⟩
        rcases (each inside).mp ⟨written, found⟩ with ⟨named, fits⟩
        exact .object named fits
      · rintro (_ | _)
        rename_i inside named fits
        rcases (each inside).mpr ⟨named, fits⟩ with ⟨written, found⟩
        exact ⟨.object (membersOf written), by simp [found]⟩

/-- Exactly the objects that fit are read with their members. -/
theorem exists_members_iff (depth : Nat) (outline : Outline) :
    (∃ written, outline.members depth = .ok written) <->
      (∃ members, outline = .object members true) ∧ outline.Fits depth := by
  have kept := exists_keep_iff depth outline
  constructor
  · rintro ⟨written, read⟩
    cases outline with
    | object members closed =>
        rw [Outline.members] at read
        split_ifs at read with refused
        rcases (not_refused_iff depth closed).mp refused with ⟨_, rfl⟩
        refine ⟨⟨members, rfl⟩, kept.mp ?_⟩
        cases found : keepMembers? (depth - 1) members with
        | none => simp [found] at read
        | some entries => exact ⟨.object (membersOf entries), by rw [keep?, if_neg refused, found]; rfl⟩
    | _ => cases read
  · rintro ⟨⟨members, rfl⟩, fits⟩
    rcases kept.mpr fits with ⟨value, found⟩
    rw [keep?] at found
    split_ifs at found with refused
    rcases Option.map_eq_some_iff.mp found with ⟨written, same, _⟩
    exact ⟨written, by rw [Outline.members, if_neg refused, same]⟩

end Outline
end Json
end ItemModels
