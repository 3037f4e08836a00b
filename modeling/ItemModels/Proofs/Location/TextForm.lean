import ItemModels.Location.Json
import ItemModels.Proofs.Json.CompactText
import ItemModels.Proofs.Text.LetterCase

namespace ItemModels
namespace Location

/-!
# A location is determined by its text form

The text form puts a colon between namespace and path, and a path may hold colons
of its own.  The form can still be read, since the first colon of all is the one
that was put there: no namespace that was ever read holds one, nor is it empty,
and so the default is never taken for it.  Letters are small already and stay as
they are.

These properties are gathered in `Normal`.  Every text names a normal location,
and the normal locations are exactly those that are named by their own text form.
So reading loses nothing that the text form keeps.
-/

/-- There is a namespace and no colon in it, and neither half has an ASCII capital. -/
structure Normal (location : Location) : Prop where
  named : location.space ≠ ""
  noColon : ':' ∉ location.space.toList
  smallSpace : ∀ letter ∈ location.space.toList, letter.isUpper = false
  smallPath : ∀ letter ∈ location.path.toList, letter.isUpper = false

/-! ## The first colon -/

/-- What stands before the first colon has none. -/
theorem noColon_of_splitColon {letters before after : List Char}
    (split : splitColon? letters = some (before, after)) : ':' ∉ before := by
  induction letters generalizing before with
  | nil => cases split
  | cons letter rest inductionHypothesis =>
      rw [splitColon?] at split
      by_cases colon : letter = ':'
      · rw [if_pos colon] at split
        cases split
        exact List.not_mem_nil
      · rw [if_neg colon, Option.map_eq_some_iff] at split
        rcases split with ⟨⟨front, back⟩, found, same⟩
        cases same
        rw [List.mem_cons]
        rintro (here | later)
        · exact colon here.symm
        · exact inductionHypothesis found later

/-- A text is cut where a colon comes after a part without colons. -/
theorem splitColon_joined {before : List Char} (absent : ':' ∉ before) (after : List Char) :
    splitColon? (before ++ ':' :: after) = some (before, after) := by
  induction before with
  | nil => rfl
  | cons letter rest inductionHypothesis =>
      rw [List.mem_cons, not_or] at absent
      rcases absent with ⟨other, others⟩
      rw [List.cons_append, splitColon?, if_neg (Ne.symm other), inductionHypothesis others]
      rfl

/-! ## Reading a text -/

theorem normal_default (path : String) : Normal ⟨defaultSpace, Text.lowered path⟩ := by
  have named : defaultSpace ≠ "" := by decide +kernel
  have noColon : ':' ∉ defaultSpace.toList := by decide +kernel
  have kept : Text.lowered defaultSpace = defaultSpace := by decide +kernel
  refine ⟨named, noColon, fun letter listed => ?_, fun _ => Text.small_of_mem_lowered⟩
  rw [← kept] at listed
  exact Text.small_of_mem_lowered listed

/-- Every text names a normal location. -/
theorem normal_ofText (text : String) : (ofText text).Normal := by
  rw [ofText]
  cases split : splitColon? text.toList with
  | none => exact normal_default text
  | some parts =>
      rcases parts with ⟨space, path⟩
      cases space with
      | nil => exact normal_default (String.ofList path)
      | cons letter rest =>
          have absent := noColon_of_splitColon split
          refine ⟨Text.lowered_ne_empty (List.cons_ne_nil _ _), fun listed => ?_,
            fun _ => Text.small_of_mem_lowered, fun _ => Text.small_of_mem_lowered⟩
          rw [Text.toList_lowered, String.toList_ofList, List.mem_map] at listed
          rcases listed with ⟨original, inside, same⟩
          rw [(Text.toLower_eq_colon_iff original).mp same] at inside
          exact absent inside

theorem toList_toText (location : Location) :
    location.toText.toList = location.space.toList ++ ':' :: location.path.toList := by
  have colon : (":" : String).toList = [':'] := rfl
  rw [toText, String.toList_append, String.toList_append, colon, List.append_assoc,
    List.singleton_append]

/-- The text form of a normal location is cut where its halves were joined. -/
theorem ofText_toText_of_normal {location : Location} (normal : location.Normal) :
    ofText location.toText = location := by
  rcases location with ⟨space, path⟩
  rcases normal with ⟨named, noColon, smallSpace, smallPath⟩
  have cut : splitColon? (toText ⟨space, path⟩).toList = some (space.toList, path.toList) := by
    rw [toList_toText]
    exact splitColon_joined noColon path.toList
  have spaceKept : Text.lowered (String.ofList space.toList) = space := by
    rw [String.ofList_toList, Text.lowered_of_small smallSpace]
  have pathKept : Text.lowered (String.ofList path.toList) = path := by
    rw [String.ofList_toList, Text.lowered_of_small smallPath]
  rw [ofText, cut]
  cases letters : space.toList with
  | nil => exact absurd (String.toList_eq_nil_iff.mp letters) named
  | cons letter rest =>
      rw [letters] at spaceKept
      simp only [spaceKept, pathKept]

theorem normal_iff (location : Location) : location.Normal <-> ofText location.toText = location := by
  constructor
  · exact ofText_toText_of_normal
  · intro same
    rw [← same]
    exact normal_ofText _

theorem ofText_toText_ofText (text : String) : ofText (ofText text).toText = ofText text :=
  ofText_toText_of_normal (normal_ofText text)

/-- The JSON text of a location is read as the location that its text form names. -/
theorem read_render (location : Location) :
    read location.toJson.render = .ok (ofText location.toText) :=
  (Json.Spells.string location.toText).document_render rfl ofOutline

/-- Every text names a normal location, and the normal locations are those that are read back
from their text form.  So a location is the same after it was written as a string and read, and
two texts name the same location if the text forms are the same. -/
theorem determined_by_text (text : String) :
    (ofText text).Normal ∧
    (∀ location, location.Normal <-> ofText location.toText = location) ∧
    ofText (ofText text).toText = ofText text ∧
    ofJson (ofText text).toJson = .ok (ofText text) ∧
    read (ofText text).toJson.render = .ok (ofText text) ∧
    ∀ other, (ofText text).toText = (ofText other).toText <-> ofText text = ofText other := by
  have back := ofText_toText_ofText text
  refine ⟨normal_ofText text, normal_iff, back, ?_, ?_, fun other => ⟨fun same => ?_, fun same => ?_⟩⟩
  · exact congrArg Except.ok back
  · rw [read_render, back]
  · rw [← back, same, ofText_toText_ofText]
  · rw [same]

/-- The default namespace is written out, and the second colon is part of the path. -/
example : (ofText ":A:b").toText = "minecraft:a:b" ∧ ofText ":A:b" = ofText "Minecraft:a:B" := by
  decide +kernel

end Location
end ItemModels
