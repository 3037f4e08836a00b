import ItemModels.Override.Namespaces
import ItemModels.Proofs.Json.CompactText

namespace ItemModels
namespace Namespaces

/-!
# Namespaces are read as they were written

The namespaces are written as an object with both members, also where there is no
older namespace.  Null is then written for it, and null is read as a member that
is there.  To leave the member out would be to ask for the standard older
namespace, so the two must not be confused.

The strings may have any characters.  What makes the text readable is that it
spells the outline below, and what makes the outline the same namespaces again is
that its members are the two fields.
-/

open Json (Outline Spells)

/-- What is written for an older namespace, or for none. -/
def legacyText : Option String -> String
  | some legacy => Json.stringText legacy
  | none => "null"

/-- The outline of what is written for an older namespace, or for none. -/
def legacyOutline : Option String -> Outline
  | some legacy => .string (some legacy)
  | none => .null

/-- The outline of the text of some namespaces. -/
def outline (namespaces : Namespaces) : Outline :=
  .object
    [(some "namespace", .string (some namespaces.main)),
      (some "legacy_namespace", legacyOutline namespaces.legacy)] true

theorem toText_eq (namespaces : Namespaces) :
    namespaces.toText = "\x7b\"namespace\":" ++ Json.stringText namespaces.main ++
      ",\"legacy_namespace\":" ++ legacyText namespaces.legacy ++ "\x7d" := by
  have first : "\x7b\"namespace\":" = "\x7b" ++ Json.stringText "namespace" ++ ":" := by
    decide +kernel
  have second : ",\"legacy_namespace\":" = "," ++ Json.stringText "legacy_namespace" ++ ":" := by
    decide +kernel
  rcases namespaces with ⟨main, legacy⟩
  rw [first, second, toText, toJson]
  cases legacy <;>
    simp only [Json.render, Json.renderMembers, legacyText, String.append_assoc]

theorem spells_toJson (namespaces : Namespaces) : Spells namespaces.toJson namespaces.outline := by
  rcases namespaces with ⟨main, legacy⟩
  cases legacy with
  | none => exact .object (.cons ⟨rfl, .string main⟩ (.cons ⟨rfl, .null⟩ .nil))
  | some legacy => exact .object (.cons ⟨rfl, .string main⟩ (.cons ⟨rfl, .string legacy⟩ .nil))

theorem wellFormed_outline (namespaces : Namespaces) : namespaces.outline.wellFormed = true := by
  rcases namespaces with ⟨main, legacy⟩
  cases legacy <;> rfl

theorem writtenBy_toText (namespaces : Namespaces) :
    namespaces.outline.WrittenBy namespaces.toText :=
  namespaces.spells_toJson.writtenBy namespaces.wellFormed_outline

/-- An older namespace is read where one is written, and none where null is. -/
theorem ofOutline_outline (namespaces : Namespaces) :
    ofOutline namespaces.outline = .ok namespaces := by
  rcases namespaces with ⟨main, legacy⟩
  cases legacy <;> rfl

/-- The text of some namespaces has both of them, with null for an older one that is absent, and
it is read as the same namespaces, so that every key is for the same. -/
theorem reads_back_written (namespaces : Namespaces) :
    namespaces.toText = "\x7b\"namespace\":" ++ Json.stringText namespaces.main ++
        ",\"legacy_namespace\":" ++ legacyText namespaces.legacy ++ "\x7d" ∧
      ofText namespaces.toText = .ok namespaces ∧
      ∃ back, ofText namespaces.toText = .ok back ∧ back.legacy = namespaces.legacy ∧
        ∀ key, back.role key = namespaces.role key := by
  have read : ofText namespaces.toText = .ok namespaces := by
    have outlined := ((Outline.writtenBy_iff _ _).mp namespaces.writtenBy_toText).2
    simp only [ofText, Json.document, outlined, ofOutline_outline, Bool.false_eq_true, if_false]
  exact ⟨namespaces.toText_eq, read, namespaces, read, rfl, fun key => rfl⟩

/-- A text without the member is read with the standard older namespace. -/
example : ofText "\x7b\"namespace\":\"mod\"\x7d" = .ok ⟨"mod", some "sti"⟩ := by decide +kernel

end Namespaces
end ItemModels
