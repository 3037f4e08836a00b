import ItemModels.Json.Fault
import ItemModels.Json.Render
import ItemModels.Location

namespace ItemModels

/-!
The namespaces under which an override states its tests.

One namespace has all the tests.  An older one, which may be switched off, has
only the test of the stack's size, and everything else under it is ignored.  Keys
of any other namespace are thresholds on properties of the item.  Namespaces are
compared without regard to the case of ASCII letters.
-/

/-- The namespaces of tests. -/
structure Namespaces where
  main : String
  legacy : Option String
deriving DecidableEq, Repr

/-- What a key of an override's requirements is for. -/
inductive KeyRole where
  | test
  | dropped
  | threshold
deriving DecidableEq, Repr

namespace Namespaces

/-- The namespaces in use unless others are named. -/
def standard : Namespaces := ⟨"ios", some "sti"⟩

/-- One namespace and no older one. -/
def only (main : String) : Namespaces := ⟨main, none⟩

def role (namespaces : Namespaces) (key : Location) : KeyRole :=
  if Text.sameLetters key.space namespaces.main then .test
  else
    match namespaces.legacy with
    | some legacy =>
        if Text.sameLetters key.space legacy then
          if Text.sameLetters key.path "stacking" then .test else .dropped
        else .threshold
    | none => .threshold

def statesTest (namespaces : Namespaces) (key : Location) : Bool :=
  namespaces.role key == .test

def toJson (namespaces : Namespaces) : Json :=
  .object
    [("namespace", .string namespaces.main),
     ("legacy_namespace", match namespaces.legacy with
       | some legacy => .string legacy
       | none => .null)]

/-- The compact JSON text. -/
def toText (namespaces : Namespaces) : String :=
  namespaces.toJson.render

def shape : Json.Shape := .record "SelectorConfig"

structure Fields where
  main : Option String
  legacy : Option (Option String)

/-- The namespaces that the fields give, the standard ones where a field is missing. -/
def Fields.complete (fields : Fields) : Namespaces :=
  { main := fields.main.getD standard.main
    legacy := fields.legacy.getD standard.legacy }

open Json (Outline Fault Mismatch)

/-- Reads the members of an object.  Other members are refused, and so is a second one of the
same name; both show as soon as the name is read. -/
def readMembers (fields : Fields) : List (Option String × Outline) -> Except Fault Fields
  | [] => .ok fields
  | (name?, value) :: rest =>
      match name? with
      | none => .error .malformed
      | some "namespace" =>
          if fields.main.isSome then .error (.mismatch (.duplicateField "namespace"))
          else do
            let main <- value.text
            readMembers { fields with main := some main } rest
      | some "legacy_namespace" =>
          if fields.legacy.isSome then .error (.mismatch (.duplicateField "legacy_namespace"))
          else do
            let legacy <- value.text?
            readMembers { fields with legacy := some legacy } rest
      | some other =>
          .error (.mismatch (.unknownField other ["namespace", "legacy_namespace"]))

/-- Reads the namespaces from an object, or from an array of its fields in order. -/
def ofOutline : Outline -> Except Fault Namespaces
  | .object members closed => do
      let fields <- readMembers ⟨none, none⟩ members
      Outline.close closed
      .ok fields.complete
  | .array [] closed => do
      Outline.close closed
      .ok standard
  | .array [first] closed => do
      let main <- first.text
      Outline.close closed
      .ok (Fields.complete ⟨some main, none⟩)
  | .array (first :: second :: rest) closed => do
      let main <- first.text
      let legacy <- second.text?
      Outline.close (closed && rest.isEmpty)
      .ok ⟨main, legacy⟩
  | other => .error (other.fault shape)

def ofText (text : String) : Except Fault Namespaces :=
  Json.document ofOutline text

end Namespaces
end ItemModels
