import ItemModels.Json.Fault

namespace ItemModels

/-!
Model files: JSON documents that list the overrides of an item model.

A model file is an object whose member `overrides`, if it has one, is an array of
entries.  An entry has the members `predicate`, an object, and `model`, a string.
Other members of both are passed over.  Both may also be written as the array of
their fields.
-/

/-- An override as a model file writes it. -/
structure Entry where
  /-- The members of the `predicate` object, as they are written. -/
  written : List (String × Json)
  model : String

namespace Entry

/-- The members of the `predicate` object, each name once. -/
def members (entry : Entry) : List (String × Json) :=
  Json.membersOf entry.written

/-- The record as messages name it. -/
def shape : Json.Shape := .record "OverrideEntry"

/-- The fields that were read so far. -/
structure Fields where
  written : Option (List (String × Json))
  model : Option String

open Json (Outline Fault Mismatch)

def Fields.complete : Fields -> Except Fault Entry
  | ⟨none, _⟩ => .error (.mismatch (.missingField "predicate"))
  | ⟨some _, none⟩ => .error (.mismatch (.missingField "model"))
  | ⟨some written, some model⟩ => .ok ⟨written, model⟩

/-- Reads the members of an entry; `depth` containers may nest inside it. -/
def readMembers (depth : Nat) (fields : Fields) :
    List (Option String × Outline) -> Except Fault Fields
  | [] => .ok fields
  | (name?, value) :: rest =>
      match name? with
      | none => .error .malformed
      | some "predicate" =>
          if fields.written.isSome then .error (.mismatch (.duplicateField "predicate"))
          else do
            let written <- value.members depth
            readMembers depth { fields with written := some written } rest
      | some "model" =>
          if fields.model.isSome then .error (.mismatch (.duplicateField "model"))
          else do
            let model <- value.text
            readMembers depth { fields with model := some model } rest
      | some _ => do
          value.skip
          readMembers depth fields rest

/-- Reads an entry; `depth` containers may nest inside it. -/
def ofOutline (depth : Nat) : Outline -> Except Fault Entry
  | .object members closed => do
      let fields <- readMembers depth ⟨none, none⟩ members
      Outline.close closed
      fields.complete
  | .array items closed =>
      match items with
      | [] => do
          Outline.close closed
          .error (.mismatch (.tooShort 0 shape 2))
      | [first] => do
          let _ <- first.members depth
          Outline.close closed
          .error (.mismatch (.tooShort 1 shape 2))
      | first :: second :: rest => do
          let written <- first.members depth
          let model <- second.text
          Outline.close (closed && rest.isEmpty)
          .ok ⟨written, model⟩
  | other => .error (other.fault shape)

def listOfOutline (depth : Nat) : Outline -> Except Fault (List Entry)
  | .array items closed => do
      let entries <- items.mapM (ofOutline depth)
      Outline.close closed
      .ok entries
  | other => .error (other.fault .sequence)

end Entry

namespace ModelDocument

open Json (Outline Fault Mismatch)

def shape : Json.Shape := .record "ModelFile"

/-- The depth that is left inside an entry: the file, the array and the entry itself are
containers. -/
def entryDepth : Nat := Json.depthLimit - 3

/-- Reads the members of a model file: the entries, if there was a member for them. -/
def readMembers (entries : Option (List Entry)) :
    List (Option String × Outline) -> Except Fault (Option (List Entry))
  | [] => .ok entries
  | (name?, value) :: rest =>
      match name? with
      | none => .error .malformed
      | some "overrides" =>
          if entries.isSome then .error (.mismatch (.duplicateField "overrides"))
          else do
            let found <- Entry.listOfOutline entryDepth value
            readMembers (some found) rest
      | some _ => do
          value.skip
          readMembers entries rest

def ofOutline : Outline -> Except Fault (List Entry)
  | .object members closed => do
      let entries <- readMembers none members
      Outline.close closed
      .ok (entries.getD [])
  | .array items closed =>
      match items with
      | [] => do
          Outline.close closed
          .ok []
      | first :: rest => do
          let entries <- Entry.listOfOutline entryDepth first
          Outline.close (closed && rest.isEmpty)
          .ok entries
  | other => .error (other.fault shape)

def read (text : String) : Except Fault (List Entry) :=
  Json.document ofOutline text

end ModelDocument
end ItemModels
