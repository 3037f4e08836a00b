import ItemModels.Json.Outline
import ItemModels.Text.Quoted

namespace ItemModels
namespace Json

/-!
Why a text does not hold a document of the wanted shape.

Either the text is malformed, or it is well formed up to a place where it has
the wrong shape.  A wrong shape is met where the offending value starts, but a
word, a number or a string is read to its end first.
-/

/-- The shapes that documents ask for. -/
inductive Shape where
  | sequence
  | map
  | text
  /-- A record, which may also be written as the sequence of its fields. -/
  | record (name : String)
deriving DecidableEq, Repr

namespace Shape

def words : Shape -> String
  | .sequence => "a sequence"
  | .map => "a map"
  | .text => "a string"
  | .record name => "struct " ++ name

end Shape

/-- How a document misses its shape. -/
inductive Mismatch where
  | wrongType (found : String) (wanted : Shape)
  | missingField (name : String)
  | duplicateField (name : String)
  | unknownField (name : String) (known : List String)
  | tooShort (length : Nat) (wanted : Shape) (fields : Nat)
deriving DecidableEq, Repr

namespace Mismatch

def marked (name : String) : String := "`" ++ name ++ "`"

def message : Mismatch -> String
  | .wrongType found wanted => "invalid type: " ++ found ++ ", expected " ++ wanted.words
  | .missingField name => "missing field " ++ marked name
  | .duplicateField name => "duplicate field " ++ marked name
  | .unknownField name known =>
      "unknown field " ++ marked name ++ ", expected " ++
        String.intercalate " or " (known.map marked)
  | .tooShort length wanted fields =>
      "invalid length " ++ length.repr ++ ", expected " ++ wanted.words ++ " with " ++
        fields.repr ++ " elements"

end Mismatch

/-- Why a text holds no document. -/
inductive Fault where
  | malformed
  | mismatch (reason : Mismatch)
deriving DecidableEq, Repr

def boolWords (value : Bool) : String :=
  "boolean " ++ Mismatch.marked (if value then "true" else "false")

def numberWords : JsonNumber -> String
  | .whole value => "integer " ++ Mismatch.marked value.repr
  | .real value => "floating point " ++ Mismatch.marked value.marked

def textWords (text : String) : String :=
  "string " ++ Text.quoted text

/-- A value in words, for a message about its type. -/
def words : Json -> String
  | .null => "null"
  | .bool value => boolWords value
  | .number value => numberWords value
  | .string text => textWords text
  | .array _ => "sequence"
  | .object _ => "map"

namespace Outline

/-- An outline in words, unless it stands for no value that can be named. -/
def words? : Outline -> Option String
  | .broken => none
  | .null => some "null"
  | .bool value => some (boolWords value)
  | .number value => value.map numberWords
  | .string text => text.map textWords
  | .array _ _ => some "sequence"
  | .object _ _ => some "map"

/-- The fault of an outline that does not have the wanted shape. -/
def fault (wanted : Shape) (outline : Outline) : Fault :=
  match outline.words? with
  | some found => .mismatch (.wrongType found wanted)
  | none => .malformed

def text (outline : Outline) : Except Fault String :=
  match outline with
  | .string (some text) => .ok text
  | other => .error (other.fault .text)

def text? (outline : Outline) : Except Fault (Option String) :=
  match outline with
  | .null => .ok none
  | other => other.text.map some

/-- Reads an object whose members are kept, in the order in which they are written. -/
def members (depth : Nat) (outline : Outline) : Except Fault (List (String × Json)) :=
  match outline with
  | .object members closed =>
      if depth = 0 || !closed then .error .malformed
      else
        match keepMembers? (depth - 1) members with
        | some written => .ok written
        | none => .error .malformed
  | other => .error (other.fault .map)

/-- Passes over a value that is not kept. -/
def skip (outline : Outline) : Except Fault Unit :=
  if outline.wellFormed then .ok () else .error .malformed

/-- Passes the end of a container. -/
def close (closed : Bool) : Except Fault Unit :=
  if closed then .ok () else .error .malformed

end Outline

/-- How deep the values of a document may nest, counted from its root. -/
def depthLimit : Nat := 127

/-- Reads a whole text as a document: its value decides, and then nothing may follow. -/
def document {Value : Type} (decode : Outline -> Except Fault Value) (text : String) :
    Except Fault Value :=
  let (outline, trailing) := Outline.ofText text
  match decode outline with
  | .error fault => .error fault
  | .ok value => if trailing then .error .malformed else .ok value

/-- Reads a value that is already in memory as a string. -/
def text (value : Json) : Except Fault String :=
  match value with
  | .string text => .ok text
  | other => .error (.mismatch (.wrongType other.words .text))

end Json
end ItemModels
