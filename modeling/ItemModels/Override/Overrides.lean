import ItemModels.Override.Document
import ItemModels.Override.Selection

namespace ItemModels

/-!
The overrides of an item model.

They are made from model files or from requirements that a program states.  All
entries of a file are read before any rule is made, and the first rule that
cannot be made stops the work.
-/

/-- The rules of a model, in the order in which they are tried, and the namespaces under
which they were made. -/
structure Overrides where
  rules : List Rule
  namespaces : Namespaces

/-- Why overrides could not be loaded from a text. -/
inductive LoadFault where
  | json (fault : Json.Fault)
  | threshold (fault : ThresholdFault)
deriving DecidableEq, Repr

/-- Why a file could not be loaded. -/
inductive FileFault (Fault : Type) where
  | notFound
  | notText
  | content (fault : Fault)
deriving DecidableEq, Repr

/-- Reads the text of a file, which is absent or has bytes. -/
def decodeFile {Fault Value : Type} (read : String -> Except Fault Value) :
    Option ByteArray -> Except (FileFault Fault) Value
  | none => .error .notFound
  | some bytes =>
      match String.fromUTF8? bytes with
      | none => .error .notText
      | some text => (read text).mapError .content

namespace Overrides

/-- Makes a rule for each model with its requirements, in order. -/
def compileAll (namespaces : Namespaces) : List (String × Requirements) -> Logged (List Rule)
  | [] => .ok [] []
  | (model, requirements) :: rest =>
      (Rule.compile model requirements namespaces).bind fun rule =>
        (compileAll namespaces rest).bind fun rules => .ok [] (rule :: rules)

/-- Makes overrides from models with their requirements. -/
def build (namespaces : Namespaces) (stated : List (String × Requirements)) : Logged Overrides :=
  (compileAll namespaces stated).bind fun rules => .ok [] { rules, namespaces }

/-- The model and the requirements of an entry of a model file. -/
def stated (entry : Entry) : String × Requirements :=
  (entry.model, .ofMembers entry.members)

/-- Loads overrides from the text of a model file, with the log of making them. -/
def load (namespaces : Namespaces) (text : String) : Except LoadFault (Overrides × List Event) :=
  match ModelDocument.read text with
  | .error fault => .error (.json fault)
  | .ok entries =>
      let built := build namespaces (entries.map stated)
      match built.result with
      | .error fault => .error (.threshold fault)
      | .ok overrides => .ok (overrides, built.log)

def size (overrides : Overrides) : Nat := overrides.rules.length

def isEmpty (overrides : Overrides) : Bool := overrides.rules.isEmpty

def select (overrides : Overrides) (source : Attributes) : Option Selection :=
  (Rule.search overrides.rules source).selection

def model? (overrides : Overrides) (source : Attributes) : Option Location :=
  (overrides.select source).map Selection.model

def report (overrides : Overrides) (source : Attributes) : Report :=
  Rule.report overrides.rules source

def toText (overrides : Overrides) : String :=
  let tested := overrides.rules.filter fun rule => rule.test.isSome
  "OverrideList(" ++ overrides.rules.length.repr ++ " overrides, " ++ tested.length.repr ++
    " with extension predicates, namespace '" ++ overrides.namespaces.main ++ "')"

end Overrides
end ItemModels
