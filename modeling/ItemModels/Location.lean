import ItemModels.Text.Ascii

namespace ItemModels

/-!
Locations: the names of models, items, properties and requirements.

A location is written `namespace:path`.  Its text is split at the first colon,
so a path may hold colons and a namespace never does; a missing or empty
namespace stands for the default one.  Both halves are kept in small letters.
-/

/-- A namespace and a path. -/
structure Location where
  space : String
  path : String
deriving DecidableEq, Repr

namespace Location

/-- The namespace of a text that names none. -/
def defaultSpace : String := "minecraft"

/-- The parts of a text before and after its first colon. -/
def splitColon? : List Char -> Option (List Char × List Char)
  | [] => none
  | letter :: rest =>
      if letter = ':' then some ([], rest)
      else (splitColon? rest).map fun (before, after) => (letter :: before, after)

/-- The location that a text names. -/
def ofText (text : String) : Location :=
  match splitColon? text.toList with
  | none => ⟨defaultSpace, Text.lowered text⟩
  | some ([], path) => ⟨defaultSpace, Text.lowered (String.ofList path)⟩
  | some (space, path) =>
      ⟨Text.lowered (String.ofList space), Text.lowered (String.ofList path)⟩

/-- The text form, which always names the namespace. -/
def toText (location : Location) : String :=
  location.space ++ ":" ++ location.path

/-- The order of locations: by namespace, then by path, each by code points. -/
def precedes (left right : Location) : Bool :=
  if left.space = right.space then decide (left.path <= right.path)
  else decide (left.space <= right.space)

def sorted (locations : List Location) : List Location :=
  locations.mergeSort precedes

/-- The locations without repetitions, each in its first place. -/
def distinct (locations : List Location) : List Location :=
  locations.eraseDups

end Location
end ItemModels
