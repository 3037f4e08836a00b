import ItemModels.Json.Basic
import ItemModels.Location

namespace ItemModels

/-!
Requirements: the keys and values that an override states.

There is one entry for a key.  Stating a key again replaces its value and keeps
its place, so the entries stand in the order in which their keys were first
stated.
-/

/-- Keys and values, in the order in which the keys were first stated. -/
structure Requirements where
  entries : List (Location × Json)

namespace Requirements

def empty : Requirements := ⟨[]⟩

/-- The entries after a value is stated for a key. -/
def putEntry (key : Location) (value : Json) : List (Location × Json) -> List (Location × Json)
  | [] => [(key, value)]
  | (other, old) :: rest =>
      if other = key then (other, value) :: rest else (other, old) :: putEntry key value rest

/-- States a value for the key that a text names. -/
def put (requirements : Requirements) (key : String) (value : Json) : Requirements :=
  ⟨putEntry (Location.ofText key) value requirements.entries⟩

/-- States a lower bound for a property.  Infinities and what is not a number become null. -/
def putThreshold (requirements : Requirements) (key : String) (least : Binary .single) :
    Requirements :=
  requirements.put key (match JsonNumber.ofBinary? least with
    | some number => .number number
    | none => .null)

/-- The requirements that a sequence of keys and values states. -/
def ofMembers (members : List (String × Json)) : Requirements :=
  members.foldl (fun requirements member => requirements.put member.1 member.2) empty

def size (requirements : Requirements) : Nat := requirements.entries.length

def isEmpty (requirements : Requirements) : Bool := requirements.entries.isEmpty

end Requirements
end ItemModels
