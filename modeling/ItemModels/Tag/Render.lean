import ItemModels.Number.Shortest
import ItemModels.Tag.Basic
import ItemModels.Text.Quoted

namespace ItemModels
namespace Tag

/-!
The text form of tags.

A number is followed by a letter for its type, except for 32-bit words.  Strings
are quoted, while the names in a compound are not.  The children of a compound
are listed in the order of their names, so that the text does not show in which
order its entries came.
-/

/-- Adds a child to children in ascending order of their names; a name that is already
there stays as it is. -/
def insertNew (name text : String) : List (String × String) -> List (String × String)
  | [] => [(name, text)]
  | (other, shown) :: rest =>
      if name < other then (name, text) :: (other, shown) :: rest
      else if name = other then (other, shown) :: rest
      else (other, shown) :: insertNew name text rest

/-- Parts between brackets, with commas between them, after a mark for their type. -/
def bracketed (mark : String) (parts : List String) : String :=
  "[" ++ mark ++ String.intercalate "," parts ++ "]"

mutual

def render : Tag -> String
  | .stop => "END"
  | .byte value => value.toInt.repr ++ "b"
  | .short value => value.toInt.repr ++ "s"
  | .int value => value.toInt.repr
  | .long value => value.toInt.repr ++ "L"
  | .float value => value.plain ++ "f"
  | .double value => value.plain ++ "d"
  | .bytes values => bracketed "B;" (values.map fun value => value.toInt.repr)
  | .string text => Text.quoted text
  | .list items => bracketed "" (renderItems items)
  | .compound entries =>
      let children := (renderEntries entries).map fun (name, text) => name ++ ":" ++ text
      "\x7b" ++ String.intercalate "," children ++ "\x7d"
  | .ints values => bracketed "I;" (values.map fun value => value.toInt.repr)
  | .longs values => bracketed "L;" (values.map fun value => value.toInt.repr)
  | .unknown id => "<unknown type " ++ id.toNat.repr ++ ">"

def renderItems : List Tag -> List String
  | [] => []
  | item :: rest => render item :: renderItems rest

/-- The names and text forms of the children that entries make, in the order of their
names. -/
def renderEntries : List (String × Tag) -> List (String × String)
  | [] => []
  | (name, value) :: rest => insertNew name (render value) (renderEntries rest)

end

end Tag
end ItemModels
