import ItemModels.Number.Shortest

namespace ItemModels

/-!
JSON values.

The members of an object keep their order.  A number is whole when its literal
has neither point nor exponent and fits a 64-bit word, signed or unsigned;
every other number is a 64-bit binary number.
-/

/-- A number of a JSON text. -/
inductive JsonNumber where
  | whole (value : Int)
  | real (value : Binary .double)
deriving DecidableEq

namespace JsonNumber

/-- The number as a 64-bit word.  Unsigned words beyond the signed range wrap, and a
fractional number loses its fraction and is held in range. -/
def toInt64 : JsonNumber -> Int64
  | .whole value => Int64.ofInt value
  | .real value => value.toInt64

def toDouble : JsonNumber -> Binary .double
  | .whole value => Binary.ofInt .double value
  | .real value => value

/-- The number as a 32-bit binary number, reached through the 64-bit one. -/
def toSingle (number : JsonNumber) : Binary .single :=
  number.toDouble.convert .single

def literal : JsonNumber -> String
  | .whole value => value.repr
  | .real .nan => "null"
  | .real (.infinite _) => "null"
  | .real value => value.marked

/-- A binary number as a number of a text, which cannot hold infinities and what is not a
number. -/
def ofDouble? : Binary .double -> Option JsonNumber
  | .finite negative units held => some (.real (.finite negative units held))
  | _ => none

def ofBinary? {format : Format} (value : Binary format) : Option JsonNumber :=
  ofDouble? (value.convert .double)

end JsonNumber

inductive Json where
  | null
  | bool (value : Bool)
  | number (value : JsonNumber)
  | string (value : String)
  | array (items : List Json)
  | object (members : List (String × Json))

namespace Json

def ofInt (value : Int) : Json := .number (.whole value)

def isNull : Json -> Bool
  | .null => true
  | _ => false

def toInt64? : Json -> Option Int64
  | .number value => some value.toInt64
  | _ => none

def toText? : Json -> Option String
  | .string text => some text
  | _ => none

/-- The text of a string, or the texts of an array that holds only strings. -/
def toTexts? : Json -> Option (List String)
  | .string text => some [text]
  | .array items => items.mapM toText?
  | _ => none

/-- Puts a member among others: a name that is already there keeps its place and takes the
new value. -/
def putMember (name : String) (value : Json) : List (String × Json) -> List (String × Json)
  | [] => [(name, value)]
  | (other, old) :: rest =>
      if other = name then (name, value) :: rest else (other, old) :: putMember name value rest

/-- The members that remain of a written sequence, each name in its first place and with
its last value. -/
def membersOf (written : List (String × Json)) : List (String × Json) :=
  written.foldl (fun members member => putMember member.1 member.2 members) []

def member? (value : Json) (name : String) : Option Json :=
  match value with
  | .object members => (members.find? fun member => member.1 == name).map Prod.snd
  | _ => none

end Json
end ItemModels
