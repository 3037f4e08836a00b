import ItemModels.Json.Basic

namespace ItemModels
namespace Json

/-!
The compact text of a JSON value, without blanks between its parts.

Inside strings only the quote, the backslash and the control characters below
the space are escaped, five of them by a letter.
-/

def hexDigit (value : Nat) : Char :=
  Nat.digitChar value

/-- How one character is written inside a string. -/
def escapedChar (letter : Char) : List Char :=
  if letter == '"' then ['\\', '"']
  else if letter == '\\' then ['\\', '\\']
  else if letter == '\x08' then ['\\', 'b']
  else if letter == '\x0c' then ['\\', 'f']
  else if letter == '\n' then ['\\', 'n']
  else if letter == '\r' then ['\\', 'r']
  else if letter == '\t' then ['\\', 't']
  else if letter.toNat < 0x20 then
    ['\\', 'u', '0', '0', hexDigit (letter.toNat / 16), hexDigit (letter.toNat % 16)]
  else [letter]

/-- A string between quotes. -/
def stringText (text : String) : String :=
  String.ofList ('"' :: (text.toList.flatMap escapedChar ++ ['"']))

mutual

/-- The compact text of a value. -/
def render : Json -> String
  | .null => "null"
  | .bool value => if value then "true" else "false"
  | .number value => value.literal
  | .string text => stringText text
  | .array items => "[" ++ renderItems items ++ "]"
  | .object members => "\x7b" ++ renderMembers members ++ "\x7d"

def renderItems : List Json -> String
  | [] => ""
  | [item] => render item
  | item :: rest => render item ++ "," ++ renderItems rest

def renderMembers : List (String × Json) -> String
  | [] => ""
  | [(name, value)] => stringText name ++ ":" ++ render value
  | (name, value) :: rest => stringText name ++ ":" ++ render value ++ "," ++ renderMembers rest

end

end Json
end ItemModels
