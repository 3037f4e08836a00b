import ItemModels.Json.Token

namespace ItemModels
namespace Json

/-!
The outline of a JSON text: the text read as far as it is well formed.

A text that breaks off in the middle still has an outline.  Each array and each
object holds the parts that were read and says whether its closing bracket was
reached, and `broken` stands where a value was due and none was found.  A reader
of a document walks the outline in the order of the text, so that of a wrong
shape and a malformed text it reports what comes first.

Reading keeps the open containers on a stack, so that deep nesting costs nothing.
-/

/-- A JSON text as far as it is well formed. -/
inductive Outline where
  | broken
  | null
  | bool (value : Bool)
  | number (value : Option JsonNumber)
  | string (text : Option String)
  | array (items : List Outline) (closed : Bool)
  | object (members : List (Option String × Outline)) (closed : Bool)

/-- A container that is not closed yet.  Its parts are in reverse order. -/
inductive OpenPart where
  | array (done : List Outline)
  | object (done : List (Option String × Outline))
  /-- An object whose last name still lacks its value. -/
  | member (done : List (Option String × Outline)) (name : Option String)

/-- What may come next. -/
inductive Awaited where
  | value
  | firstValue
  | name
  | firstName
  | colon
  | separator
deriving DecidableEq

/-- The outcome of reading one token. -/
inductive Step where
  | going (stack : List OpenPart) (awaited : Awaited)
  | finished (outline : Outline)
  | stuck

namespace Outline

/-- Puts a complete value into the innermost open container. -/
def place (value : Outline) : List OpenPart -> Step
  | [] => .finished value
  | .array done :: stack => .going (.array (value :: done) :: stack) .separator
  | .member done name :: stack => .going (.object ((name, value) :: done) :: stack) .separator
  | .object _ :: _ => .stuck

def closeArray : List OpenPart -> Step
  | .array done :: stack => place (.array done.reverse true) stack
  | _ => .stuck

def closeObject : List OpenPart -> Step
  | .object done :: stack => place (.object done.reverse true) stack
  | _ => .stuck

/-- Reads a token where a value is due. -/
def startValue (stack : List OpenPart) : Token -> Step
  | .null => place .null stack
  | .bool value => place (.bool value) stack
  | .number value => place (.number value) stack
  | .string text => place (.string text) stack
  | .openArray => .going (.array [] :: stack) .firstValue
  | .openObject => .going (.object [] :: stack) .firstName
  | _ => .stuck

/-- Reads a token where the name of a member is due. -/
def startMember : List OpenPart -> Token -> Step
  | .object done :: stack, .string name => .going (.member done name :: stack) .colon
  | _, _ => .stuck

/-- Reads a token after a part of a container. -/
def separate (stack : List OpenPart) : Token -> Step
  | .comma =>
      match stack with
      | .array _ :: _ => .going stack .value
      | .object _ :: _ => .going stack .name
      | _ => .stuck
  | .closeArray => closeArray stack
  | .closeObject => closeObject stack
  | _ => .stuck

def step (stack : List OpenPart) : Awaited -> Token -> Step
  | .value, token => startValue stack token
  | .firstValue, .closeArray => closeArray stack
  | .firstValue, token => startValue stack token
  | .name, token => startMember stack token
  | .firstName, .closeObject => closeObject stack
  | .firstName, token => startMember stack token
  | .colon, .colon => .going stack .value
  | .colon, _ => .stuck
  | .separator, token => separate stack token

/-- The outline of a text that breaks off inside the given containers, after a part that
broke off itself, if there is one. -/
def breakOff : Option Outline -> List OpenPart -> Outline
  | none, [] => .broken
  | some part, [] => part
  | part, .array done :: stack =>
      breakOff (some (.array (part.toList ++ done).reverse false)) stack
  | _, .object done :: stack => breakOff (some (.object done.reverse false)) stack
  | part, .member done name :: stack =>
      breakOff (some (.object ((name, part.getD .broken) :: done).reverse false)) stack

/-- Reads tokens up to the end of the outermost value; what is left comes second. -/
def build (stack : List OpenPart) (awaited : Awaited) : List Token -> Outline × List Token
  | [] => (breakOff none stack, [])
  | token :: rest =>
      match step stack awaited token with
      | .going deeper next => build deeper next rest
      | .finished outline => (outline, rest)
      | .stuck => (breakOff none stack, token :: rest)

/-- The outline of a text, and whether something other than space follows it. -/
def ofText (text : String) : Outline × Bool :=
  let (outline, rest) := build [] .value (tokensOf text.toList)
  (outline, !rest.isEmpty)

mutual

/-- Whether the text is well formed throughout.  This does not ask for values that can be
kept. -/
def wellFormed : Outline -> Bool
  | .broken => false
  | .array items closed => wellFormedItems items && closed
  | .object members closed => wellFormedMembers members && closed
  | _ => true

def wellFormedItems : List Outline -> Bool
  | [] => true
  | item :: rest => wellFormed item && wellFormedItems rest

def wellFormedMembers : List (Option String × Outline) -> Bool
  | [] => true
  | (_, value) :: rest => wellFormed value && wellFormedMembers rest

end

mutual

/-- The value, with at most `depth` containers inside one another.  A value is kept only
if it is well formed, its strings hold characters and its numbers are finite.  A
repeated name keeps its first place and takes its last value. -/
def keep? (depth : Nat) : Outline -> Option Json
  | .broken => none
  | .null => some .null
  | .bool value => some (.bool value)
  | .number value => value.map .number
  | .string text => text.map .string
  | .array items closed =>
      if depth = 0 || !closed then none else (keepItems? (depth - 1) items).map .array
  | .object members closed =>
      if depth = 0 || !closed then none
      else (keepMembers? (depth - 1) members).map fun written => .object (membersOf written)

def keepItems? (depth : Nat) : List Outline -> Option (List Json)
  | [] => some []
  | item :: rest => do
      let value <- keep? depth item
      let others <- keepItems? depth rest
      some (value :: others)

/-- The members as they are written. -/
def keepMembers? (depth : Nat) : List (Option String × Outline) -> Option (List (String × Json))
  | [] => some []
  | (name, value) :: rest => do
      let text <- name
      let kept <- keep? depth value
      let others <- keepMembers? depth rest
      some ((text, kept) :: others)

end

end Outline

/-- The value that a whole text writes, however deep it is. -/
def read? (text : String) : Option Json :=
  let (outline, trailing) := Outline.ofText text
  if trailing then none else outline.keep? text.length

end Json
end ItemModels
