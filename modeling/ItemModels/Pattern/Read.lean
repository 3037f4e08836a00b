import ItemModels.Pattern.Bracket
import ItemModels.Pattern.Extent

namespace ItemModels
namespace Pattern

/-!
Reading pattern texts.

The groups that are open at a place are kept on a stack, together with the
options to which the text returns when they close.  Reading a part of a text
therefore does not depend on what stands around it, except for the innermost
open group and the options in force.

A text is refused when its groups or brackets do not close, when a repetition
has nothing to repeat or asks for more than its bound, when an escape or an
option has no meaning, when a part would match beyond ASCII under options that
forbid it, when two groups have one name, when parts nest deeper than
`depthLimit`, and when an automaton of the pattern has no room.
-/

/-- A pattern with its plan and the depth of the expression that wrote it. -/
structure Part where
  pattern : Pattern
  plan : Plan
  depth : Nat

namespace Part

/-- What matches nothing by itself. -/
def empty : Part := ⟨.empty, .empty, 0⟩

/-- One character of a set. -/
def ofSet (options : Options) (set : CharSet) (depth : Nat) : Part :=
  ⟨.char set, .ofSet options.ascii set, depth⟩

def ofEdge (edge : Edge) : Part := ⟨.border edge, .border edge, 0⟩

end Part

/-- An open group. -/
structure Group where
  /-- The number of the group, if it has one. -/
  number : Option Nat
  /-- The options outside the group. -/
  outside : Options
  /-- The alternatives that are complete, the last one first. -/
  alternatives : List Part
  /-- The parts of the current alternative, the last one first. -/
  parts : List Part
  /-- Whether the last part may be repeated. -/
  repeatable : Bool

namespace Group

def start (number : Option Nat) (outside : Options) : Group := ⟨number, outside, [], [], false⟩

def add (group : Group) (part : Part) : Group :=
  { group with parts := part :: group.parts, repeatable := true }

/-- Adds a part that matches nothing by itself and cannot be repeated. -/
def addSetting (group : Group) : Group :=
  { group with parts := .empty :: group.parts, repeatable := false }

def deepest (parts : List Part) : Nat :=
  (parts.map Part.depth).foldl max 0

/-- The parts of the current alternative as one. -/
def sequence (group : Group) : Part :=
  match group.parts with
  | [] => .empty
  | [part] => part
  | parts =>
      { pattern := .inOrder (parts.reverse.map Part.pattern)
        plan := .inOrder (parts.reverse.map Part.plan)
        depth := 1 + deepest parts }

/-- Ends the current alternative and starts the next one. -/
def nextAlternative (group : Group) : Group :=
  { group with
    alternatives := group.sequence :: group.alternatives, parts := [], repeatable := false }

/-- All that was read in the group. -/
def content (group : Group) : Part :=
  match group.nextAlternative.alternatives.reverse with
  | [] => .empty
  | [only] => only
  | first :: rest =>
      { pattern := .oneOf first.pattern (rest.map Part.pattern)
        plan := .oneOf ((first :: rest).map Part.plan)
        depth := 1 + deepest (first :: rest) }

/-- All that was read in the group, as a part of the group around it. -/
def closed (group : Group) : Part :=
  let content := group.content
  { content with
    plan := match group.number with
      | some number => .group number content.plan
      | none => content.plan
    depth := 1 + content.depth }

/-- Repeats the last part. -/
def repeatLast? (group : Group) (least : Nat) (most : Option Nat) (reluctant : Bool) :
    Option Group :=
  match group.repeatable, group.parts with
  | true, part :: others =>
      let again : Part :=
        { pattern := .repeated part.pattern least most
          plan := .times part.plan least most reluctant
          depth := 1 + part.depth }
      some { group with parts := again :: others }
  | _, _ => none

end Group

/-- The state of reading. -/
structure Reader where
  options : Options
  innermost : Group
  /-- The groups around the innermost one, from the inside. -/
  around : List Group
  /-- The number of groups so far that have one. -/
  groups : Nat
  /-- The names of groups so far. -/
  names : List (List Char)

namespace Reader

def start : Reader := ⟨.none, .start none .none, [], 0, []⟩

def add (reader : Reader) (part : Part) : Reader :=
  { reader with innermost := reader.innermost.add part }

/-- Opens a group in which options are changed. -/
def openGroup (reader : Reader) (settings : List (Char × Bool)) : Reader :=
  { reader with
    options := reader.options.update settings
    innermost := .start none reader.options
    around := reader.innermost :: reader.around }

def openNumbered (reader : Reader) : Reader :=
  { reader with
    innermost := .start (some (reader.groups + 1)) reader.options
    around := reader.innermost :: reader.around
    groups := reader.groups + 1 }

def closeGroup? (reader : Reader) : Option Reader :=
  match reader.around with
  | [] => none
  | outer :: around =>
      some
        { reader with
          options := reader.innermost.outside
          innermost := outer.add reader.innermost.closed
          around }

/-- The pattern that was read, if every group is closed. -/
def finish? (reader : Reader) : Option Part :=
  match reader.around with
  | [] => some reader.innermost.content
  | _ => none

end Reader

/-- Repetitions may not be written with numbers beyond this. -/
def countLimit : Nat := 4294967295

/-- How deep the parts of a pattern may nest. -/
def depthLimit : Nat := 250

/-- Reads a number inside the braces of a repetition. -/
def readCount (options : Options) (letters : List Char) : Option (Nat × List Char) :=
  let isSpace : Char -> Bool := fun letter => Text.CharClass.space.has letter
  let (digits, rest) := options.take Char.isDigit false (letters.dropWhile isSpace)
  let value := Text.digitsValue digits
  if digits.isEmpty || decide (countLimit < value) then none else some (value, rest.dropWhile isSpace)

/-- Reads a repetition after its opening brace. -/
def readRepetition (options : Options) (letters : List Char) :
    Option (Nat × Option Nat × List Char) := do
  let (least, rest) <- readCount options (options.advance letters)
  match rest with
  | '\x7d' :: after => some (least, some least, after)
  | ',' :: others =>
      match options.advance others with
      | '\x7d' :: after => some (least, none, after)
      | upper => do
          let (most, last) <- readCount options upper
          match last with
          | '\x7d' :: after => if least <= most then some (least, some most, after) else none
          | _ => none
  | _ => none

/-- Passes the mark that a repetition is not as greedy as the others. -/
def dropMark : List Char -> Bool × List Char
  | '?' :: rest => (true, rest)
  | letters => (false, letters)

/-- Characters of the name of a group; the first one is more restricted. -/
def isNameChar (first : Bool) (letter : Char) : Bool :=
  if first then letter == '_' || Text.CharClass.alphabetic.has letter
  else
    letter == '_' || letter == '.' || letter == '[' || letter == ']' ||
      Text.CharClass.alphanumeric.has letter

/-- Reads the name of a group up to its closing angle bracket. -/
def readName (letters : List Char) : Option (List Char × List Char) :=
  let name := letters.takeWhile fun letter => letter != '>'
  match name, letters.dropWhile fun letter => letter != '>' with
  | first :: others, '>' :: after =>
      if isNameChar true first && others.all (isNameChar false) then some (name, after) else none
  | _, _ => none

def readNamedGroup (reader : Reader) (letters : List Char) : Option (Reader × List Char) := do
  let (name, after) <- readName letters
  if reader.names.contains name then none
  else some ({ reader.openNumbered with names := name :: reader.names }, after)

/-- Reads what follows an opening parenthesis. -/
def readGroup (reader : Reader) (letters : List Char) : Option (Reader × List Char) :=
  match reader.options.advance letters with
  | '?' :: '=' :: _ => none
  | '?' :: '!' :: _ => none
  | '?' :: '<' :: '=' :: _ => none
  | '?' :: '<' :: '!' :: _ => none
  | '?' :: 'P' :: '<' :: rest => readNamedGroup reader rest
  | '?' :: '<' :: rest => readNamedGroup reader rest
  | '?' :: rest =>
      match readSettings [] false false rest with
      | none => none
      | some (settings, ')', after) =>
          if settings.isEmpty then none
          else some
            ({ reader with
               options := reader.options.update settings
               innermost := reader.innermost.addSetting }, after)
      | some (settings, _, after) => some (reader.openGroup settings, after)
  | rest => some (reader.openNumbered, rest)

/-- Repeats the last part of the innermost group. -/
def repeatLast (reader : Reader) (least : Nat) (most : Option Nat) (after : List Char) :
    Option (Reader × List Char) :=
  let (marked, rest) := dropMark after
  (reader.innermost.repeatLast? least most (marked != reader.options.reluctant)).map fun group =>
    ({ reader with innermost := group }, rest)

/-- The part that an atom is. -/
def Atom.part (options : Options) : Atom -> Part
  | .letter plain => .ofSet options (options.fold (.single plain)) 0
  | .set members => .ofSet options members 0
  | .edge place => .ofEdge place

/-- Reads one part, which starts with the given character. -/
def readPart (reader : Reader) (letter : Char) (rest : List Char) : Option (Reader × List Char) :=
  match letter with
  | '(' => readGroup reader rest
  | ')' => reader.closeGroup?.map fun closed => (closed, rest)
  | '|' => some ({ reader with innermost := reader.innermost.nextAlternative }, rest)
  | '[' =>
      (readBracket reader.options rest).map fun (content, after) =>
        (reader.add (.ofSet reader.options content.set content.depth), after)
  | '?' => repeatLast reader 0 (some 1) rest
  | '*' => repeatLast reader 0 none rest
  | '+' => repeatLast reader 1 none rest
  | '\x7b' =>
      (readRepetition reader.options rest).bind fun (least, most, after) =>
        repeatLast reader least most (reader.options.advance after)
  | '.' =>
      reader.options.dot?.map fun set => (reader.add (.ofSet reader.options set 0), rest)
  | '^' => some (reader.add (.ofEdge reader.options.caret), rest)
  | '$' => some (reader.add (.ofEdge reader.options.dollar), rest)
  | '\\' =>
      (readEscape reader.options rest).map fun (atom, after) =>
        (reader.add (atom.part reader.options), after)
  | plain => some (reader.add (Atom.part reader.options (.letter plain)), rest)

/-- Reads on to the end of the text.  Every round takes a character, so that the length of
the text bounds their number. -/
def readFrom : Nat -> Reader -> List Char -> Option Reader
  | rounds, reader, letters =>
      match reader.options.advance letters, rounds with
      | [], _ => some reader
      | _, 0 => none
      | letter :: rest, rounds + 1 =>
          match readPart reader letter rest with
          | none => none
          | some (next, after) => readFrom rounds next after

def read? (text : String) : Option Pattern :=
  let letters := text.toList
  match (readFrom letters.length .start letters).bind Reader.finish? with
  | none => none
  | some part =>
      if depthLimit < part.depth || !part.plan.fits then none
      else some part.pattern

/-- The pattern of whole names: the text stands in a group between the start and the end
of the name.  A text may close that group, and then its parts have only one of the two
ends each. -/
def wholeName? (text : String) : Option Pattern :=
  read? ("^(?:" ++ text ++ ")$")

end Pattern
end ItemModels
