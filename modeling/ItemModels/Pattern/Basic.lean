import ItemModels.Text.CharClass

namespace ItemModels

/-!
Text patterns and how they match.

A pattern is a tree.  It is matched by following sets of positions: `reach` gives
the positions at which a match can end when it starts at one of the given
positions.  Following sets instead of single positions needs no choice between
alternatives and no backtracking, and a repetition is finished after as many
rounds as the text has positions, because by then the set no longer changes.
-/

/-- A place between two characters.  Words are those of ASCII if `ascii`. -/
inductive Edge where
  | textStart
  | textEnd
  | lineStart
  | lineEnd
  /-- Like `lineStart`, where a carriage return also ends a line. -/
  | returnLineStart
  /-- Like `lineEnd`, where a carriage return also ends a line. -/
  | returnLineEnd
  | wordEdge (ascii : Bool)
  | noWordEdge (ascii : Bool)
  | wordStart (ascii : Bool)
  | wordEnd (ascii : Bool)
  | halfWordStart (ascii : Bool)
  | halfWordEnd (ascii : Bool)
deriving DecidableEq, Repr

namespace Edge

/-- Whether a neighbour exists and belongs to a word. -/
def inWord (ascii : Bool) : Option Char -> Bool
  | some letter => (if ascii then Text.CharClass.asciiWord else Text.CharClass.word).has letter
  | none => false

/-- Whether the place between two neighbours is such an edge. -/
def holds (edge : Edge) (before after : Option Char) : Bool :=
  match edge with
  | .textStart => before.isNone
  | .textEnd => after.isNone
  | .lineStart => before.isNone || before == some '\n'
  | .lineEnd => after.isNone || after == some '\n'
  | .returnLineStart =>
      before.isNone || before == some '\n' || (before == some '\r' && after != some '\n')
  | .returnLineEnd =>
      after.isNone || after == some '\r' || (after == some '\n' && before != some '\r')
  | .wordEdge ascii => inWord ascii before != inWord ascii after
  | .noWordEdge ascii => inWord ascii before == inWord ascii after
  | .wordStart ascii => !inWord ascii before && inWord ascii after
  | .wordEnd ascii => inWord ascii before && !inWord ascii after
  | .halfWordStart ascii => !inWord ascii before
  | .halfWordEnd ascii => !inWord ascii after

end Edge

inductive Pattern where
  | empty
  | char (set : CharSet)
  | border (edge : Edge)
  | sequence (first second : Pattern)
  | choice (first second : Pattern)
  /-- At least `least` times, and at most `most` times if there is a bound. -/
  | repeated (body : Pattern) (least : Nat) (most : Option Nat)

namespace Pattern

def inOrder (parts : List Pattern) : Pattern :=
  match parts with
  | [] => .empty
  | [part] => part
  | part :: rest => .sequence part (inOrder rest)

/-- The pattern that matches where one of the given patterns does, the first one being
there in any case. -/
def oneOf (first : Pattern) : List Pattern -> Pattern
  | [] => first
  | second :: rest => .choice first (oneOf second rest)

def before? (text : Array Char) (position : Nat) : Option Char :=
  if position = 0 then none else text[position - 1]?

def iterate (step : List Nat -> List Nat) : Nat -> List Nat -> List Nat
  | 0, positions => positions
  | count + 1, positions => iterate step count (step positions)

/-- Adds to the positions seen so far what up to `count` further steps from the last new
ones reach. -/
def spread (step : List Nat -> List Nat) : Nat -> List Nat -> List Nat -> List Nat
  | 0, seen, _ => seen
  | count + 1, seen, last =>
      let new := (step last).filter fun position => !seen.contains position
      if new.isEmpty then seen else spread step count (seen ++ new) new

/-- The positions at which a match can end that starts at one of the given positions. -/
def reach (text : Array Char) : Pattern -> List Nat -> List Nat
  | .empty, starts => starts
  | .char set, starts =>
      starts.filterMap fun position =>
        match text[position]? with
        | some letter => if set.has letter then some (position + 1) else none
        | none => none
  | .border edge, starts =>
      starts.filter fun position => edge.holds (before? text position) text[position]?
  | .sequence first second, starts => reach text second (reach text first starts)
  | .choice first second, starts =>
      let ends := reach text first starts
      ends ++ (reach text second starts).filter fun position => !ends.contains position
  | .repeated body least most, starts =>
      let rounds := text.size + 1
      let needed := iterate (reach text body) (min least rounds) starts
      let further := match most with
        | some bound => min (bound - least) rounds
        | none => rounds
      spread (reach text body) further needed needed

/-- Whether the pattern matches somewhere in a text. -/
def occursIn (pattern : Pattern) (text : String) : Bool :=
  let letters := text.toList.toArray
  !(reach letters pattern (List.range (letters.size + 1))).isEmpty

end Pattern
end ItemModels
