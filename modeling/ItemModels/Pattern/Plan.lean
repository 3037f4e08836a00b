import ItemModels.Pattern.Basic
import ItemModels.Text.Interval

namespace ItemModels
namespace Pattern

/-!
Plans of automata.

A plan is a pattern in the simplest equivalent form that its parts allow, and the
automaton of a pattern is laid out from its plan.  Neighbouring characters are one
text, a choice between characters or sets is one set, and what all branches of a
choice start with stands in front of it.  Repeating what takes no characters more
than once changes nothing and is left out.

In contrast to a pattern, a plan knows its groups and whether a repetition is
reluctant.  Neither is seen by a match, but groups take room in the automaton, and
two branches start alike only if both agree.
-/

/-- The plan of an automaton. -/
inductive Plan where
  | empty
  /-- One character after another. -/
  | literal (letters : List Char)
  /-- One character, none if there are no intervals.  A set of ASCII is not the same as one
  of all characters with the same members. -/
  | set (ascii : Bool) (members : List Interval)
  | border (edge : Edge)
  | repeated (body : Plan) (least : Nat) (most : Option Nat) (reluctant : Bool)
  /-- The group with a number. -/
  | group (number : Nat) (body : Plan)
  | sequence (parts : List Plan)
  | choice (branches : List Plan)

namespace Plan

mutual

def same : Plan -> Plan -> Bool
  | .empty, .empty => true
  | .literal left, .literal right => left == right
  | .set ascii left, .set ascii' right => ascii == ascii' && left == right
  | .border left, .border right => left == right
  | .repeated left least most reluctant, .repeated right least' most' reluctant' =>
      same left right && least == least' && most == most' && reluctant == reluctant'
  | .group left body, .group right body' => left == right && same body body'
  | .sequence left, .sequence right => sameAll left right
  | .choice left, .choice right => sameAll left right
  | _, _ => false

def sameAll : List Plan -> List Plan -> Bool
  | [], [] => true
  | left :: lefts, right :: rights => same left right && sameAll lefts rights
  | _, _ => false

end

mutual

/-- Whether the plan only matches the empty text and, unlike an empty set, may match it. -/
def isVoid : Plan -> Bool
  | .empty => true
  | .literal letters => letters.isEmpty
  | .set _ _ => false
  | .border _ => true
  | .repeated body _ _ _ => isVoid body
  | .group _ body => isVoid body
  | .sequence parts => allVoid parts
  | .choice branches => allVoid branches

def allVoid : List Plan -> Bool
  | [] => true
  | plan :: rest => isVoid plan && allVoid rest

end

mutual

/-- The number of characters that a match takes at least, as far as every part of the plan
has a match. -/
def shortest? : Plan -> Option Nat
  | .empty => some 0
  | .literal letters => some letters.length
  | .set _ members => if members.isEmpty then none else some 1
  | .border _ => some 0
  | .repeated body least _ _ => (shortest? body).map fun length => length * least
  | .group _ body => shortest? body
  | .sequence parts => shortestSum? parts
  | .choice branches => shortestOf? branches

/-- The sum over the parts of a sequence. -/
def shortestSum? : List Plan -> Option Nat
  | [] => some 0
  | plan :: rest =>
      match shortest? plan, shortestSum? rest with
      | some length, some others => some (length + others)
      | _, _ => none

/-- The least over the branches of a choice. -/
def shortestOf? : List Plan -> Option Nat
  | [] => none
  | [plan] => shortest? plan
  | plan :: rest =>
      match shortest? plan, shortestOf? rest with
      | some length, some others => some (min length others)
      | _, _ => none

end

/-- Whether every match takes a character. -/
def takesSome (plan : Plan) : Bool :=
  match plan.shortest? with
  | some length => decide (0 < length)
  | none => false

mutual

/-- Whether every match starts at an edge, or ends at it if `backward`. -/
def boundTo (edge : Edge) (backward : Bool) : Plan -> Bool
  | .empty => false
  | .literal _ => false
  | .set _ _ => false
  | .border place => place == edge
  | .repeated body least _ _ => decide (0 < least) && boundTo edge backward body
  | .group _ body => boundTo edge backward body
  | .sequence parts => if backward then lastBound edge parts else firstBound edge parts
  | .choice branches => allBound edge backward branches

/-- Whether one of the parts before the first that may take characters, or that part
itself, is bound. -/
def firstBound (edge : Edge) : List Plan -> Bool
  | [] => false
  | plan :: rest => boundTo edge false plan || (isVoid plan && firstBound edge rest)

/-- Whether one of the parts after the last that may take characters, or that part itself,
is bound. -/
def lastBound (edge : Edge) : List Plan -> Bool
  | [] => false
  | plan :: rest => lastBound edge rest || (allVoid rest && boundTo edge true plan)

def allBound (edge : Edge) (backward : Bool) : List Plan -> Bool
  | [] => true
  | plan :: rest => boundTo edge backward plan && allBound edge backward rest

end

/-- The plan of one character out of a set.  There is one plan of no character. -/
def ofIntervals (ascii : Bool) (members : List Interval) : Plan :=
  match members with
  | [] => .set false []
  | [only] =>
      if only.first = only.last then .literal [Char.ofNat only.first] else .set ascii members
  | _ => .set ascii members

/-- The plan of one character out of a set. -/
def ofSet (ascii : Bool) (set : CharSet) : Plan :=
  ofIntervals ascii set.scalars

/-- The parts that a plan puts into a sequence around it. -/
def parts : Plan -> List Plan
  | .empty => []
  | .sequence parts => parts
  | plan => [plan]

/-- The branches that a plan puts into a choice around it. -/
def branches : Plan -> List Plan
  | .choice branches => branches
  | plan => [plan]

/-- Makes neighbouring texts one. -/
def joinLiterals : List Plan -> List Plan
  | [] => []
  | .literal letters :: rest =>
      match joinLiterals rest with
      | .literal others :: after => .literal (letters ++ others) :: after
      | after => .literal letters :: after
  | plan :: rest => plan :: joinLiterals rest

/-- One plan after another. -/
def inOrder (plans : List Plan) : Plan :=
  match joinLiterals (plans.flatMap parts) with
  | [] => .empty
  | [plan] => plan
  | several => .sequence several

/-- The code point of a text of one character. -/
def letter? : Plan -> Option Interval
  | .literal [letter] => some ⟨letter.toNat, letter.toNat⟩
  | _ => none

def members? : Plan -> Option (List Interval)
  | .set _ members => some members
  | _ => none

/-- The set that a choice between single characters or between sets comes to. -/
def merged? (branches : List Plan) : Option Plan :=
  match branches.mapM letter?, branches.mapM members? with
  | some letters, _ => some (ofIntervals false (Interval.normalize letters))
  | none, some sets => some (ofIntervals false (Interval.normalize sets.flatten))
  | none, none => none

/-- A choice from which nothing can be put in front. -/
def choiceOf (branches : List Plan) : Plan :=
  match branches with
  | [plan] => plan
  | _ => (merged? branches).getD (.choice branches)

/-- What two lists of plans start with. -/
def commonStart : List Plan -> List Plan -> List Plan
  | left :: lefts, right :: rights => if same left right then left :: commonStart lefts rights else []
  | _, _ => []

def sequence? : Plan -> Option (List Plan)
  | .sequence parts => some parts
  | _ => none

/-- What all branches start with, if every one of them is a sequence. -/
def shared (branches : List Plan) : List Plan :=
  match branches.mapM sequence? with
  | some (first :: others) => others.foldl commonStart first
  | _ => []

/-- A choice between plans.  What all of them start with is put in front; the rests have
no common start any more, because a choice among them would have put its own in front. -/
def oneOf (plans : List Plan) : Plan :=
  let branches := plans.flatMap branches
  match branches with
  | [plan] => plan
  | _ =>
      match merged? branches, shared branches with
      | some plan, _ => plan
      | none, [] => .choice branches
      | none, start =>
          let rests := branches.map fun branch => inOrder (branch.parts.drop start.length)
          inOrder (start ++ [choiceOf (rests.flatMap Plan.branches)])

/-- A repetition.  What takes no characters is repeated once at most. -/
def times (body : Plan) (least : Nat) (most : Option Nat) (reluctant : Bool) : Plan :=
  let (low, high) := if body.isVoid then (min least 1, some (min (most.getD 1) 1)) else (least, most)
  if low = 0 && high = some 0 then .empty
  else if low = 1 && high = some 1 then body
  else .repeated body low high reluctant

end Plan
end Pattern
end ItemModels
