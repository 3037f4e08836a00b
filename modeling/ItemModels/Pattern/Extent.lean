import ItemModels.Pattern.Memo
import ItemModels.Pattern.Plan
import ItemModels.Text.Utf8

namespace ItemModels
namespace Pattern

/-!
How much room the automaton of a plan takes.

An automaton reads a text byte by byte.  It consists of numbered nodes of one size,
and a node takes further room for each link of a fork and for each span of bytes on
which it branches.  A pattern has two automata, one for each direction of reading,
and it is refused if one of them takes more than `Extent.limit`.

A repetition is laid out once for each round, so that its room grows with its
bounds.  The layout of a set of characters depends on the numbers of its nodes,
since parts of it are shared only as long as a `Memo` remembers them.
-/

/-- The room that an automaton takes. -/
structure Extent where
  nodes : Nat
  /-- The room beyond that of the nodes themselves. -/
  extra : Nat
deriving DecidableEq, Repr

namespace Extent

def nodeSize : Nat := 32

def linkSize : Nat := 4

/-- The room of a span of bytes on which a node branches. -/
def spanSize : Nat := 8

/-- The room that an automaton may take. -/
def limit : Nat := 10 * 1024 * 1024

def zero : Extent := ⟨0, 0⟩

def size (extent : Extent) : Nat :=
  nodeSize * extent.nodes + extent.extra

def addNodes (extent : Extent) (count : Nat) : Extent :=
  { extent with nodes := extent.nodes + count }

def addLinks (extent : Extent) (count : Nat) : Extent :=
  { extent with extra := extent.extra + linkSize * count }

/-- Adds a node that branches on spans of bytes. -/
def addBranching (extent : Extent) (spans : Nat) : Extent :=
  { nodes := extent.nodes + 1, extra := extent.extra + spanSize * spans }

end Extent

/-- An automaton to which the layout of a part has been added. -/
structure Grown where
  extent : Extent
  /-- Whether the part ends in a fork, so that going on from it adds a link. -/
  forked : Bool

namespace Grown

/-- The room when something follows. -/
def onward (grown : Grown) : Extent :=
  grown.extent.addLinks (if grown.forked then 1 else 0)

end Grown

namespace Extent

/-- A part that ends here, unless the room is exceeded. -/
def ended (extent : Extent) (forked : Bool) : Option Grown :=
  if extent.size <= limit then some ⟨extent, forked⟩ else none

end Extent

/-! ## Sets of characters -/

/-- The layout of a set under way. -/
structure Weaving where
  extent : Extent
  memo : Memo

namespace Weaving

/-- The number of the node with a key: the one that is remembered, or that of a new node. -/
def node (weaving : Weaving) (key : List Nat) (spans : Nat) : Nat × Weaving :=
  let place := weaving.memo.place key
  match weaving.memo.find? place key with
  | some number => (number, weaving)
  | none =>
      let number := weaving.extent.nodes
      (number, ⟨weaving.extent.addBranching spans, weaving.memo.store place key number⟩)

end Weaving

/-- Sequences of spans by their first span, where neighbours agree in it. -/
def byFirstSpan : List (List Text.ByteSpan) -> List (Text.ByteSpan × List (List Text.ByteSpan))
  | [] => []
  | [] :: rest => byFirstSpan rest
  | (span :: tail) :: rest =>
      match byFirstSpan rest with
      | (next, tails) :: others =>
          if next = span then (span, tail :: tails) :: others
          else (span, [tail]) :: (next, tails) :: others
      | [] => [(span, [tail])]

/-- Lays out sequences of spans that all lead to one node, and gives the number of the node
at which they start.  A node is laid out after those that follow it, and nodes that agree
in their spans and followers are shared. -/
def weave (target : Nat) : Nat -> List (List Text.ByteSpan) -> Weaving -> Nat × Weaving
  | 0, _, weaving => (target, weaving)
  | _ + 1, [] :: _, weaving => (target, weaving)
  | depth + 1, sequences, weaving =>
      let groups := byFirstSpan sequences
      let (key, woven) := groups.foldl
        (fun (key, current) (span, tails) =>
          let (number, after) := weave target depth tails current
          (number :: span.last :: span.first :: key, after))
        ([], weaving)
      woven.node key.reverse groups.length

/-- The number of places for the nodes of a set that is read forward. -/
def forwardPlaces : Nat := 10000

/-- The number of places for the nodes of a set that is read backward. -/
def backwardPlaces : Nat := 1000

/-- Lays out a sequence of spans from its end, which is the given node, to its start. -/
def weaveBackward : List Text.ByteSpan -> Nat × Weaving -> Nat × Weaving
  | [], state => state
  | span :: rest, (number, weaving) =>
      weaveBackward rest (weaving.node [number, span.first, span.last] 0)

/-- Adds the layout of a set.  One span suffices for each interval of single bytes.  Other
sets end in a node of their own; read backward, they also start in one that forks to
every sequence. -/
def growSet (backward : Bool) (members : List Interval) (extent : Extent) : Extent :=
  if members.all fun interval => decide (interval.last < 0x80) then
    (extent.addNodes 1).addBranching members.length
  else
    let sequences := Text.Utf8.spans members
    if backward then
      let target := extent.nodes + 1
      let start : Weaving := ⟨extent.addNodes 2, .fresh backwardPlaces⟩
      let woven := sequences.foldl
        (fun weaving sequence => (weaveBackward sequence (target, weaving)).2) start
      woven.extent.addLinks sequences.length
    else
      (weave extent.nodes 5 sequences ⟨extent.addNodes 1, .fresh forwardPlaces⟩).2.extent

/-! ## Choices between texts -/

/-- A node of the tree of some texts, as far as they have been added. -/
structure Knot where
  /-- What follows, by the next byte, since a text last ended here. -/
  current : List (Nat × List (List Nat))
  /-- What followed before, for each time that a text ended here. -/
  earlier : List (List (Nat × List (List Nat)))

namespace Knot

/-- A node through which no text goes. -/
def blank : Knot := ⟨[], []⟩

/-- Adds what follows a byte. -/
def addTail (byte : Nat) (tail : List Nat) :
    List (Nat × List (List Nat)) -> List (Nat × List (List Nat))
  | [] => [(byte, [tail])]
  | (other, tails) :: rest =>
      if other = byte then (other, tails ++ [tail]) :: rest
      else (other, tails) :: addTail byte tail rest

/-- Adds the rest of a text.  A text that ends here starts a new section, unless one has
ended here before and nothing follows. -/
def add (knot : Knot) : List Nat -> Knot
  | [] =>
      if !knot.earlier.isEmpty && (knot.current :: knot.earlier).all List.isEmpty then knot
      else ⟨[], knot.current :: knot.earlier⟩
  | byte :: tail => { knot with current := addTail byte tail knot.current }

/-- The sections that lead on. -/
def sections (knot : Knot) : List (List (Nat × List (List Nat))) :=
  (knot.current :: knot.earlier).filter fun followers => !followers.isEmpty

end Knot

/-- Adds the layout of the tree of some texts: for each node that leads on, a node for each
of its sections and a fork to these and to the end. -/
def growTree : Nat -> List (List Nat) -> Extent -> Extent
  | 0, _, extent => extent
  | depth + 1, words, extent =>
      let knot := words.foldl Knot.add .blank
      if knot.sections.isEmpty then extent
      else
        let laid := knot.sections.foldl
          (fun current followers =>
            let inner := followers.foldl
              (fun before (_, tails) => growTree depth tails before) current
            inner.addBranching (if followers.length = 1 then 0 else followers.length))
          extent
        (laid.addNodes 1).addLinks (knot.sections.length + knot.earlier.length)

/-! ## Repetitions -/

/-- Adds the layout of a part a number of times. -/
def growTimes (one : Extent -> Option Grown) : Nat -> Grown -> Option Grown
  | 0, grown => some grown
  | count + 1, grown =>
      match one grown.onward with
      | none => none
      | some next => growTimes one count next

/-- Adds the layout of a part a number of times, or an empty node. -/
def growExactly (one : Extent -> Option Grown) (count : Nat) (extent : Extent) : Option Grown :=
  match count with
  | 0 => (extent.addNodes 1).ended false
  | further + 1 => (one extent).bind (growTimes one further)

/-- Adds a number of rounds of a part, each of which may be the last. -/
def growOptional (one : Extent -> Option Grown) : Nat -> Grown -> Option Grown
  | 0, grown => some grown
  | count + 1, grown =>
      match one (grown.onward.addNodes 1) with
      | none => none
      | some next => growOptional one count { next with extent := next.extent.addLinks 2 }

/-- Adds any number of rounds of a part, from `least` on. -/
def growUnbounded (one : Extent -> Option Grown) (takesSome : Bool) (least : Nat)
    (extent : Extent) : Option Grown :=
  match least with
  | 0 =>
      if takesSome then
        (one (extent.addNodes 1)).bind fun body => (body.onward.addLinks 1).ended true
      else
        (one extent).bind fun body => ((body.onward.addNodes 3).addLinks 4).ended false
  | _ =>
      (growExactly one least extent).bind fun rounds =>
        ((rounds.onward.addNodes 1).addLinks 1).ended true

/-- Adds from `least` to `most` rounds of a part. -/
def growBounded (one : Extent -> Option Grown) (least most : Nat) (extent : Extent) :
    Option Grown :=
  if least = 0 && most = 1 then
    (one (extent.addNodes 1)).bind fun body => ((body.onward.addNodes 1).addLinks 2).ended false
  else if least = most then growExactly one least extent
  else do
    let needed <- growExactly one least extent
    let rounds <-
      growOptional one (most - least) { needed with extent := needed.extent.addNodes 1 }
    rounds.onward.ended false

/-! ## Plans -/

namespace Plan

/-- The texts of a choice between texts, in bytes in the order of reading. -/
def words? (backward : Bool) (branches : List Plan) : Option (List (List Nat)) :=
  branches.mapM fun branch =>
    match branch with
    | .literal letters =>
        let bytes := Text.Utf8.encodeAll letters
        some (if backward then bytes.reverse else bytes)
    | _ => none

mutual

/-- Adds the layout of a plan. -/
def grow (backward : Bool) : Plan -> Extent -> Option Grown
  | .empty, extent => (extent.addNodes 1).ended false
  | .literal letters, extent =>
      (extent.addNodes (Text.Utf8.encodeAll letters).length).ended false
  | .set _ members, extent => (growSet backward members extent).ended false
  | .border _, extent => (extent.addNodes 1).ended false
  | .repeated body least most _, extent =>
      match most with
      | none => growUnbounded (grow backward body) body.takesSome least extent
      | some most => growBounded (grow backward body) least most extent
  | .group _ body, extent =>
      if backward then grow backward body extent
      else
        (grow backward body (extent.addNodes 1)).bind fun inner =>
          (inner.onward.addNodes 1).ended false
  | .sequence parts, extent => growAll backward parts extent
  | .choice branches, extent =>
      match words? backward branches with
      | some words =>
          let depth := (words.map List.length).foldl max 0
          (growTree depth words (extent.addNodes 1)).ended false
      | none => growBranches backward 0 branches extent

/-- Adds the layout of one plan after another, in the order of reading. -/
def growAll (backward : Bool) : List Plan -> Extent -> Option Grown
  | [], extent => (extent.addNodes 1).ended false
  | [plan], extent => grow backward plan extent
  | plan :: rest, extent =>
      if backward then
        (growAll backward rest extent).bind fun after => grow backward plan after.onward
      else
        (grow backward plan extent).bind fun before => growAll backward rest before.onward

/-- Adds the layout of branches after the given number of them.  The fork and the node at
which the branches meet come after the second branch. -/
def growBranches (backward : Bool) : Nat -> List Plan -> Extent -> Option Grown
  | _, [], extent => extent.ended false
  | count, plan :: rest, extent =>
      (grow backward plan extent).bind fun branch =>
        growBranches backward (count + 1) rest
          ((branch.onward.addLinks 1).addNodes (if count = 1 then 2 else 0))

end

/-- The room of what stands before the pattern: an empty node if every match is bound to the
edge at which reading starts, and otherwise a loop over all bytes. -/
def lead (bound : Bool) : Extent :=
  if bound then Extent.zero.addNodes 1
  else ((Extent.zero.addNodes 2).addBranching 1).addLinks 2

/-- The whole automaton that reads forward.  It marks the start and the end of a match. -/
def forward? (plan : Plan) : Option Grown :=
  (grow false plan ((lead (boundTo .textStart false plan)).addNodes 1)).bind fun inner =>
    (inner.onward.addNodes 2).ended false

/-- The whole automaton that reads backward. -/
def backward? (plan : Plan) : Option Grown :=
  (grow true plan (lead (boundTo .textEnd true plan))).bind fun inner =>
    (inner.onward.addNodes 1).ended false

/-- Whether both automata of a plan have room. -/
def fits (plan : Plan) : Bool :=
  plan.forward?.isSome && plan.backward?.isSome

end Plan
end Pattern
end ItemModels
