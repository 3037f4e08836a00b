namespace ItemModels

/-!
Sets of characters.

A set is an expression over runs of code points.  Membership is decided by
reading the expression, so that union, difference and the other operations are
the Boolean operations on membership by definition, and no normal form has to
be kept.
-/

/-- The code points `first`, `first + step`, and so on up to `last`. -/
structure Run where
  first : Nat
  last : Nat
  step : Nat
deriving DecidableEq, Repr

/-- Whether a code point lies on the run. -/
def Run.contains (run : Run) (code : Nat) : Bool :=
  decide (run.first <= code) && decide (code <= run.last) && (code - run.first) % run.step == 0

/-- The code points on the run, in ascending order. -/
def Run.codes (run : Run) : List Nat :=
  let step := max 1 run.step
  (List.range ((run.last + step - run.first) / step)).map fun index => run.first + index * step

inductive CharSet where
  | ofRuns (table : List Run)
  | union (left right : CharSet)
  | meet (left right : CharSet)
  | without (left right : CharSet)
  | either (left right : CharSet)
  | complement (set : CharSet)
deriving DecidableEq, Repr

namespace CharSet

def empty : CharSet := .ofRuns []

/-- The code points from one to another. -/
def range (first last : Nat) : CharSet := .ofRuns [⟨first, last, 1⟩]

/-- One character. -/
def single (letter : Char) : CharSet := range letter.toNat letter.toNat

def ofCodes (codes : List Nat) : CharSet :=
  .ofRuns (codes.map fun code => ⟨code, code, 1⟩)

def ofChars (letters : List Char) : CharSet :=
  ofCodes (letters.map Char.toNat)

def unionAll (sets : List CharSet) : CharSet :=
  sets.foldr .union empty

/-- The set that a table has under a name. -/
def called? (table : List (List String × CharSet)) (name : String) : Option CharSet :=
  (table.find? fun entry => entry.1.contains name).map Prod.snd

def contains : CharSet -> Nat -> Bool
  | .ofRuns table, code => table.any fun run => run.contains code
  | .union left right, code => left.contains code || right.contains code
  | .meet left right, code => left.contains code && right.contains code
  | .without left right, code => left.contains code && !right.contains code
  | .either left right, code => left.contains code != right.contains code
  | .complement set, code => !set.contains code

def has (set : CharSet) (letter : Char) : Bool :=
  set.contains letter.toNat

theorem contains_union (left right : CharSet) (code : Nat) :
    (union left right).contains code = (left.contains code || right.contains code) := rfl

theorem contains_complement (set : CharSet) (code : Nat) :
    (complement set).contains code = !set.contains code := rfl

end CharSet
end ItemModels
