import ItemModels.Text.CharSet

namespace ItemModels

/-!
Sets of code points as ascending intervals.

Membership in a set needs no normal form, but whether a set has one member, whether
two sets are the same, and how the members are written in bytes do.  `intervals`
gives the members of a set as intervals in ascending order with a gap between any
two of them, so that equal sets have equal lists.  `scalars` leaves out the
surrogates, which are no characters.
-/

/-- The code points from `first` to `last`. -/
structure Interval where
  first : Nat
  last : Nat
deriving DecidableEq, Repr

namespace Interval

/-- Joins intervals in ascending order of their starts where they meet or touch; the
first one has been taken apart. -/
def joinFrom (current : Interval) : List Interval -> List Interval
  | [] => [current]
  | next :: rest =>
      if next.first <= current.last + 1 then
        joinFrom ⟨current.first, max current.last next.last⟩ rest
      else current :: joinFrom next rest

/-- Joins intervals in ascending order of their starts where they meet or touch. -/
def join : List Interval -> List Interval
  | [] => []
  | current :: rest => joinFrom current rest

/-- Whether no interval starts before the one in front of it. -/
def ascending : List Interval -> Bool
  | [] => true
  | [_] => true
  | current :: next :: rest => decide (current.first <= next.first) && ascending (next :: rest)

/-- Intervals in any order as ascending ones. -/
def normalize (intervals : List Interval) : List Interval :=
  if ascending intervals then join intervals
  else join (intervals.mergeSort fun left right => decide (left.first <= right.first))

/-- Puts an interval between those of an ascending list and goes on from there with the rest
of the list. -/
def putFrom (interval : Interval) (goOn : List Interval -> List Interval) :
    List Interval -> List Interval
  | [] => interval :: goOn []
  | head :: rest =>
      if interval.first <= head.first then interval :: goOn (head :: rest)
      else head :: putFrom interval goOn rest

/-- Two ascending lists as one.  The recursion is that of the first list, which can be evaluated
where `List.merge` cannot. -/
def merge : List Interval -> List Interval -> List Interval
  | [], right => right
  | head :: rest, right => putFrom head (merge rest) right

theorem merge_eq (left right : List Interval) :
    merge left right = left.merge right fun one two => decide (one.first <= two.first) := by
  induction left generalizing right with
  | nil => rw [merge, List.nil_merge]
  | cons head rest inductionHypothesis =>
      rw [merge]
      induction right with
      | nil => rw [putFrom, inductionHypothesis, List.merge_right, List.merge_right]
      | cons other others placed =>
          rw [putFrom, List.cons_merge_cons, inductionHypothesis, placed]
          simp only [decide_eq_true_eq]

def union (left right : List Interval) : List Interval :=
  join (merge left right)

def greatest : Nat := 0x10FFFF

/-- What an ascending list leaves out from a code point on. -/
def gapsFrom (start : Nat) : List Interval -> List Interval
  | [] => if start <= greatest then [⟨start, greatest⟩] else []
  | head :: rest =>
      if start < head.first then ⟨start, head.first - 1⟩ :: gapsFrom (head.last + 1) rest
      else gapsFrom (head.last + 1) rest

/-- What an ascending list leaves out. -/
def gaps (intervals : List Interval) : List Interval :=
  gapsFrom 0 intervals

/-- What two ascending lists have in common. -/
def meet (left right : List Interval) : List Interval :=
  gaps (union (gaps left) (gaps right))

/-- What the first of two ascending lists has and the second has not. -/
def without (left right : List Interval) : List Interval :=
  gaps (union (gaps left) right)

end Interval

/-- The intervals that a run covers. -/
def Run.intervals (run : Run) : List Interval :=
  if run.step = 1 then [⟨run.first, run.last⟩]
  else run.codes.map fun code => ⟨code, code⟩

namespace CharSet

/-- The members of a set as ascending intervals. -/
def intervals : CharSet -> List Interval
  | .ofRuns table => Interval.normalize (table.flatMap Run.intervals)
  | .union left right => Interval.union left.intervals right.intervals
  | .meet left right => Interval.meet left.intervals right.intervals
  | .without left right => Interval.without left.intervals right.intervals
  | .either left right =>
      Interval.union (Interval.without left.intervals right.intervals)
        (Interval.without right.intervals left.intervals)
  | .complement set => Interval.gaps set.intervals

/-- The characters of a set as ascending intervals, none of which reaches across the
surrogates. -/
def scalars (set : CharSet) : List Interval :=
  Interval.without set.intervals [⟨0xD800, 0xDFFF⟩]

end CharSet
end ItemModels
