import ItemModels.Condition.Basic
import ItemModels.Text.Misread

namespace ItemModels
namespace Condition

/-!
Reading conditions.

A condition is a comparison followed by further comparisons, each after `&` or
`|`.  Blanks may stand before every part and at the end.  The longest such start
of the text is taken: a connective without a comparison after it is left over,
and leftovers other than blanks are refused.  Thresholds are written without a
sign and must fit a 32-bit word.
-/

open Text (Wanted Misread dropBlanks)

/-- What joins a comparison to the one before it. -/
inductive Connective where
  | both
  | either
deriving DecidableEq, Repr

/-- The connective that a character writes. -/
def connective? : Char -> Option Connective
  | '&' => some .both
  | '|' => some .either
  | _ => none

/-- Reads the sign of a relation, the longer one where two fit. -/
def readRelation? : List Char -> Option (Relation × List Char)
  | '<' :: '=' :: rest => some (.atMost, rest)
  | '>' :: '=' :: rest => some (.atLeast, rest)
  | '!' :: '=' :: rest => some (.different, rest)
  | '<' :: rest => some (.less, rest)
  | '>' :: rest => some (.greater, rest)
  | '=' :: rest => some (.equal, rest)
  | _ => none

def greatestThreshold : Nat := 2147483647

/-- The result of reading a part: its value and the rest of the text, or what was wanted
and the rest of the text at that place. -/
abbrev Scan (Value : Type) := Except (Wanted × List Char) (Value × List Char)

/-- Reads a run of digits as a threshold. -/
def readThreshold (letters : List Char) : Scan Int32 :=
  let digits := letters.takeWhile Char.isDigit
  let value := Text.digitsValue digits
  if digits.isEmpty then .error (.threshold, letters)
  else if greatestThreshold < value then .error (.smallerThreshold, letters)
  else .ok (Int32.ofNat value, letters.dropWhile Char.isDigit)

/-- Reads a comparison and the blanks inside and before it. -/
def readComparison (letters : List Char) : Scan Comparison :=
  match readRelation? (dropBlanks letters) with
  | none => .error (.relation, dropBlanks letters)
  | some (relation, rest) =>
      match readThreshold (dropBlanks rest) with
      | .error stop => .error stop
      | .ok (threshold, after) => .ok (⟨relation, threshold⟩, after)

theorem length_readRelation_lt {letters rest : List Char} {relation : Relation}
    (found : readRelation? letters = some (relation, rest)) : rest.length < letters.length := by
  unfold readRelation? at found
  split at found <;> cases found
  all_goals
    simp only [List.length_cons]
    omega

theorem length_readThreshold_le {letters rest : List Char} {threshold : Int32}
    (found : readThreshold letters = .ok (threshold, rest)) : rest.length <= letters.length := by
  unfold readThreshold at found
  simp only [] at found
  split at found
  · cases found
  · split at found
    · cases found
    · cases found
      exact (List.dropWhile_sublist Char.isDigit).length_le

theorem length_readComparison_lt {letters rest : List Char} {comparison : Comparison}
    (found : readComparison letters = .ok (comparison, rest)) : rest.length < letters.length := by
  unfold readComparison at found
  split at found
  · cases found
  · rename_i relation after sign
    split at found
    · cases found
    · rename_i threshold others number
      cases found
      have := length_readRelation_lt sign
      have := length_readThreshold_le number
      have := Text.length_dropBlanks_le letters
      have := Text.length_dropBlanks_le after
      omega

/-- What follows a text from its first connective on, if blanks alone come before it. -/
def splitConnective? (letters : List Char) : Option (Connective × List Char) :=
  match dropBlanks letters with
  | [] => none
  | mark :: rest => (connective? mark).map fun connective => (connective, rest)

theorem length_splitConnective_lt {letters rest : List Char} {connective : Connective}
    (found : splitConnective? letters = some (connective, rest)) :
    rest.length < letters.length := by
  unfold splitConnective? at found
  split at found
  · cases found
  · rename_i mark others blanks
    obtain ⟨_, _, same⟩ := Option.map_eq_some_iff.mp found
    cases same
    have shorter := Text.length_dropBlanks_le letters
    rw [blanks, List.length_cons] at shorter
    omega

def readMore (letters : List Char) : List (Connective × Comparison) × List Char :=
  match joint : splitConnective? letters with
  | none => ([], letters)
  | some (connective, rest) =>
      match found : readComparison rest with
      | .error _ => ([], letters)
      | .ok (comparison, after) =>
          have := length_splitConnective_lt joint
          have := length_readComparison_lt found
          let (more, last) := readMore after
          ((connective, comparison) :: more, last)
termination_by letters.length

/-- The first conjunction and the others that a sequence of joined comparisons makes. -/
def group (first : Comparison) : List (Connective × Comparison) -> Conjunction × List Conjunction
  | [] => (⟨[first]⟩, [])
  | (.both, next) :: rest =>
      let (conjunction, others) := group next rest
      (⟨first :: conjunction.comparisons⟩, others)
  | (.either, next) :: rest =>
      let (conjunction, others) := group next rest
      (⟨[first]⟩, conjunction :: others)

def read (text : String) : Except Misread Condition :=
  match readComparison text.toList with
  | .error (wanted, rest) => .error (.leaving text rest wanted)
  | .ok (first, after) =>
      let (more, rest) := readMore after
      match dropBlanks rest with
      | [] =>
          let (conjunction, others) := group first more
          .ok ⟨conjunction :: others⟩
      | left => .error (.leaving text left .theEnd)

/-- Whether a value meets the condition that a text writes; none when it writes none. -/
def holdsText? (text : String) (value : Int32) : Option Bool :=
  match read text with
  | .ok condition => some (condition.holds value)
  | .error _ => none

end Condition
end ItemModels
