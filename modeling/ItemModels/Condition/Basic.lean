import ItemModels.Text.Ascii

namespace ItemModels

/-!
Conditions on a whole number, such as `>3 & <10 | =15`.

A condition is a list of alternatives.  Each alternative is a conjunction of
comparisons with a threshold.  The text form puts `&` between comparisons and
`|` between conjunctions, so `&` binds tighter.
-/

/-- How a value is compared with a threshold. -/
inductive Relation where
  | less
  | greater
  | atMost
  | atLeast
  | equal
  | different
deriving DecidableEq, Repr

namespace Relation

def holds (relation : Relation) (value threshold : Int32) : Bool :=
  match relation with
  | .less => decide (value < threshold)
  | .greater => decide (threshold < value)
  | .atMost => decide (value <= threshold)
  | .atLeast => decide (threshold <= value)
  | .equal => value == threshold
  | .different => value != threshold

def sign : Relation -> String
  | .less => "<"
  | .greater => ">"
  | .atMost => "<="
  | .atLeast => ">="
  | .equal => "="
  | .different => "!="

end Relation

/-- A relation to a threshold. -/
structure Comparison where
  relation : Relation
  threshold : Int32
deriving DecidableEq, Repr

namespace Comparison

def holds (comparison : Comparison) (value : Int32) : Bool :=
  comparison.relation.holds value comparison.threshold

/-- The sign, directly followed by the threshold. -/
def toText (comparison : Comparison) : String :=
  comparison.relation.sign ++ comparison.threshold.toInt.repr

end Comparison

/-- Comparisons that must all hold. -/
structure Conjunction where
  comparisons : List Comparison
deriving DecidableEq, Repr

namespace Conjunction

def holds (conjunction : Conjunction) (value : Int32) : Bool :=
  conjunction.comparisons.all fun comparison => comparison.holds value

theorem holds_eq_true_iff (conjunction : Conjunction) (value : Int32) :
    conjunction.holds value = true <->
      ∀ comparison ∈ conjunction.comparisons, comparison.holds value = true := by
  simp [holds]

/-- The comparisons, joined by `&`. -/
def toText (conjunction : Conjunction) : String :=
  String.intercalate " & " (conjunction.comparisons.map Comparison.toText)

end Conjunction

/-- Conjunctions of which one must hold. -/
structure Condition where
  conjunctions : List Conjunction
deriving DecidableEq, Repr

namespace Condition

def holds (condition : Condition) (value : Int32) : Bool :=
  condition.conjunctions.any fun conjunction => conjunction.holds value

theorem holds_eq_true_iff (condition : Condition) (value : Int32) :
    condition.holds value = true <->
      ∃ conjunction ∈ condition.conjunctions, conjunction.holds value = true := by
  simp [holds]

/-- The conjunctions, joined by `|`. -/
def toText (condition : Condition) : String :=
  String.intercalate " | " (condition.conjunctions.map Conjunction.toText)

end Condition
end ItemModels
