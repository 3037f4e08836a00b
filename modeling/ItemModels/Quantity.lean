import ItemModels.Condition.Read
import ItemModels.Json.Basic
import ItemModels.Percentage

namespace ItemModels

/-!
Demands on a whole number that has a maximum, such as a count or a damage.

The value that states a demand decides its kind by its shape: a text is a
condition or else a percentage of the maximum, a number is a lower bound, and
everything else is a demand that nothing meets.
-/

/-- A demand on a number out of a maximum. -/
inductive Quantity where
  | meets (condition : Condition)
  | atLeast (bound : Int64)
  | share (percentage : Percentage)
  | malformed
deriving DecidableEq

namespace Quantity

def ofText (text : String) : Quantity :=
  match Condition.read text with
  | .ok condition => .meets condition
  | .error _ =>
      match Percentage.read text with
      | .ok percentage => .share percentage
      | .error _ => .malformed

def ofJson : Json -> Quantity
  | .string text => ofText text
  | .number number => .atLeast number.toInt64
  | _ => .malformed

/-- Whether a value out of a maximum meets the demand. -/
def holds (quantity : Quantity) (value most : Int32) : Bool :=
  match quantity with
  | .meets condition => condition.holds value
  | .atLeast bound => decide (bound <= value.toInt64)
  | .share percentage => percentage.reachedBy value most
  | .malformed => false

def isMalformed : Quantity -> Bool
  | .malformed => true
  | _ => false

def toText : Quantity -> String
  | .meets condition => condition.toText
  | .atLeast bound => ">=" ++ bound.toInt.repr
  | .share percentage => percentage.toText
  | .malformed => "<malformed>"

end Quantity
end ItemModels
