import ItemModels.Json.Basic
import ItemModels.Tag.Basic

namespace ItemModels

/-!
Matching tags with JSON patterns.

A pattern that is an array asks that every item matches the same tag.  A pattern
that is an object asks for a compound that has a child for every name, and what
it asks of the child depends on the child's type:

* a number must be at least the number of the pattern, narrowed to its width;
  a byte may also be compared with a truth value;
* a string must be the string of the pattern;
* an array of words must hold every number of the pattern, narrowed to its width;
* every item of a list must match the whole array of the pattern;
* a compound must match the object of the pattern;
* the end marker satisfies nothing, and a tag of unknown type satisfies anything.

Every other pattern matches nothing.  Checking goes in the order of the pattern
and ends at the first failure; each tag of unknown type that it passes is
recorded under its name.
-/

/-- What a check found: whether the pattern is satisfied, and the tags of unknown type that
were passed, each with its name and its type identifier. -/
structure Verdict where
  holds : Bool
  skipped : List (String × UInt8)
deriving DecidableEq, Repr

namespace Verdict

def pass : Verdict := ⟨true, []⟩

def fail : Verdict := ⟨false, []⟩

def ofBool (holds : Bool) : Verdict := ⟨holds, []⟩

/-- The first verdict if it is a failure, and else both. -/
def andThen (first : Verdict) (second : Unit -> Verdict) : Verdict :=
  if first.holds then
    let next := second ()
    ⟨next.holds, first.skipped ++ next.skipped⟩
  else first

/-- All the verdicts, up to the first failure. -/
def forAll {Item : Type} (check : Item -> Verdict) : List Item -> Verdict
  | [] => pass
  | item :: rest => (check item).andThen fun _ => forAll check rest

theorem holds_andThen (first : Verdict) (second : Unit -> Verdict) :
    (first.andThen second).holds = (first.holds && (second ()).holds) := by
  unfold andThen
  split <;> simp_all

theorem holds_forAll {Item : Type} (check : Item -> Verdict) (items : List Item) :
    (forAll check items).holds = items.all fun item => (check item).holds := by
  induction items with
  | nil => rfl
  | cons item rest ih => simp [forAll, holds_andThen, ih]

end Verdict

namespace Tag

/-- Every item is a number of which the words hold the narrowed form. -/
def holdsAll (holdsWord : Int64 -> Bool) (items : List Json) : Bool :=
  items.all fun item =>
    match item with
    | .number number => holdsWord number.toInt64
    | _ => false

/-- Whether a tag that has no tags inside satisfies a pattern. -/
def leafHolds (value : Json) : Tag -> Bool
  | .byte actual =>
      match value with
      | .bool wanted => (actual != 0) == wanted
      | .number least => decide (least.toInt64.toInt8 <= actual)
      | _ => false
  | .short actual =>
      match value with
      | .number least => decide (least.toInt64.toInt16 <= actual)
      | _ => false
  | .int actual =>
      match value with
      | .number least => decide (least.toInt64.toInt32 <= actual)
      | _ => false
  | .long actual =>
      match value with
      | .number least => decide (least.toInt64 <= actual)
      | _ => false
  | .float actual =>
      match value with
      | .number least => !actual.less least.toSingle
      | _ => false
  | .double actual =>
      match value with
      | .number least => !actual.less least.toDouble
      | _ => false
  | .string actual =>
      match value with
      | .string wanted => wanted == actual
      | _ => false
  | .bytes actual =>
      match value with
      | .array items => holdsAll (fun word => actual.contains word.toInt8) items
      | _ => false
  | .ints actual =>
      match value with
      | .array items => holdsAll (fun word => actual.contains word.toInt32) items
      | _ => false
  | .longs actual =>
      match value with
      | .array items => holdsAll (fun word => actual.contains word) items
      | _ => false
  | _ => false

mutual

def check : Json -> Tag -> Verdict
  | .array items, tag => checkItems items tag
  | .object members, .compound entries => checkMembers members entries
  | _, _ => .fail

def checkItems : List Json -> Tag -> Verdict
  | [], _ => .pass
  | item :: rest, tag => (check item tag).andThen fun _ => checkItems rest tag

def checkMembers : List (String × Json) -> List (String × Tag) -> Verdict
  | [], _ => .pass
  | (name, value) :: rest, entries =>
      (match latest? name entries with
        | none => Verdict.fail
        | some child => checkChild name value child).andThen fun _ =>
          checkMembers rest entries

def checkChild (name : String) : Json -> Tag -> Verdict
  | _, .unknown id => ⟨true, [(name, id)]⟩
  | .array items, .list elements => Verdict.forAll (fun element => checkItems items element) elements
  | .object members, .compound entries => checkMembers members entries
  | value, child => .ofBool (leafHolds value child)

end

def satisfies (tag : Tag) (pattern : Json) : Bool :=
  (check pattern tag).holds

end Tag
end ItemModels
