import ItemModels.Number.Binary

namespace ItemModels

/-!
Tags: the typed trees in which items store their data.

A compound is written as the entries that were put into it, in the order in
which they came.  Only its children matter: a name has the value of its last
entry, and the order of different names means nothing.  The type identifiers
run from zero for the end marker to twelve; a tag of any other type keeps only
its identifier.
-/

/-- A typed tree of data. -/
inductive Tag where
  /-- The end marker. -/
  | stop
  | byte (value : Int8)
  | short (value : Int16)
  | int (value : Int32)
  | long (value : Int64)
  | float (value : Binary .single)
  | double (value : Binary .double)
  | bytes (values : List Int8)
  | string (text : String)
  | list (items : List Tag)
  | compound (entries : List (String × Tag))
  | ints (values : List Int32)
  | longs (values : List Int64)
  | unknown (id : UInt8)

namespace Tag

/-- A byte that stands for a truth value. -/
def ofBool (value : Bool) : Tag := .byte (if value then 1 else 0)

def typeId : Tag -> UInt8
  | .stop => 0
  | .byte _ => 1
  | .short _ => 2
  | .int _ => 3
  | .long _ => 4
  | .float _ => 5
  | .double _ => 6
  | .bytes _ => 7
  | .string _ => 8
  | .list _ => 9
  | .compound _ => 10
  | .ints _ => 11
  | .longs _ => 12
  | .unknown id => id

def typeName : Tag -> String
  | .stop => "END"
  | .byte _ => "BYTE"
  | .short _ => "SHORT"
  | .int _ => "INT"
  | .long _ => "LONG"
  | .float _ => "FLOAT"
  | .double _ => "DOUBLE"
  | .bytes _ => "BYTE[]"
  | .string _ => "STRING"
  | .list _ => "LIST"
  | .compound _ => "COMPOUND"
  | .ints _ => "INT[]"
  | .longs _ => "LONG[]"
  | .unknown _ => "UNKNOWN"

/-- The value of the last entry with the given name. -/
def latest? (name : String) : List (String × Tag) -> Option Tag
  | [] => none
  | (other, value) :: rest =>
      match latest? name rest with
      | some later => some later
      | none => if other = name then some value else none

theorem latest_eq_none_iff (name : String) (entries : List (String × Tag)) :
    latest? name entries = none <-> name ∉ entries.map Prod.fst := by
  induction entries with
  | nil => simp [latest?]
  | cons entry rest ih =>
      obtain ⟨other, value⟩ := entry
      simp only [latest?, List.map_cons, List.mem_cons, not_or]
      cases found : latest? name rest with
      | none =>
          have missing := ih.mp found
          by_cases same : other = name
          · simp [same]
          · simp [same, missing, Ne.symm same]
      | some later =>
          have present : name ∈ rest.map Prod.fst := by
            apply Decidable.byContradiction
            intro absent
            rw [ih.mpr absent] at found
            cases found
          simp [present]

/-- The child of a compound with the given name. -/
def child? (tag : Tag) (name : String) : Option Tag :=
  match tag with
  | .compound entries => latest? name entries
  | _ => none

def hasChild (tag : Tag) (name : String) : Bool :=
  (tag.child? name).isSome

/-- The number of children of a compound. -/
def size? : Tag -> Option Nat
  | .compound entries => some (entries.map Prod.fst).eraseDups.length
  | _ => none

/-- The number that a tag holds, as a 16-bit word.  Wider words wrap, and binary numbers
lose their fraction and are held in range. -/
def toShort? : Tag -> Option Int16
  | .byte value => some value.toInt16
  | .short value => some value
  | .int value => some value.toInt16
  | .long value => some value.toInt16
  | .float value => some value.toInt16
  | .double value => some value.toInt16
  | _ => none

/-- The number that a child holds, as a 16-bit word; zero when there is none. -/
def childShort (tag : Tag) (name : String) : Int16 :=
  ((tag.child? name).bind toShort?).getD 0

mutual

/-- Two tags have the same type and the same content.  Binary numbers are compared by
value, so a tag that holds what is not a number differs from itself. -/
def same : Tag -> Tag -> Bool
  | .stop, .stop => true
  | .byte left, .byte right => left == right
  | .short left, .short right => left == right
  | .int left, .int right => left == right
  | .long left, .long right => left == right
  | .float left, .float right => left.same right
  | .double left, .double right => left.same right
  | .bytes left, .bytes right => left == right
  | .string left, .string right => left == right
  | .list left, .list right => sameItems left right
  | .compound left, .compound right =>
      sameEntries left right && right.all fun entry => (latest? entry.1 left).isSome
  | .ints left, .ints right => left == right
  | .longs left, .longs right => left == right
  | .unknown left, .unknown right => left == right
  | _, _ => false

def sameItems : List Tag -> List Tag -> Bool
  | [], [] => true
  | left :: lefts, right :: rights => same left right && sameItems lefts rights
  | _, _ => false

/-- Every child that the first entries make is a child of the others. -/
def sameEntries : List (String × Tag) -> List (String × Tag) -> Bool
  | [], _ => true
  | (name, value) :: rest, others =>
      ((latest? name rest).isSome ||
        (match latest? name others with
          | some other => same value other
          | none => false)) && sameEntries rest others

end

end Tag
end ItemModels
