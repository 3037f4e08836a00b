namespace ItemModels

/-!
Readings of an attribute that may fail.

An attribute source either gives a value or fails.  A sequence of readings fails
at its first failure, and readings after it are not made.
-/

/-- A value that was read, or a failure to read it. -/
inductive Reading (Value : Type) where
  | value (value : Value)
  | failed
deriving DecidableEq, Repr

namespace Reading

variable {First Second : Type}

def bind (reading : Reading First) (next : First -> Reading Second) : Reading Second :=
  match reading with
  | .value found => next found
  | .failed => .failed

def map (change : First -> Second) (reading : Reading First) : Reading Second :=
  reading.bind fun found => .value (change found)

instance : Monad Reading where
  pure := .value
  bind := bind

@[simp] theorem bind_value (found : First) (next : First -> Reading Second) :
    (Reading.value found).bind next = next found := rfl

@[simp] theorem bind_failed (next : First -> Reading Second) :
    (Reading.failed : Reading First).bind next = .failed := rfl

/-- Whether a check succeeded; a failure is no success. -/
def succeeded : Reading Bool -> Bool
  | .value holds => holds
  | .failed => false

def hasFailed : Reading First -> Bool
  | .value _ => false
  | .failed => true

/-- Whether a check that may fail holds for all items.  The first item for which it does
not hold or fails decides. -/
def forAll {Item : Type} (check : Item -> Reading Bool) : List Item -> Reading Bool
  | [] => .value true
  | item :: rest => (check item).bind fun holds => if holds then forAll check rest else .value false

end Reading
end ItemModels
