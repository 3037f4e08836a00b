import Std.Data.TreeMap

namespace ItemModels
namespace Pattern

/-!
A memory with a fixed number of places.

What is stored under a key goes to the place that the key's fingerprint names, and
whatever was there is forgotten.  So a number found under a key is always the one
that was stored under it last, while a number that was stored may be lost.
-/

/-- A 64-bit fingerprint of a list of numbers: each of them is mixed in by an exclusive or
and a product with a fixed prime. -/
def fingerprint (key : List Nat) : UInt64 :=
  key.foldl (fun mixed part => (mixed ^^^ part.toUInt64) * 1099511628211) 14695981039346656037

/-- A memory in which numbers are stored under keys. -/
structure Memo where
  places : Nat
  entries : Std.TreeMap Nat (List Nat × Nat)

namespace Memo

def fresh (places : Nat) : Memo := ⟨places, {}⟩

def place (memo : Memo) (key : List Nat) : Nat :=
  (fingerprint key).toNat % memo.places

/-- The number stored under a key whose place is known. -/
def find? (memo : Memo) (place : Nat) (key : List Nat) : Option Nat :=
  match memo.entries[place]? with
  | some (stored, value) => if stored == key then some value else none
  | none => none

/-- Stores a number under a key whose place is known. -/
def store (memo : Memo) (place : Nat) (key : List Nat) (value : Nat) : Memo :=
  { memo with entries := memo.entries.insert place (key, value) }

end Memo
end Pattern
end ItemModels
