import ItemModels.Text.Interval

namespace ItemModels
namespace Text

/-!
Characters in bytes.

A character is written in one to four bytes.  The first byte says how many there
are, and each of the others carries six bits of the code point.  An interval of
code points can therefore be cut into pieces of which each one is described place
by place: the characters of a piece are exactly those whose bytes lie, one by
one, in the spans of the piece.
-/

/-- The bytes from `first` to `last`. -/
structure ByteSpan where
  first : Nat
  last : Nat
deriving DecidableEq, Repr

namespace Utf8

def encode (code : Nat) : List Nat :=
  if code < 0x80 then [code]
  else if code < 0x800 then [0xC0 + code / 64, 0x80 + code % 64]
  else if code < 0x10000 then
    [0xE0 + code / 4096, 0x80 + code / 64 % 64, 0x80 + code % 64]
  else
    [0xF0 + code / 262144, 0x80 + code / 4096 % 64, 0x80 + code / 64 % 64, 0x80 + code % 64]

def encodeAll (letters : List Char) : List Nat :=
  letters.flatMap fun letter => encode letter.toNat

/-- Cuts off the blocks of the given sizes that an interval covers only in part, the
smallest blocks first.  An interval inside one block stays whole. -/
def cut : List Nat -> Interval -> List Interval
  | [], piece => [piece]
  | size :: larger, piece =>
      if piece.first / size = piece.last / size then [piece]
      else
        let start := (piece.first + size - 1) / size * size
        let stop := (piece.last + 1) / size * size
        let head := if piece.first < start then [⟨piece.first, start - 1⟩] else []
        let middle := if start < stop then cut larger ⟨start, stop - 1⟩ else []
        let tail := if stop <= piece.last then [⟨stop, piece.last⟩] else []
        head ++ middle ++ tail

/-- The part of an interval between two bounds. -/
def clip (low high : Nat) (interval : Interval) : List Interval :=
  let first := max low interval.first
  let last := min high interval.last
  if first <= last then [⟨first, last⟩] else []

/-- An interval in pieces of which each one can be described place by place. -/
def pieces (interval : Interval) : List Interval :=
  clip 0 0x7F interval ++
    (clip 0x80 0x7FF interval ++ clip 0x800 0xFFFF interval ++ clip 0x10000 0x10FFFF interval).flatMap
      (cut [64, 4096, 262144])

/-- The spans of a piece, place by place. -/
def spansOf (piece : Interval) : List ByteSpan :=
  (encode piece.first).zipWith ByteSpan.mk (encode piece.last)

/-- The spans of each piece of some intervals. -/
def spans (intervals : List Interval) : List (List ByteSpan) :=
  (intervals.flatMap pieces).map spansOf

end Utf8
end Text
end ItemModels
