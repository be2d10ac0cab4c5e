import Conch.Text.Utf8
import Conch.Unicode.Ranges

/-!
# Octets of ranges

The characters of a range, written in octets, are those of a few ways: each way has a range
of octets for every octet of a character.
-/

namespace Conch.Pattern

open Unicode (Range)

/-- The octets with which a character goes on from a place. -/
structure OctetRange where
  first : UInt8
  last : UInt8
  deriving DecidableEq, Repr, Inhabited

/-- Where to cut a range that reaches over several blocks of `size` code points, which share
their first octets, and does not fill the first or the last block: the last code point of
the first part. -/
def splitAtBlock? (first last size : Nat) : Option Nat :=
  if first / size = last / size then none
  else if first % size ≠ 0 then some ((first / size + 1) * size - 1)
  else if last % size ≠ size - 1 then some (last / size * size - 1)
  else none

/-- Where to cut a range so that the first part is closer to a range in each octet: the
last code point of the first part. -/
def splitPoint? (first last : Nat) : Option Nat :=
  let bounds := [0x7F, 0x7FF, 0xFFFF]
  match bounds.find? fun bound => first ≤ bound && bound < last with
  | some bound => some bound
  | none =>
      if last ≤ 0x7F then none
      else [64, 4096, 262144].findSome? (splitAtBlock? first last)

/-- The ways of the characters of a range that lies on one side of the surrogates; the fuel
is more than the cuts one above the other can be. -/
def waysWithin : Nat → Nat → Nat → List (List OctetRange)
  | 0, _, _ => []
  | fuel + 1, first, last =>
      match splitPoint? first last with
      | some point => waysWithin fuel first point ++ waysWithin fuel (point + 1) last
      | none =>
          [(Text.Utf8.encodeChar (Char.ofNat first)).zipWith OctetRange.mk
            (Text.Utf8.encodeChar (Char.ofNat last))]

/-- The parts of a range before and behind the code points that are no characters. -/
def characterParts (range : Range) : List Range :=
  [⟨range.first, min range.last 0xD7FF⟩, ⟨max range.first 0xE000, range.last⟩].filter
    fun part => part.first ≤ part.last

/-- The ways of the characters of some ranges. -/
def octetWays (ranges : List Range) : List (List OctetRange) :=
  (ranges.flatMap characterParts).flatMap fun range => waysWithin 32 range.first range.last

end Conch.Pattern
