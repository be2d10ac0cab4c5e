import Conch.Unicode.Casing
import Conch.Unicode.Ranges

/-!
# Sets of characters

A set of characters is an ascending list of ranges that neither overlap nor touch.
-/

namespace Conch.Unicode

/-- The greatest code point. -/
def lastCodePoint : Nat := 0x10FFFF

/-- The code point before another one; surrogates are passed over. -/
def codeBefore (n : Nat) : Nat :=
  if n = 0xE000 then 0xD7FF else n - 1

/-- The code point after another one; surrogates are passed over. -/
def codeAfter (n : Nat) : Nat :=
  if n = 0xD7FF then 0xE000 else n + 1

/-- A set of characters as ascending ranges with gaps between them. -/
abbrev Charset := List Range

/-- Adds a range to descending ranges that begin no later, joining it with the last of them
if there is no gap. -/
def addRange (ranges : List Range) (range : Range) : List Range :=
  match ranges with
  | [] => [range]
  | top :: rest =>
      if range.first ≤ top.last + 1 then ⟨top.first, max top.last range.last⟩ :: rest
      else range :: top :: rest

namespace Charset

/-- The set of the characters in some range of a list. -/
def ofRanges (ranges : List Range) : Charset :=
  let ascending := ranges.mergeSort fun a b => decide (a.first ≤ b.first)
  (ascending.foldl addRange []).reverse

/-- The set of one code point. -/
def singleton (n : Nat) : Charset := [⟨n, n⟩]

/-- The union of two sets. -/
def union (a b : Charset) : Charset := ofRanges (a ++ b)

/-- The ranges between ascending ranges from a code point up to the greatest one. -/
def gapsFrom (greatest : Nat) (gaps : List Range) (next : Nat) : List Range → List Range
  | [] => (if next ≤ greatest then ⟨next, greatest⟩ :: gaps else gaps).reverse
  | range :: rest =>
      let gaps := if next < range.first then ⟨next, range.first - 1⟩ :: gaps else gaps
      gapsFrom greatest gaps (range.last + 1) rest

/-- The code points up to the greatest one that are not in a set. -/
def complementUpTo (greatest : Nat) (set : Charset) : Charset :=
  gapsFrom greatest [] 0 set

/-- The characters that are not in a set. -/
def complement (set : Charset) : Charset :=
  set.complementUpTo lastCodePoint

/-- The intersection of two sets. -/
def intersection : Charset → Charset → Charset
  | [], _ => []
  | _, [] => []
  | a :: as, b :: bs =>
      let rest := if a.last < b.last then intersection as (b :: bs) else intersection (a :: as) bs
      let common : Range := ⟨max a.first b.first, min a.last b.last⟩
      if common.first ≤ common.last then common :: rest else rest
termination_by a b => a.length + b.length

/-- The characters of the first set that are not in the second. -/
def difference : Charset → Charset → Charset
  | [], _ => []
  | as, [] => as
  | a :: as, b :: bs =>
      if b.last < a.first then difference (a :: as) bs
      else if a.last < b.first then a :: difference as (b :: bs)
      else
        let before := if a.first < b.first then [⟨a.first, codeBefore b.first⟩] else []
        if b.last < a.last then before ++ difference (⟨codeAfter b.last, a.last⟩ :: as) bs
        else before ++ difference as (b :: bs)
termination_by a b => a.length + b.length

/-- The characters in exactly one of two sets. -/
def symmetricDifference (a b : Charset) : Charset :=
  difference (union a b) (intersection a b)

end Charset

/-- The classes of characters that are equal but for their case. -/
def caseClassList : List (List Nat) :=
  let classes := (tableWords caseClasses).map fun word =>
    (Text.splitBy (· = '=') word).map readHex
  let pairs := (readRuns casePairRuns).toList.flatMap fun run =>
    (List.range ((run.last - run.first) / run.step + 1)).map fun index =>
      let n := run.first + index * run.step
      [n, (n + run.distance).toNat]
  classes ++ pairs

/-- Every code point that has case with its class, ascending. -/
def caseTable : Array (Nat × List Nat) :=
  let entries := caseClassList.flatMap fun same => same.map fun n => (n, same)
  (entries.mergeSort fun a b => decide (a.1 ≤ b.1)).toArray

/-- The letters of ASCII with their two forms. -/
def asciiCaseTable : Array (Nat × List Nat) :=
  let capitals := (List.range 26).map fun i => (65 + i, [65 + i, 97 + i])
  let smalls := (List.range 26).map fun i => (97 + i, [65 + i, 97 + i])
  (capitals ++ smalls).toArray

/-- Searches ascending entries from index `low` up to `high` for a code point. -/
def searchClass (table : Array (Nat × List Nat)) (n : Nat) : Nat → Nat → Nat → List Nat
  | 0, _, _ => [n]
  | steps + 1, low, high =>
      if high ≤ low then [n]
      else
        let middle := (low + high) / 2
        match table[middle]? with
        | none => [n]
        | some (code, same) =>
            if n < code then searchClass table n steps low middle
            else if code < n then searchClass table n steps (middle + 1) high
            else same

/-- The code points that are equal to one but for their case. -/
def classUnder (table : Array (Nat × List Nat)) (n : Nat) : List Nat :=
  searchClass table n (table.size + 1) 0 table.size

/-- A set with all code points that are equal to one of it but for their case. -/
def Charset.foldUnder (table : Array (Nat × List Nat)) (set : Charset) : Charset :=
  let ranges := set.toArray
  let added := table.toList.filter fun (n, _) => inRanges ranges n
  Charset.ofRanges (set ++ added.flatMap fun (_, same) => same.map fun n => ⟨n, n⟩)

end Conch.Unicode
