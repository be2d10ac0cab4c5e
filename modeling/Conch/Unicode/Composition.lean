import Conch.Unicode.Composites
import Conch.Unicode.Ranges

/-!
# Canonical composition

Some characters are written both as one code point and as several.  A text in composed form
has its marks in order and uses one code point wherever there is one.  A syllable of Hangul
is composed of its letters by rule.
-/

namespace Conch.Unicode

/-- The composite characters with their two parts. -/
def compositeTable : Array (Nat × List Nat) :=
  readImages compositeParts

/-- The combining classes other than zero with their marks. -/
def combiningTable : List (Nat × Array Range) :=
  combiningClasses.map fun (rank, table) => (rank, readRanges table)

/-- The first code point that is a mark, and the first that is the latter part of a
composite. -/
def firstMark : Nat := 0x300

/-- The combining class of a code point; zero for all that stands on its own. -/
def combiningClass (n : Nat) : Nat :=
  if n < firstMark then 0
  else
    match combiningTable.find? fun (_, ranges) => inRanges ranges n with
    | some (rank, _) => rank
    | none => 0

/-- The first syllable of Hangul. -/
def firstSyllable : Nat := 0xAC00

/-- The code point before the first of the letters that close a syllable. -/
def noTail : Nat := 0x11A7

/-- The two parts of a syllable of Hangul: its open syllable and the letter that closes it,
or its two letters. -/
def syllableParts? (n : Nat) : Option (Nat × Nat) :=
  let index := n - firstSyllable
  if n < firstSyllable || 19 * 21 * 28 ≤ index then none
  else if index % 28 = 0 then some (0x1100 + index / 28 / 21, 0x1161 + index / 28 % 21)
  else some (n - index % 28, noTail + index % 28)

/-- The syllable of Hangul with two given parts. -/
def syllable? (a b : Nat) : Option Nat :=
  let lead := a - 0x1100
  let vowel := b - 0x1161
  let index := a - firstSyllable
  if 0x1100 ≤ a && lead < 19 && 0x1161 ≤ b && vowel < 21 then
    some (firstSyllable + (21 * lead + vowel) * 28)
  else if firstSyllable ≤ a && index < 19 * 21 * 28 && index % 28 = 0 && noTail < b &&
      b < noTail + 28 then
    some (a + (b - noTail))
  else none

/-- The two parts of a code point, if it is composite. -/
def partsOf? (n : Nat) : Option (Nat × Nat) :=
  match imageIn? compositeTable n with
  | some [a, b] => some (a, b)
  | _ => syllableParts? n

/-- The code point that is composed of two others. -/
def composite? (a b : Nat) : Option Nat :=
  if b < firstMark then none
  else
    match compositeTable.find? fun (_, parts) => parts == [a, b] with
    | some (n, _) => some n
    | none => syllable? a b

/-- The code points of which one is composed in at most so many steps. -/
def decompose : Nat → Nat → List Nat
  | 0, n => [n]
  | steps + 1, n =>
      match partsOf? n with
      | some (a, b) => decompose steps a ++ [b]
      | none => [n]

/-- The most steps in which a code point is composed. -/
def maxSteps : Nat := 3

/-- Marks in the order of their classes. -/
def sortMarks (marks : List Nat) : List Nat :=
  marks.mergeSort fun a b => decide (combiningClass a ≤ combiningClass b)

/-- A text with the marks on each character in order, given those on the character before
it. -/
def orderMarks (marks : List Nat) : List Nat → List Nat
  | [] => sortMarks marks
  | n :: rest =>
      if combiningClass n = 0 then sortMarks marks ++ n :: orderMarks [] rest
      else orderMarks (marks ++ [n]) rest

/-- Where composing stands: the last character that may be composed further, the marks that
stay behind it, last first, and all before it, last first. -/
structure Composing where
  before : List Nat
  base : Option Nat
  marks : List Nat

/-- Whether the marks that stay keep a code point from being composed. -/
def Composing.blocks (state : Composing) (n : Nat) : Bool :=
  match state.marks with
  | [] => false
  | mark :: _ => combiningClass n ≤ combiningClass mark

/-- All code points so far, last first. -/
def Composing.reached (state : Composing) : List Nat :=
  state.marks ++ state.base.toList ++ state.before

/-- Takes up one more code point. -/
def Composing.add (state : Composing) (n : Nat) : Composing :=
  let joined := if state.blocks n then none else state.base.bind fun base => composite? base n
  match joined with
  | some whole => { state with base := some whole }
  | none =>
      if combiningClass n = 0 then ⟨state.reached, some n, []⟩
      else { state with marks := n :: state.marks }

/-- The composed form of a text. -/
def composedForm (text : List Nat) : List Nat :=
  let ordered := orderMarks [] (text.flatMap (decompose maxSteps))
  (ordered.foldl Composing.add ⟨[], none, []⟩).reached.reverse

end Conch.Unicode
