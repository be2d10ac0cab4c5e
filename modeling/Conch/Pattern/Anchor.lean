import Conch.Pattern.Classes

/-!
# Conditions on places

A pattern can ask for conditions on a place between two characters: that a text or a line
begins or ends there, or that a word does.
-/

namespace Conch.Pattern

open Unicode (Range)

/-- The conditions on the words around a place. -/
inductive WordCondition where
  | boundary
  | noBoundary
  | start
  | finish
  | noneBefore
  | noneAfter
  deriving DecidableEq, Repr, Inhabited

/-- The conditions on a place. -/
inductive Anchor where
  | textStart
  | textEnd
  /-- The ends of a line; the flag says whether a carriage return ends one too. -/
  | lineStart (returns : Bool)
  | lineEnd (returns : Bool)
  /-- The words around the place; the flag says whether words are those of ASCII. -/
  | word (isAscii : Bool) (condition : WordCondition)
  deriving DecidableEq, Repr, Inhabited

/-- The ranges of the characters of words. -/
def wordRanges : Array Range := wordSet.toArray

/-- The ranges of the ASCII characters of words. -/
def asciiWordRanges : Array Range := AsciiClass.word.set.toArray

/-- Whether a place between two characters, or at an end, fulfils a condition on words. -/
def WordCondition.holds (condition : WordCondition) (before after : Bool) : Bool :=
  match condition with
  | .boundary => before != after
  | .noBoundary => before == after
  | .start => !before && after
  | .finish => before && !after
  | .noneBefore => !before
  | .noneAfter => !after

/-- Whether the place between two characters, or at an end of the text, fulfils a
condition. -/
def Anchor.holdsBetween (anchor : Anchor) (before after : Option Char) : Bool :=
  match anchor with
  | .textStart => before.isNone
  | .textEnd => after.isNone
  | .lineStart false => before.all (· = '\n')
  | .lineStart true =>
      before.all fun c => c = '\n' || (c = '\r' && after != some '\n')
  | .lineEnd false => after.all (· = '\n')
  | .lineEnd true =>
      after.all fun c => c = '\r' || (c = '\n' && before != some '\r')
  | .word isAscii condition =>
      let ranges := if isAscii then asciiWordRanges else wordRanges
      let isWord (c : Option Char) := c.any fun c => Unicode.inRanges ranges c.toNat
      condition.holds (isWord before) (isWord after)

/-- Whether a place in a line fulfils a condition. -/
def Anchor.holds (anchor : Anchor) (chars : Array Char) (place : Nat) : Bool :=
  anchor.holdsBetween (if place = 0 then none else chars[place - 1]?) chars[place]?

end Conch.Pattern
