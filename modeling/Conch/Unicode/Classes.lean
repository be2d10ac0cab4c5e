import Conch.Unicode.Edition

/-!
# Classes of characters

Letters and numbers in the sense of Unicode.
-/

namespace Conch.Unicode

/-- The code points with the property `Alphabetic`. -/
def alphabeticTable : Array Range :=
  Edition.seventeen.alphabetic.toArray

/-- The code points of the categories of numbers. -/
def numericTable : Array Range :=
  Edition.seventeen.numeric.toArray

/-- Whether a character is a letter or a number. -/
def isAlphanumeric (c : Char) : Bool :=
  inRanges alphabeticTable c.toNat || inRanges numericTable c.toNat

end Conch.Unicode
