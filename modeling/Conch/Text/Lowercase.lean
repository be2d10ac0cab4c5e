import Conch.Unicode.Casing
import Conch.Unicode.Edition

/-!
# Lower case

The lower-case form of a text by Unicode's full mappings.  Only one rule looks at the
surroundings of a character: a capital sigma at the end of a word becomes a final
sigma.
-/

namespace Conch.Text

/-- The mappings of single code points. -/
def lowerTable : Array Unicode.Run :=
  Unicode.readRuns Unicode.lowerRuns

/-- The code points that have case. -/
def casedTable : Array Unicode.Range :=
  Unicode.Edition.seventeen.cased.toArray

/-- The code points that do not interrupt a word when case is looked for. -/
def caseIgnorableTable : Array Unicode.Range :=
  Unicode.Edition.seventeen.caseIgnorable.toArray

/-- The lower-case form of a character on its own. -/
def lowerChar (c : Char) : List Char :=
  if c.toNat < 0x80 then [asciiLowerChar c]
  else if c.toNat = 0x130 then ['i', '\u0307']
  else [Char.ofNat ((Unicode.imageUnder? lowerTable c.toNat).getD c.toNat)]

/-- Whether the first character that counts for case has case. -/
def casedFirst : List Char → Bool
  | [] => false
  | c :: rest =>
      if Unicode.inRanges caseIgnorableTable c.toNat then casedFirst rest
      else Unicode.inRanges casedTable c.toNat

/-- The lower-case form of a text, given the characters before it, last first. -/
def lowerFrom (before : List Char) : List Char → List Char
  | [] => []
  | c :: rest =>
      let image :=
        if c = 'Σ' then
          if casedFirst before && !casedFirst rest then ['ς'] else ['σ']
        else lowerChar c
      image ++ lowerFrom (c :: before) rest

/-- The lower-case form of a text. -/
def lowercase (s : List Char) : List Char :=
  lowerFrom [] s

end Conch.Text
