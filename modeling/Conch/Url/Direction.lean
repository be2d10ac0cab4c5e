import Conch.Unicode.Direction
import Conch.Unicode.Edition

/-!
# The direction of names

A name with a letter that is written from right to left has to be readable in one way only:
each of its labels runs in one direction, and digits and signs stand inside of it.
-/

namespace Conch.Url

/-- How a character behaves in a line. -/
inductive Direction where
  /-- Letters written from left to right. -/
  | leftToRight
  /-- Letters written from right to left. -/
  | rightToLeft
  /-- The digits of Arabic. -/
  | arabicDigit
  /-- The digits of all who write from left to right. -/
  | digit
  /-- Marks on the character before them. -/
  | mark
  /-- Signs and all else. -/
  | sign
  deriving DecidableEq, Repr, Inhabited

/-- The code points of some classes of direction. -/
def directionTable (classes : List String) : Array Unicode.Range :=
  (Unicode.Charset.ofRanges
    (classes.flatMap (Unicode.tableRanges Unicode.directionRanges))).toArray

/-- The letters written from right to left. -/
def rightToLeftTable : Array Unicode.Range := directionTable ["R", "AL"]

/-- The digits of Arabic. -/
def arabicDigitTable : Array Unicode.Range := directionTable ["AN"]

/-- The other digits. -/
def digitTable : Array Unicode.Range := directionTable ["EN"]

/-- The signs. -/
def signTable : Array Unicode.Range := directionTable ["ES", "CS", "ET", "ON", "BN"]

/-- The marks. -/
def markTable : Array Unicode.Range :=
  ((Unicode.Edition.seventeen.gather ["Mn", "Me"] []).difference
    (Unicode.readRanges Unicode.undirectedMarks).toList).toArray

/-- The direction of a character. -/
def Direction.ofChar (c : Char) : Direction :=
  let n := c.toNat
  if Unicode.inRanges rightToLeftTable n then .rightToLeft
  else if Unicode.inRanges arabicDigitTable n then .arabicDigit
  else if Unicode.inRanges digitTable n then .digit
  else if Unicode.inRanges markTable n then .mark
  else if Unicode.inRanges signTable n then .sign
  else .leftToRight

/-- Whether a character brings a name under the rules of direction. -/
def Direction.turns (direction : Direction) : Bool :=
  direction = .rightToLeft || direction = .arabicDigit

/-- Whether the directions of a label's characters make it readable in one way only. -/
def isDirected (label : List Direction) : Bool :=
  let last := (label.reverse.dropWhile (· = .mark)).head?
  match label with
  | [] => true
  | .leftToRight :: _ =>
      (last = some .leftToRight || last = some .digit) &&
        label.all fun direction => !direction.turns
  | .rightToLeft :: rest =>
      (last = some .rightToLeft || last = some .digit || last = some .arabicDigit) &&
        !rest.contains .leftToRight && !(rest.contains .digit && rest.contains .arabicDigit)
  | _ => false

/-- Whether the labels of a name obey the rules of direction, which bind only a name with a
character that turns it. -/
def areDirected (labels : List (List Char)) : Bool :=
  let directions := labels.map (·.map Direction.ofChar)
  !(directions.any (·.any Direction.turns)) || directions.all isDirected

end Conch.Url
