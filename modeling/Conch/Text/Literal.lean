import Conch.Unicode.Edition

/-!
# Texts as literals

A text quoted for a message: between double quotes, with an escape for every character
that a reader could not tell apart from its surroundings.
-/

namespace Conch.Text

/-- The code points that leave no mark of their own, and those that are drawn on the
character before them. -/
def unprintedTable : Array Unicode.Range :=
  let edition := Unicode.Edition.seventeen
  let unseen := edition.gather ["Cc", "Cf", "Co", "Zl", "Zp", "Zs", "Me", "Mn"] []
  let drawnOn := edition.graphemeExtend.difference (edition.gather ["Lm"] [])
  (unseen.union (drawnOn.union (edition.ignorable.union edition.unassigned))).toArray

/-- Whether a character stands in a literal as itself. -/
def isPrinted (c : Char) : Bool :=
  c = ' ' || !Unicode.inRanges unprintedTable c.toNat

/-- The hexadecimal digits of a number without leading zeros. -/
def plainHex (n : Nat) : List Char :=
  Nat.toDigits 16 n

/-- A character within a literal. -/
def literalChar (c : Char) : List Char :=
  if c = '"' then ['\\', '"']
  else if c = '\\' then ['\\', '\\']
  else if c = '\n' then ['\\', 'n']
  else if c = '\r' then ['\\', 'r']
  else if c = '\t' then ['\\', 't']
  else if c.toNat = 0 then ['\\', '0']
  else if isPrinted c then [c]
  else '\\' :: 'u' :: '\x7b' :: plainHex c.toNat ++ ['\x7d']

/-- The literal of a text. -/
def literal (s : String) : String :=
  String.ofList ('"' :: s.toList.flatMap literalChar ++ ['"'])

end Conch.Text
