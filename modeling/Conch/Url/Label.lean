import Conch.Text.Pieces
import Conch.Unicode.Joining
import Conch.Url.Direction
import Conch.Url.Mapping
import Conch.Url.Punycode

/-!
# Labels of names

A name consists of labels with dots between them.  A label beyond ASCII is written in
punycode behind a mark; what is written so has to be the form of names already.
-/

namespace Conch.Url

/-- The text that marks a label written in punycode. -/
def punycodeMark : List Char := "xn--".toList

/-- The longest text that is read as punycode. -/
def maxWritten : Nat := 2000

/-- The longest label that is written in punycode. -/
def maxLabel : Nat := 1000

/-- The characters that no name may have. -/
def isForbidden (c : Char) : Bool :=
  c.toNat ≤ 0x20 || c.toNat = 0x7F || "%#/:<>?@[\\]^|".toList.contains c

/-- Whether a character belongs to ASCII. -/
def isAscii (c : Char) : Bool :=
  c.toNat < 0x80

/-- The marks, which no label begins with. -/
def combiningTable : Array Unicode.Range :=
  (Unicode.Edition.seventeen.gather ["Mn", "Mc", "Me"] []).toArray

/-- The code points that join with what follows them. -/
def forwardTable : Array Unicode.Range :=
  (Unicode.Charset.ofRanges
    ((Unicode.readRanges Unicode.joiningOnBothSides).toList ++
      (Unicode.readRanges Unicode.joiningForward).toList)).toArray

/-- The code points that join with what comes before them. -/
def backwardTable : Array Unicode.Range :=
  (Unicode.Charset.ofRanges
    ((Unicode.readRanges Unicode.joiningOnBothSides).toList ++
      (Unicode.readRanges Unicode.joiningBackward).toList)).toArray

/-- The code points through which their neighbours join. -/
def throughTable : Array Unicode.Range :=
  (Unicode.Charset.ofRanges
    (Unicode.Edition.seventeen.gather ["Mn", "Me"] [] ++
      (Unicode.readRanges Unicode.joiningThrough).toList)).toArray

/-- Whether the first character through which no neighbours join is in a table. -/
def joinsIn (table : Array Unicode.Range) : List Char → Bool
  | [] => false
  | c :: rest =>
      Unicode.inRanges table c.toNat ||
        (Unicode.inRanges throughTable c.toNat && joinsIn table rest)

/-- The combining class of the sign that takes the vowel from a letter. -/
def vowelKiller : Nat := 9

/-- Whether a joiner may stand between texts, of which the first is held last first: after
the sign that takes the vowel from a letter, and the one that keeps letters apart also where
they would join. -/
def mayJoin (joiner : Char) (before after : List Char) : Bool :=
  before.head?.any (fun c => Unicode.combiningClass c.toNat = vowelKiller) ||
    (joiner = '\u200c' && joinsIn forwardTable before && joinsIn backwardTable after)

/-- Whether the joiners of a label stand where they may, given the characters before it, last
first. -/
def joinersFit (before : List Char) : List Char → Bool
  | [] => true
  | c :: rest =>
      ((c ≠ '\u200c' && c ≠ '\u200d') || mayJoin c before rest) && joinersFit (c :: before) rest

/-- Whether a label in the form of names is well formed. -/
def isWellFormed (label : List Char) : Bool :=
  !(label.head?.any fun c => Unicode.inRanges combiningTable c.toNat) && joinersFit [] label &&
    (label.all isAscii || label.length ≤ maxLabel)

/-- The label that is written in punycode. -/
def decoded? (code : List Char) : Option (List Char) :=
  if code.isEmpty || code.getLast? = some '-' || maxWritten < code.length ||
      !code.all isAscii then none
  else
    match Punycode.decode code with
    | none => none
    | some label => if nameForm? label = some label then some label else none

/-- The label that a part of a name in the form of names stands for. -/
def labelOf? (part : List Char) : Option (List Char) :=
  let label :=
    match Text.afterStart? punycodeMark part with
    | some code => decoded? code
    | none => some part
  match label with
  | none => none
  | some label => if isWellFormed label then some label else none

/-- A label in ASCII. -/
def writtenLabel (label : List Char) : List Char :=
  if label.all isAscii then label else punycodeMark ++ Punycode.encode label

/-- The name that a text stands for, in ASCII. -/
def writtenName? (text : List Char) : Option (List Char) :=
  match nameForm? text with
  | none => none
  | some name =>
      if name.any isForbidden then none
      else
        match (Text.splitBy (· = '.') name).mapM labelOf? with
        | none => none
        | some labels =>
            if areDirected labels then
              some (['.'].intercalate (labels.map writtenLabel))
            else none

end Conch.Url
