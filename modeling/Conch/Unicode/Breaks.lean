import Conch.Unicode.Edition
import Conch.Unicode.Scripts

/-!
# Boundaries between graphemes, words and sentences

Three properties tell how a character behaves at the boundaries of graphemes, words and
sentences.  Each is written as a list of classes: a character belongs to the first class
whose set has it.
-/

namespace Conch.Unicode

/-- The classes of a property, each with a set of characters.  Classes further up go
first. -/
abbrev Partition := List (String × Charset)

/-- The characters of a class: those of its set that no class before it has. -/
def Partition.class? (partition : Partition) (name : String) : Option Charset :=
  let before := partition.takeWhile fun (title, _) => title != name
  (partition.lookup name).map fun set =>
    set.difference (Charset.ofRanges (before.flatMap (·.2)))

/-- The characters of the written ranges. -/
def written (table : String) : Charset :=
  (readRanges table).toList

namespace Edition

/-- What is drawn on the character before it, modifiers of emoji among it. -/
def drawnOn (edition : Edition) : Charset :=
  edition.graphemeExtend.union (edition.gather [] ["Emoji_Modifier"])

/-- Signs that are drawn before what they belong to, but not as part of a number. -/
def drawnBefore : Charset :=
  written "D4E 111C2-111C3 113D1 1193F 11941 11A3A 11A84-11A89 11D46 11F02"

/-- Spacing marks that do not belong to the character before them. -/
def looseMarks : Charset :=
  written
    "102B-102C 1038 1062-1064 1067-106D 1083 1087-108C 108F 109A-109C 1A61 1A63-1A64
     AA7B AA7D 11720-11721"

/-- The classes at the boundaries of graphemes. -/
def graphemeBreaks (edition : Edition) : Partition := [
  ("CR", written "D"),
  ("LF", written "A"),
  ("ZWJ", written "200D"),
  ("Prepend", (edition.gather [] ["Prepended_Concatenation_Mark"]).union drawnBefore),
  ("Extend", edition.drawnOn),
  ("Control",
    (edition.gather ["Zl", "Zp", "Cc", "Cf"] []).union
      (edition.unassigned.intersection edition.ignorable)),
  ("Regional_Indicator", edition.gather [] ["Regional_Indicator"]),
  ("SpacingMark",
    ((edition.gather ["Mc"] []).union (written "E33 EB3")).difference looseMarks),
  ("L", written "1100-115F A960-A97C"),
  ("V", written "1160-11A7 D7B0-D7C6 16D63 16D67-16D6A"),
  ("T", written "11A8-11FF D7CB-D7FB"),
  ("LV", written "AC00-D788/1C"),
  ("LVT", written "AC00-D7A3")]

/-- The digits, and the signs that are drawn around numbers. -/
def numerals (edition : Edition) : Charset :=
  let digits := edition.gather ["Nd"] ["Prepended_Concatenation_Mark"]
  (digits.difference (written "70F")).union (written "66B 19DA")

/-- The scripts whose words are not set apart by spaces, and those of whole syllables. -/
def unspacedScripts : List String :=
  ["Ahom", "Hiragana", "Khmer", "Lao", "Myanmar", "New_Tai_Lue", "Tai_Le", "Tai_Tham",
    "Tai_Viet", "Thai"]

/-- The characters of some scripts. -/
def ofScripts (names : List String) : Charset :=
  Charset.ofRanges (names.flatMap (tableRanges scriptRanges))

/-- Signs that count as letters of a word. -/
def letterSigns : Charset :=
  written
    "B8 2C2-2C5 2D2-2D7 2DE-2DF 2E5-2EB 2ED 2EF-2FF 55A-55C 55E 58A 5F3 70F A708-A716
     A720-A721 A789-A78A AB5B"

/-- The letters of the scripts whose words are set apart by spaces. -/
def spacedLetters (edition : Edition) : Charset :=
  let unspaced := (edition.gather [] ["Ideographic"]).union (ofScripts unspacedScripts)
  (edition.alphabetic.difference unspaced).union letterSigns

/-- The classes at the boundaries of words. -/
def wordBreaks (edition : Edition) : Partition := [
  ("Double_Quote", written "22"),
  ("Single_Quote", written "27"),
  ("CR", written "D"),
  ("LF", written "A"),
  ("Newline", written "B-C 85 2028-2029"),
  ("ZWJ", written "200D"),
  ("Hebrew_Letter", (ofScripts ["Hebrew"]).intersection (edition.gather ["Lo"] [])),
  ("Extend", edition.drawnOn.union (edition.gather ["Mc"] [])),
  ("Regional_Indicator", edition.gather [] ["Regional_Indicator"]),
  ("Numeric", edition.numerals),
  ("Format", (edition.gather ["Cf"] []).difference (written "70F 200B")),
  ("Katakana", (ofScripts ["Katakana"]).union (written "3031-3035 309B-309C 30A0 30FC FF70")),
  ("MidLetter", written "3A B7 387 55F 5F4 2027 FE13 FE55 FF1A"),
  ("MidNumLet", written "2E 2018-2019 2024 FE52 FF07 FF0E"),
  ("MidNum", written "2C 3B 37E 589 60C-60D 66C 7F8 2044 FE10 FE14 FE50 FE54 FF0C FF1B"),
  ("ExtendNumLet", (edition.gather ["Pc"] []).union (written "202F")),
  ("WSegSpace", (edition.gather ["Zs"] []).difference (written "A0 2007")),
  ("ALetter", edition.spacedLetters)]

/-- The classes at the boundaries of sentences. -/
def sentenceBreaks (edition : Edition) : Partition := [
  ("CR", written "D"),
  ("LF", written "A"),
  ("Sep", written "85 2028-2029"),
  ("Extend",
    edition.graphemeExtend.union ((edition.gather ["Mc"] []).union (written "200D"))),
  ("Numeric", edition.numerals.union (written "66C")),
  ("Format", edition.gather ["Cf"] []),
  ("Sp", edition.gather [] ["White_Space"]),
  ("Lower", edition.lowercase.difference (written "10D0-10FA 10FD-10FF")),
  ("Upper",
    (edition.uppercase.union (edition.gather ["Lt"] [])).difference
      (written "1C90-1CBA 1CBD-1CBF")),
  ("OLetter", edition.alphabetic.union (written "5F3")),
  ("ATerm", written "2E 2024 FE52 FF0E"),
  ("SContinue",
    written
      "2C-2D 3A-3B 37E 55D 60C-60D 7F8 1802 1808 2013-2014 3001 FE10-FE11 FE13-FE14
       FE31-FE32 FE50-FE51 FE54-FE55 FE58 FE63 FF0C-FF0D FF1A-FF1B FF64"),
  ("STerm", edition.gather [] ["Sentence_Terminal"]),
  ("Close",
    (edition.gather ["Ps", "Pe", "Pi", "Pf"] []).union
      (written "22 27 275B-2760 2E00-2E01 2E06-2E08 2E0B 1F676-1F678"))]

end Edition

end Conch.Unicode
