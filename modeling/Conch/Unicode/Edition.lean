import Conch.Unicode.Categories
import Conch.Unicode.Charset
import Conch.Unicode.Properties

/-!
# Editions of the character database

An edition lists the code points of every general category and of every basic property.
The other properties are derived from those lists in the same way in every edition.
Patterns follow edition 16, and everything else follows edition 17.
-/

namespace Conch.Unicode

/-- An edition of the character database: its categories and its listed properties, each
with the ranges of its code points.  A name may have several rows, which add up. -/
structure Edition where
  categories : List (String × String)
  listed : List (String × String)

namespace Edition

/-- The edition that patterns follow. -/
def sixteen : Edition where
  categories := categoryRanges ++ categoryRanges16
  listed := propertyRanges ++ propertyRanges16

/-- The edition that texts follow. -/
def seventeen : Edition where
  categories := categoryRanges ++ categoryRanges17
  listed := propertyRanges ++ propertyRanges17

/-- The code points of some categories and some listed properties, taken together. -/
def gather (edition : Edition) (categories listed : List String) : Charset :=
  Charset.ofRanges <|
    categories.flatMap (tableRanges edition.categories) ++
      listed.flatMap (tableRanges edition.listed)

/-- The categories of letters. -/
def letters : List String :=
  ["Lu", "Ll", "Lt", "Lm", "Lo"]

/-- The letters, the numbers among letters, and what else counts as a letter. -/
def alphabetic (edition : Edition) : Charset :=
  edition.gather ("Nl" :: letters) ["Other_Alphabetic"]

/-- The numbers of every kind. -/
def numeric (edition : Edition) : Charset :=
  edition.gather ["Nd", "Nl", "No"] []

/-- The small letters. -/
def lowercase (edition : Edition) : Charset :=
  edition.gather ["Ll"] ["Other_Lowercase"]

/-- The capital letters. -/
def uppercase (edition : Edition) : Charset :=
  edition.gather ["Lu"] ["Other_Uppercase"]

/-- The letters that are small, capital or both. -/
def cased (edition : Edition) : Charset :=
  edition.gather ["Lu", "Ll", "Lt"] ["Other_Lowercase", "Other_Uppercase"]

/-- The signs that may stand inside of a word. -/
def midWord : Charset :=
  (readRanges
    "27 2E 3A B7 387 55F 5F4 2018-2019 2024 2027 FE13 FE52 FE55 FF07 FF0E FF1A").toList

/-- What is skipped in a search for the nearest letter that has case. -/
def caseIgnorable (edition : Edition) : Charset :=
  (edition.gather ["Mn", "Me", "Cf", "Lm", "Sk"] []).union midWord

/-- What a change to small, title or capital letters changes. -/
def caseChanging (edition : Edition) : Charset :=
  edition.gather []
    ["Changes_When_Lowercased", "Changes_When_Titlecased", "Changes_When_Uppercased"]

/-- The signs of mathematics. -/
def math (edition : Edition) : Charset :=
  edition.gather ["Sm"] ["Other_Math"]

/-- The signs that are set aside for the grammar of a language. -/
def reserved (edition : Edition) : Charset :=
  edition.gather [] ["Pattern_Syntax", "Pattern_White_Space"]

/-- What an identifier may begin with. -/
def identifierStart (edition : Edition) : Charset :=
  (edition.gather ("Nl" :: letters) ["Other_ID_Start"]).difference edition.reserved

/-- What an identifier may hold. -/
def identifierPart (edition : Edition) : Charset :=
  let joined := ["Nl", "Mn", "Mc", "Nd", "Pc"] ++ letters
  (edition.gather joined ["Other_ID_Start", "Other_ID_Continue"]).difference edition.reserved

/-- What may stand in an identifier, but not in the compatible form of one. -/
def unstablePart : Charset :=
  (readRanges "37A 309B-309C FC5E-FC63 FDFA-FDFB FE70-FE7E/2").toList

/-- What may begin an identifier, but not the compatible form of one. -/
def unstableStart : Charset :=
  unstablePart.union (readRanges "E33 EB3 FF9E-FF9F").toList

/-- What the compatible form of an identifier may begin with. -/
def stableStart (edition : Edition) : Charset :=
  edition.identifierStart.difference unstableStart

/-- What the compatible form of an identifier may hold. -/
def stablePart (edition : Edition) : Charset :=
  edition.identifierPart.difference unstablePart

/-- What is drawn on the character before it. -/
def graphemeExtend (edition : Edition) : Charset :=
  edition.gather ["Me", "Mn"] ["Other_Grapheme_Extend"]

/-- The surrogates, which are no characters. -/
def surrogates : Charset :=
  [⟨0xD800, 0xDFFF⟩]

/-- The code points of no category. -/
def unassigned (edition : Edition) : Charset :=
  let assigned := edition.categories.flatMap fun (_, table) => (readRanges table).toList
  (Charset.ofRanges (surrogates ++ assigned)).complement

/-- What is drawn on its own. -/
def graphemeBase (edition : Edition) : Charset :=
  let undrawn := edition.gather ["Cc", "Cf", "Co", "Zl", "Zp"] []
  (undrawn.union (edition.graphemeExtend.union (edition.unassigned.union surrogates))).complement

/-- Format characters that are to be drawn all the same. -/
def drawnFormats : Charset :=
  (readRanges "FFF9-FFFB 13430-13440").toList

/-- What is not drawn where it has no effect. -/
def ignorable (edition : Edition) : Charset :=
  let all := edition.gather ["Cf"] ["Other_Default_Ignorable_Code_Point", "Variation_Selector"]
  let drawn := edition.gather [] ["White_Space", "Prepended_Concatenation_Mark"]
  all.difference (drawn.union drawnFormats)

/-- The rules of the derived properties. -/
def derived : List (String × (Edition → Charset)) := [
  ("Alphabetic", alphabetic),
  ("Case_Ignorable", caseIgnorable),
  ("Cased", cased),
  ("Changes_When_Casemapped", caseChanging),
  ("Default_Ignorable_Code_Point", ignorable),
  ("Grapheme_Base", graphemeBase),
  ("Grapheme_Extend", graphemeExtend),
  ("ID_Continue", identifierPart),
  ("ID_Start", identifierStart),
  ("Lowercase", lowercase),
  ("Math", math),
  ("Uppercase", uppercase),
  ("XID_Continue", stablePart),
  ("XID_Start", stableStart)]

/-- The code points with a property, listed or derived. -/
def property? (edition : Edition) (name : String) : Option Charset :=
  match derived.lookup name with
  | some rule => some (rule edition)
  | none =>
      if edition.listed.any (·.1 == name) then some (edition.gather [] [name]) else none

end Edition

end Conch.Unicode
