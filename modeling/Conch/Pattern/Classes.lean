import Conch.Pattern.Node
import Conch.Unicode.Ages
import Conch.Unicode.Breaks
import Conch.Unicode.Charset
import Conch.Unicode.Edition
import Conch.Unicode.Names
import Conch.Unicode.ScriptExtensions
import Conch.Unicode.Scripts

/-!
# Named classes of characters

The characters of the classes that a pattern can name: the classes of one letter, the
classes of ASCII characters, and the properties of Unicode.
-/

namespace Conch.Pattern

open Unicode (Charset Range)

/-- The ranges between pairs of characters. -/
def charRanges (pairs : List (Char × Char)) : Charset :=
  pairs.map fun (first, last) => ⟨first.toNat, last.toNat⟩

/-- The characters of a class of ASCII characters. -/
def AsciiClass.set : AsciiClass → Charset
  | .alnum => charRanges [('0', '9'), ('A', 'Z'), ('a', 'z')]
  | .alpha => charRanges [('A', 'Z'), ('a', 'z')]
  | .ascii => charRanges [('\x00', '\x7f')]
  | .blank => charRanges [('\t', '\t'), (' ', ' ')]
  | .cntrl => charRanges [('\x00', '\x1f'), ('\x7f', '\x7f')]
  | .digit => charRanges [('0', '9')]
  | .graph => charRanges [('!', '~')]
  | .lower => charRanges [('a', 'z')]
  | .print => charRanges [(' ', '~')]
  | .punct => charRanges [('!', '/'), (':', '@'), ('[', '`'), ('{', '~')]
  | .space => charRanges [('\t', '\r'), (' ', ' ')]
  | .upper => charRanges [('A', 'Z')]
  | .word => charRanges [('0', '9'), ('A', 'Z'), ('_', '_'), ('a', 'z')]
  | .xdigit => charRanges [('0', '9'), ('A', 'F'), ('a', 'f')]

/-- The edition of the character database that patterns follow. -/
def edition : Unicode.Edition :=
  Unicode.Edition.sixteen

/-- The decimal digits of all scripts. -/
def digitSet : Charset :=
  edition.gather ["Nd"] []

/-- The blanks. -/
def spaceSet : Charset :=
  edition.gather [] ["White_Space"]

/-- The characters of words: letters, marks, digits, and what joins them. -/
def wordSet : Charset :=
  edition.alphabetic.union (edition.gather ["Mc", "Me", "Mn", "Nd", "Pc"] ["Join_Control"])

/-- The characters of a class with an escape of one letter. -/
def Shorthand.set : Shorthand → Charset
  | .digit => digitSet
  | .space => spaceSet
  | .word => wordSet

/-- The ASCII characters of a class with an escape of one letter. -/
def Shorthand.asciiSet : Shorthand → Charset
  | .digit => AsciiClass.digit.set
  | .space => AsciiClass.space.set
  | .word => AsciiClass.word.set

/-- The characters of one general category; there are none of surrogates. -/
def categorySet? (name : String) : Option Charset :=
  if name = "Cn" then some edition.unassigned
  else if name = "Cs" then none
  else some (edition.gather [name] [])

/-- The names of the categories in a group. -/
def groupMembers? (name : String) : Option (List String) :=
  ((Unicode.readRows Unicode.categoryGroups).map (·.map String.ofList)).findSome? fun row =>
    match row with
    | [] => none
    | group :: members => if group = name then some members else none

/-- The characters of a general category or of a group of them.  In a group the surrogates
close the gap between their neighbours. -/
def categoriesSet? (name : String) : Option Charset :=
  match groupMembers? name with
  | some members =>
      some <| Charset.ofRanges <|
        members.flatMap fun member =>
          (categorySet? member).getD Unicode.Edition.surrogates
  | none => categorySet? name

/-- The characters of a category in any spelling: `any`, `assigned` and `ascii` are
spellings of categories too.  `none` if there is no such spelling, and no set if there are no
such characters. -/
def spelledCategory? (spelling : List Char) : Option (Option Charset) :=
  match String.ofList spelling with
  | "any" => some (some [⟨0, Unicode.lastCodePoint⟩])
  | "assigned" => some (some edition.unassigned.complement)
  | "ascii" => some (some AsciiClass.ascii.set)
  | _ => (Unicode.categorySpellings.lookup spelling).map categoriesSet?

/-- The characters of a script. -/
def scriptSet? (name : String) : Option Charset :=
  (Unicode.scriptRanges.lookup name).map fun table => (Unicode.readRanges table).toList

/-- The characters that are used with a script. -/
def extendedScriptSet? (name : String) : Option Charset :=
  match Unicode.scriptExtensionRanges.lookup name with
  | some table => some (Unicode.readRanges table).toList
  | none => scriptSet? name

/-- The characters that a value of a property has, for a value in any spelling. -/
def spelledValue? (names : String) (set? : String → Option Charset) (spelling : List Char) :
    Option (Option Charset) :=
  ((Unicode.spellings names).lookup spelling).map set?

/-- The characters of a script in any spelling. -/
def spelledScript? (spelling : List Char) : Option (Option Charset) :=
  spelledValue? Unicode.scriptNames scriptSet? spelling

/-- A set that a spelling stands for, or the problem that it stands for none. -/
def valueSet (found : Option (Option Charset)) : Except Problem Charset :=
  match found with
  | some (some set) => .ok set
  | _ => .error .propertyValueUnknown

/-- The characters of a property, a category or a script.  Three spellings of categories are
spellings of properties too, and are not taken as such. -/
def namedSet (name : String) : Except Problem Charset :=
  let spelling := Unicode.normalSpelling name.toList
  let isCategory := ["cf", "sc", "lc"].contains (String.ofList spelling)
  match if isCategory then none else Unicode.propertySpellings.lookup spelling with
  | some property =>
      match edition.property? property with
      | some set => .ok set
      | none => .error .propertyUnknown
  | none =>
      match spelledCategory? spelling <|> spelledScript? spelling with
      | none => .error .propertyUnknown
      | found => valueSet found

/-- The characters for which a property has a value. -/
def valuedSet (property value : String) : Except Problem Charset :=
  let spelling := Unicode.normalSpelling value.toList
  match Unicode.propertySpellings.lookup (Unicode.normalSpelling property.toList) with
  | none => .error .propertyUnknown
  | some "General_Category" => valueSet (spelledCategory? spelling)
  | some "Script" => valueSet (spelledScript? spelling)
  | some "Script_Extensions" =>
      valueSet (spelledValue? Unicode.scriptNames extendedScriptSet? spelling)
  | some "Age" =>
      valueSet <|
        spelledValue? Unicode.ageNames (fun name => (Unicode.knownBy? name).map Charset.ofRanges)
          spelling
  | some "Grapheme_Cluster_Break" =>
      valueSet <|
        spelledValue? Unicode.graphemeBreakNames edition.graphemeBreaks.class? spelling
  | some "Word_Break" =>
      valueSet (spelledValue? Unicode.wordBreakNames edition.wordBreaks.class? spelling)
  | some "Sentence_Break" =>
      valueSet (spelledValue? Unicode.sentenceBreakNames edition.sentenceBreaks.class? spelling)
  | some _ => .error .propertyValueUnknown

/-- The characters that a property escape asks for. -/
def PropertyQuery.set : PropertyQuery → Except Problem Charset
  | .named name => namedSet name
  | .valued property value => valuedSet property value

end Conch.Pattern
