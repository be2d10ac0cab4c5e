import Conch.Toml.Quoted
import Conch.Toml.Scalar

/-!
# Reading a configuration text

A text is a sequence of lines: settings, headers and comments.  The first error makes the
whole text unreadable; which one it is does not matter here, so reading gives the table of
the text or nothing.
-/

namespace Conch.Toml

/-- A text with its line ends as single line feeds. -/
def unifyLineEnds : List Char → List Char
  | [] => []
  | '\r' :: '\n' :: rest => '\n' :: unifyLineEnds rest
  | c :: rest => c :: unifyLineEnds rest

/-- A text without the blanks it starts with. -/
def skipSpaces (s : List Char) : List Char :=
  s.dropWhile isSpace

/-- Skips the rest of a line that may hold a comment only, up to its line feed. -/
def skipComment? (s : List Char) : Option (List Char) :=
  match skipSpaces s with
  | [] => some []
  | '\n' :: rest => some ('\n' :: rest)
  | '#' :: rest =>
      match rest.dropWhile isVisible with
      | [] => some []
      | '\n' :: rest => some ('\n' :: rest)
      | _ => none
  | _ => none

/-- Skips blanks, line ends and comments, as they may stand between the items of an
array. -/
def skipLines? : Nat → List Char → Option (List Char)
  | 0, s => some s
  | left + 1, s =>
      match skipSpaces s with
      | '\n' :: rest => skipLines? left rest
      | '#' :: rest =>
          match rest.dropWhile isVisible with
          | '\n' :: rest => skipLines? left rest
          | _ => none
      | s => some s

/-- The levels that arrays, tables and dotted keys may nest, plus one. -/
def depthLimit : Nat := 80

/-- Whether a character may stand in a key without quotes. -/
def isKeyChar (c : Char) : Bool :=
  Text.isLetterOrDigit c || c = '-' || c = '_'

/-- Reads one part of a key. -/
def readKeyPart (s : List Char) : Option (String × List Char) :=
  match s with
  | '"' :: _ | '\'' :: _ => readShortString s
  | _ =>
      let part := s.takeWhile isKeyChar
      if part.isEmpty then none else some (String.ofList part, s.dropWhile isKeyChar)

/-- Reads the parts of a key with dots between them, and the blanks around them. -/
def readKey : Nat → List Char → Option (List String × List Char)
  | 0, _ => none
  | left + 1, s => do
      let (part, rest) ← readKeyPart (skipSpaces s)
      match skipSpaces rest with
      | '.' :: rest =>
          let (parts, rest) ← readKey left rest
          return (part :: parts, rest)
      | rest => return ([part], rest)

/-- The longest key that is read. -/
def maxKeyParts : Nat := depthLimit - 1

/-- A key taken apart into the way to its last part and that part. -/
def splitKey (parts : List String) : List String × String :=
  (parts.dropLast, parts.getLast?.getD "")

mutual

/-- Reads a value within which values may nest `depth - 1` levels. -/
def readValue : Nat → Nat → List Char → Option (Item × List Char)
  | 0, _, _ => none
  | left + 1, depth, s =>
      match s with
      | '"' :: _ | '\'' :: _ => (readString s).map fun (text, rest) => (.text text, rest)
      | '[' :: rest =>
          if depth ≤ 1 then none
          else (readItems left (depth - 1) rest).map fun (items, rest) => (.array items, rest)
      | '\x7b' :: rest =>
          if depth ≤ 1 then none
          else do
            let (settings, rest) ← readPairs left (depth - 1) true rest
            let members ← Members.setAll [] settings
            return (.table .inline members, rest)
      | _ => readScalar s

/-- Reads the items of an array and its closing bracket. -/
def readItems : Nat → Nat → List Char → Option ((List Item) × List Char)
  | 0, _, _ => none
  | left + 1, depth, s => do
      let s ← skipLines? (s.length + 1) s
      match s with
      | ']' :: rest => return ([], rest)
      | _ =>
          let (item, rest) ← readValue left depth s
          let rest ← skipLines? (rest.length + 1) rest
          match rest with
          | ',' :: rest =>
              let (items, rest) ← readItems left depth rest
              return (item :: items, rest)
          | ']' :: rest => return ([item], rest)
          | _ => none

/-- Reads the settings of a table in braces and its closing brace.  No comma stands before
the brace. -/
def readPairs : Nat → Nat → Bool → List Char → Option ((List Setting) × List Char)
  | 0, _, _, _ => none
  | left + 1, depth, isFirst, s =>
      match skipSpaces s, isFirst with
      | '\x7d' :: rest, true => some ([], rest)
      | s, _ => do
          let (setting, rest) ← readSetting left depth s
          match skipSpaces rest with
          | ',' :: rest =>
              let (settings, rest) ← readPairs left depth false rest
              return (setting :: settings, rest)
          | '\x7d' :: rest => return ([setting], rest)
          | _ => none

/-- Reads a key, the sign after it and its value. -/
def readSetting : Nat → Nat → List Char → Option (Setting × List Char)
  | 0, _, _ => none
  | left + 1, depth, s => do
      let (parts, rest) ← readKey maxKeyParts s
      match rest with
      | '=' :: rest =>
          let (value, rest) ← readValue left depth (skipSpaces rest)
          let (path, key) := splitKey parts
          return (⟨path, key, value⟩, rest)
      | _ => none

end

/-- A header as read. -/
structure Header where
  isEntry : Bool
  path : List String

/-- Reads a header, at its bracket. -/
def readHeader (s : List Char) : Option (Header × List Char) :=
  match s with
  | '[' :: '[' :: rest => do
      let (path, rest) ← readKey maxKeyParts rest
      match rest with
      | ']' :: ']' :: rest => return (⟨true, path⟩, rest)
      | _ => none
  | '[' :: rest => do
      let (path, rest) ← readKey maxKeyParts rest
      match rest with
      | ']' :: rest => return (⟨false, path⟩, rest)
      | _ => none
  | _ => none

/-- The settings and sections of a text from a line on: the settings before its first
header, and the sections after it. -/
def readLines : Nat → List Char → Option ((List Setting) × (List Section))
  | 0, _ => none
  | left + 1, s =>
      match skipSpaces s with
      | [] => some ([], [])
      | '\n' :: rest => readLines left rest
      | '#' :: rest => do readLines left (← skipComment? ('#' :: rest))
      | '[' :: rest => do
          let (header, rest) ← readHeader ('[' :: rest)
          let (settings, sections) ← readLines left (← skipComment? rest)
          return ([], ⟨header.isEntry, header.path, settings⟩ :: sections)
      | s => do
          let (setting, rest) ← readSetting (3 * s.length + 3) depthLimit s
          let (settings, sections) ← readLines left (← skipComment? rest)
          return (setting :: settings, sections)

/-- A text without the mark of its encoding. -/
def dropMark : List Char → List Char
  | '\uFEFF' :: rest => rest
  | s => s

/-- The table of a configuration text. -/
def read? (text : String) : Option Members := do
  let s := unifyLineEnds (dropMark text.toList)
  let (settings, sections) ← readLines (s.length + 1) s
  assemble settings sections

end Conch.Toml
