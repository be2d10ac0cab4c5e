import Conch.Text.Ascii
import Conch.Text.Utf8

/-!
# Reading positions in JSON texts

A cursor is what is left of a text with the number of octets before it.  An error
carries the offset that it points at, which becomes a line and a column when the whole
text is at hand.
-/

namespace Conch.Json

/-- What can be wrong with a JSON text. -/
inductive Problem where
  | endInArray
  | endInObject
  | endInString
  | endInValue
  | colonExpected
  | arrayCommaOrEndExpected
  | objectCommaOrEndExpected
  | wordExpected
  | valueExpected
  | badEscape
  | badNumber
  | numberOutOfRange
  | controlCharacter
  | keyNotString
  | loneSurrogate
  | trailingComma
  | trailingCharacters
  | endOfHexEscape
  | tooDeep
  /-- A value of another type than the one expected. -/
  | wrongType (found expected : String)
  /-- An array of too few items. -/
  | wrongLength (found : Nat) (expected : String)
  | memberMissing (name : String)
  | memberRepeated (name : String)
  deriving DecidableEq, Repr, Inhabited

/-- The wording of a problem. -/
def Problem.message : Problem → String
  | .endInArray => "EOF while parsing a list"
  | .endInObject => "EOF while parsing an object"
  | .endInString => "EOF while parsing a string"
  | .endInValue => "EOF while parsing a value"
  | .colonExpected => "expected `:`"
  | .arrayCommaOrEndExpected => "expected `,` or `]`"
  | .objectCommaOrEndExpected => "expected `,` or `\x7d`"
  | .wordExpected => "expected ident"
  | .valueExpected => "expected value"
  | .badEscape => "invalid escape"
  | .badNumber => "invalid number"
  | .numberOutOfRange => "number out of range"
  | .controlCharacter =>
      "control character (\\u0000-\\u001F) found while parsing a string"
  | .keyNotString => "key must be a string"
  | .loneSurrogate => "lone leading surrogate in hex escape"
  | .trailingComma => "trailing comma"
  | .trailingCharacters => "trailing characters"
  | .endOfHexEscape => "unexpected end of hex escape"
  | .tooDeep => "recursion limit exceeded"
  | .wrongType found expected => "invalid type: " ++ found ++ ", expected " ++ expected
  | .wrongLength found expected =>
      "invalid length " ++ toString found ++ ", expected " ++ expected
  | .memberMissing name => "missing field `" ++ name ++ "`"
  | .memberRepeated name => "duplicate field `" ++ name ++ "`"

/-- A problem with the offset that it points at. -/
structure ReadError where
  problem : Problem
  offset : Nat
  deriving DecidableEq, Repr, Inhabited

/-- The line and the column of an offset: the octets since the last line feed before
it. -/
def lineAndColumn (bytes : List UInt8) (offset : Nat) : Nat × Nat :=
  (bytes.take offset).foldl
    (fun place (b : UInt8) =>
      if b = 10 then (place.1 + 1, 0) else (place.1, place.2 + 1)) (1, 0)

/-- The wording of an error in the text it was found in. -/
def ReadError.message (error : ReadError) (bytes : List UInt8) : String :=
  let (line, column) := lineAndColumn bytes error.offset
  error.problem.message ++ " at line " ++ toString line ++ " column " ++ toString column

/-- A place in a text. -/
structure Cursor where
  offset : Nat
  rest : List UInt8
  deriving DecidableEq, Repr, Inhabited

namespace Cursor

/-- The start of a text. -/
def start (bytes : List UInt8) : Cursor := ⟨0, bytes⟩

/-- The next octet. -/
def peek? (cursor : Cursor) : Option UInt8 :=
  cursor.rest.head?

/-- The place behind the next octet. -/
def next (cursor : Cursor) : Cursor :=
  match cursor.rest with
  | [] => cursor
  | _ :: rest => ⟨cursor.offset + 1, rest⟩

/-- The place so many octets further on, or the end. -/
def skip (cursor : Cursor) (count : Nat) : Cursor :=
  ⟨cursor.offset + min count cursor.rest.length, cursor.rest.drop count⟩

/-- A problem at the octets read so far. -/
def fault {α : Type} (cursor : Cursor) (problem : Problem) : Except ReadError α :=
  .error ⟨problem, cursor.offset⟩

/-- A problem with the octet to be read. -/
def faultAhead {α : Type} (cursor : Cursor) (problem : Problem) : Except ReadError α :=
  .error ⟨problem, cursor.next.offset⟩

/-- The place behind the octets that `keep` selects. -/
def skipWhile (keep : UInt8 → Bool) (cursor : Cursor) : Cursor :=
  ⟨cursor.offset + (cursor.rest.takeWhile keep).length, cursor.rest.dropWhile keep⟩

/-- The place behind blanks. -/
def skipBlanks (cursor : Cursor) : Cursor :=
  cursor.skipWhile fun b => b = 32 || b = 10 || b = 9 || b = 13

end Cursor

/-- Whether an octet is a decimal digit. -/
def isDigitByte (b : UInt8) : Bool :=
  48 ≤ b && b ≤ 57

/-- The octet of an ASCII character. -/
def byteOf (c : Char) : UInt8 :=
  c.toNat.toUInt8

end Conch.Json
