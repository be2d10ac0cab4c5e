import Conch.Pattern.Node

/-!
# Escapes

A backslash opens an escape: a character that stands for itself, a class, or a condition on
a place.  The reader of escapes starts at the backslash.
-/

namespace Conch.Pattern

/-- The character that a letter names after a backslash. -/
def namedChar? : Char → Option Char
  | 'a' => some '\x07'
  | 'f' => some '\x0c'
  | 't' => some '\t'
  | 'n' => some '\n'
  | 'r' => some '\r'
  | 'v' => some '\x0b'
  | _ => none

/-- Whether a character stands for itself after a backslash: the ASCII signs but `<` and
`>`. -/
def isPlainEscape (c : Char) : Bool :=
  c.toNat < 128 && !Text.isLetterOrDigit c && c != '<' && c != '>'

/-- The class that a letter names after a backslash; its capital names the complement. -/
def shorthandOf? : Char → Option (Bool × Shorthand)
  | 'd' => some (false, .digit)
  | 'D' => some (true, .digit)
  | 's' => some (false, .space)
  | 'S' => some (true, .space)
  | 'w' => some (false, .word)
  | 'W' => some (true, .word)
  | _ => none

/-- The assertion that a character names after a backslash. -/
def assertionOf? : Char → Option Assertion
  | 'A' => some .textStart
  | 'z' => some .textEnd
  | 'b' => some .wordBoundary
  | 'B' => some .noWordBoundary
  | '<' => some .wordStart
  | '>' => some .wordEnd
  | _ => none

/-- The assertion that a name in braces makes of a word boundary. -/
def boundaryOf? : String → Option Assertion
  | "start" => some .wordStart
  | "end" => some .wordEnd
  | "start-half" => some .wordStartHalf
  | "end-half" => some .wordEndHalf
  | _ => none

/-- The number that hexadecimal digits write. -/
def hexNumber (digits : List Char) : Nat :=
  digits.foldl (fun n c => 16 * n + (Text.hexValue? c).getD 0) 0

/-- The literal of a code point, with the span of its digits to blame when there is no
such character. -/
def literalOf (span digits : Span) (code : Nat) (isOctet : Bool) : Except Mistake Node :=
  if code.isValidChar then .ok (.literal ⟨span, Char.ofNat code, isOctet⟩)
  else digits.mistake .hexNotScalar

/-- Reads so many hexadecimal digits. -/
def readHexDigits : Nat → List Char → Cursor → Except Mistake (List Char × Cursor)
  | 0, digits, cursor => .ok (digits.reverse, cursor)
  | left + 1, digits, cursor =>
      match cursor.peek? with
      | none => cursor.span.mistake .escapeUnfinished
      | some c =>
          if (Text.hexValue? c).isSome then readHexDigits left (c :: digits) cursor.step
          else cursor.charSpan.mistake .hexDigitInvalid

/-- Reads the hexadecimal digits in braces that stand for a character.  The cursor stands
at the opening brace. -/
def readBracedHex (escape : Place) (brace : Cursor) : Except Mistake (Node × Cursor) := do
  let (digits, last) := brace.step.take (· != '}')
  if let some (_, span) := digits.find? fun (c, _) => (Text.hexValue? c).isNone then
    span.mistake .hexDigitInvalid
  else if last.rest.isEmpty then (last.since brace.place).mistake .escapeUnfinished
  else
    let after := last.step
    if digits.isEmpty then (after.since brace.place).mistake .hexEmpty
    else
      let literal ← literalOf (after.since escape) (last.since brace.next.place)
        (hexNumber (digits.map (·.1))) false
      .ok (literal, after)

/-- Reads the hexadecimal digits that stand for a character.  The cursor stands behind the
letter of the escape. -/
def readHex (escape : Place) (letter : Char) (cursor : Cursor) :
    Except Mistake (Node × Cursor) := do
  match cursor.peek? with
  | none => cursor.span.mistake .escapeUnfinished
  | some '{' => readBracedHex escape cursor
  | some _ =>
      let count := if letter = 'x' then 2 else if letter = 'u' then 4 else 8
      let (digits, after) ← readHexDigits count [] cursor
      let literal ← literalOf (after.since escape) (after.since cursor.place)
        (hexNumber digits) (letter = 'x')
      .ok (literal, after)

/-- A text cut at the first occurrence of a separator, which is left out. -/
def cutAt? (separator : List Char) : List Char → Option (List Char × List Char)
  | [] => none
  | c :: rest =>
      match Text.afterStart? separator (c :: rest) with
      | some after => some ([], after)
      | none => (cutAt? separator rest).map fun (before, after) => (c :: before, after)

/-- What the name in the braces of a property escape asks for, and whether it asks for all
other characters. -/
def queryOf (name : List Char) : Bool × PropertyQuery :=
  match cutAt? ['!', '='] name with
  | some (property, value) => (true, .valued (String.ofList property) (String.ofList value))
  | none =>
      match cutAt? [':'] name <|> cutAt? ['='] name with
      | some (property, value) =>
          (false, .valued (String.ofList property) (String.ofList value))
      | none => (false, .named (String.ofList name))

/-- Reads the name of a property: one letter, or any text in braces.  The cursor stands
behind the letter of the escape. -/
def readProperty (escape : Place) (negated : Bool) (cursor : Cursor) :
    Except Mistake (Node × Cursor) :=
  match cursor.peek? with
  | none => cursor.span.mistake .escapeUnfinished
  | some '{' =>
      let (name, last) := cursor.step.take (· != '}')
      if last.rest.isEmpty then last.span.mistake .escapeUnfinished
      else
        let (differs, query) := queryOf (name.map (·.1))
        .ok (.property (last.next.since escape) (negated != differs) query, last.next)
  | some '\\' => cursor.charSpan.mistake .propertyInvalid
  | some c =>
      let after := cursor.step
      .ok (.property (after.since escape) negated (.named (String.singleton c)), after)

/-- Whether a character may stand in the name of a word boundary. -/
def isBoundaryChar (c : Char) : Bool :=
  Text.isLetter c || c = '-'

/-- Reads the name in braces that may follow a word boundary; `none` where the braces hold
no name and so may count repetitions.  The cursor stands at the opening brace. -/
def readBoundaryName? (escape : Place) (brace : Cursor) :
    Except Mistake (Option (Assertion × Cursor)) :=
  let inner := brace.step
  match inner.peek? with
  | none => (inner.since escape).mistake .boundaryUnfinished
  | some c =>
      if !isBoundaryChar c then .ok none
      else
        let (name, last) := inner.take isBoundaryChar
        if last.peek? ≠ some '}' then (last.since brace.place).mistake .boundaryUnclosed
        else
          match boundaryOf? (String.ofList (name.map (·.1))) with
          | some assertion => .ok (some (assertion, last.next))
          | none => (last.since inner.place).mistake .boundaryUnknown

/-- Reads an escape that is a single character behind its backslash, or a word boundary. -/
def readShortEscape (escape : Place) (c : Char) (after : Cursor) :
    Except Mistake (Node × Cursor) := do
  let span := after.since escape
  if isPlainEscape c then .ok (.literal ⟨span, c, false⟩, after)
  else if let some char := namedChar? c then .ok (.literal ⟨span, char, false⟩, after)
  else if let some assertion := assertionOf? c then
    if c = 'b' && after.peek? = some '{' then
      match ← readBoundaryName? escape after with
      | some (named, behind) => .ok (.assertion (behind.since escape) named, behind)
      | none => .ok (.assertion span assertion, after)
    else .ok (.assertion span assertion, after)
  else span.mistake .escapeUnknown

/-- Reads an escape.  The cursor stands at the backslash. -/
def readEscape (cursor : Cursor) : Except Mistake (Node × Cursor) :=
  let escape := cursor.place
  let letter := cursor.next
  match letter.peek? with
  | none => (letter.since escape).mistake .escapeUnfinished
  | some c =>
      if Text.isDigit c then (letter.next.since escape).mistake .backreference
      else if c = 'x' || c = 'u' || c = 'U' then readHex escape c letter.step
      else if c = 'p' || c = 'P' then readProperty escape (c = 'P') letter.step
      else if let some (negated, kind) := shorthandOf? c then
        .ok (.shorthand (letter.next.since escape) negated kind, letter.next)
      else readShortEscape escape c letter.next

end Conch.Pattern
