import Conch.Text.Ascii

/-!
# Strings of a configuration text

Four ways of quoting: basic and literal, on one line or on several.  Basic strings have
escapes, literal ones do not.  Line ends are single line feeds here.
-/

namespace Conch.Toml

/-- Whether a character may stand in a string or a comment as itself. -/
def isVisible (c : Char) : Bool :=
  c = '\t' || (0x20 ≤ c.toNat && c.toNat ≠ 0x7F)

/-- A blank within a line. -/
def isSpace (c : Char) : Bool :=
  c = ' ' || c = '\t'

/-- Where reading a basic string stands. -/
inductive Mode where
  | plain
  /-- Behind a backslash. -/
  | escape
  /-- Within an escape by number, with digits to come. -/
  | digits (more value : Nat)
  /-- Behind a backslash and blanks, where a line end has to follow. -/
  | lineEnd
  /-- Behind a line end that a backslash removes, with all the blanks after it. -/
  | skipping
  deriving DecidableEq, Repr

/-- The character of an escape with a letter. -/
def escapeChar? (c : Char) : Option Char :=
  match c with
  | 'b' => some (Char.ofNat 8)
  | 't' => some '\t'
  | 'n' => some '\n'
  | 'f' => some (Char.ofNat 12)
  | 'r' => some '\r'
  | '"' => some '"'
  | '\\' => some '\\'
  | _ => none

/-- One character of a basic string outside plain text: the mode after it, and the
characters it completes.  `none` if it is out of place. -/
def Mode.step (isLong : Bool) : Mode → Char → Option (Mode × List Char)
  | .escape, c =>
      match escapeChar? c with
      | some image => some (.plain, [image])
      | none =>
          if c = 'u' then some (.digits 3 0, [])
          else if c = 'U' then some (.digits 7 0, [])
          else if !isLong then none
          else if c = '\n' then some (.skipping, [])
          else if isSpace c then some (.lineEnd, [])
          else none
  | .digits more value, c =>
      match Text.hexValue? c with
      | none => none
      | some d =>
          let value := 16 * value + d
          match more with
          | more + 1 => some (.digits more value, [])
          | 0 => if value.isValidChar then some (.plain, [Char.ofNat value]) else none
  | .lineEnd, c =>
      if c = '\n' then some (.skipping, []) else if isSpace c then some (.lineEnd, []) else none
  | mode, _ => some (mode, [])

/-- Reads a basic string on one line after its quote.  The characters read are held last
first. -/
def readBasic (taken : List Char) : Mode → List Char → Option (String × List Char)
  | _, [] => none
  | .plain, c :: rest =>
      if c = '"' then some (String.ofList taken.reverse, rest)
      else if c = '\\' then readBasic taken .escape rest
      else if isVisible c then readBasic (c :: taken) .plain rest
      else none
  | mode, c :: rest =>
      match mode.step false c with
      | none => none
      | some (mode, chars) => readBasic (chars ++ taken) mode rest

/-- The end of a string on several lines: up to two quotes directly before the closing
three belong to the string. -/
def closeLong (quote : Char) (taken rest : List Char) : String × List Char :=
  let extra := (rest.takeWhile (· = quote)).take 2
  (String.ofList (taken.reverse ++ extra), rest.drop extra.length)

/-- Reads a basic string on several lines after its quotes. -/
def readLongBasic (taken : List Char) : Mode → List Char → Option (String × List Char)
  | _, [] => none
  | .plain, '"' :: '"' :: '"' :: rest => some (closeLong '"' taken rest)
  | .skipping, '"' :: '"' :: '"' :: rest => some (closeLong '"' taken rest)
  | .plain, c :: rest =>
      if c = '\\' then readLongBasic taken .escape rest
      else if isVisible c || c = '\n' then readLongBasic (c :: taken) .plain rest
      else none
  | .skipping, c :: rest =>
      if c = '\n' || isSpace c then readLongBasic taken .skipping rest
      else if c = '\\' then readLongBasic taken .escape rest
      else if isVisible c then readLongBasic (c :: taken) .plain rest
      else none
  | mode, c :: rest =>
      match mode.step true c with
      | none => none
      | some (mode, chars) => readLongBasic (chars ++ taken) mode rest

/-- Reads a literal string on one line after its quote. -/
def readLiteral (taken : List Char) : List Char → Option (String × List Char)
  | [] => none
  | c :: rest =>
      if c = '\'' then some (String.ofList taken.reverse, rest)
      else if isVisible c then readLiteral (c :: taken) rest
      else none

/-- Reads a literal string on several lines after its quotes. -/
def readLongLiteral (taken : List Char) : List Char → Option (String × List Char)
  | [] => none
  | '\'' :: '\'' :: '\'' :: rest => some (closeLong '\'' taken rest)
  | c :: rest =>
      if isVisible c || c = '\n' then readLongLiteral (c :: taken) rest else none

/-- A text without the line feed it starts with. -/
def dropLineFeed : List Char → List Char
  | '\n' :: rest => rest
  | s => s

/-- Reads a string on one line, at its quote. -/
def readShortString : List Char → Option (String × List Char)
  | '"' :: rest => readBasic [] .plain rest
  | '\'' :: rest => readLiteral [] rest
  | _ => none

/-- Reads a string of any kind, at its quotes. -/
def readString : List Char → Option (String × List Char)
  | '"' :: '"' :: '"' :: rest => readLongBasic [] .plain (dropLineFeed rest)
  | '\'' :: '\'' :: '\'' :: rest => readLongLiteral [] (dropLineFeed rest)
  | s => readShortString s

/-- The ways of quoting that a value can be written in. -/
inductive Quoting where
  | basic
  | literal
  | longBasic
  | longLiteral
  deriving DecidableEq, Repr

/-- The longest run of a character. -/
def longestRun (c : Char) (s : List Char) : Nat :=
  (s.foldl
    (fun (run, longest) d => if d = c then (run + 1, max longest (run + 1)) else (0, longest))
    (0, 0)).2

/-- Whether a character can only be written as an escape. -/
def needsEscape (c : Char) : Bool :=
  c ≠ '\t' && c ≠ '\n' && (c.toNat < 0x20 || c.toNat = 0x7F)

/-- The first way of quoting that leaves a text as it is; if there is none, a basic
string. -/
def Quoting.choose (s : List Char) : Quoting :=
  let escapes := s.any needsEscape
  let backslash := s.contains '\\'
  let lines := s.contains '\n'
  if !escapes && !backslash && !s.contains '"' && !lines then .basic
  else if !escapes && !s.contains '\'' && !lines then .literal
  else if !escapes && !backslash && longestRun '"' s ≤ 2 then .longBasic
  else if !escapes && longestRun '\'' s ≤ 2 then .longLiteral
  else if lines then .longBasic
  else .basic

/-- A character of a basic string other than a quote. -/
def escapeIn (isLong : Bool) (c : Char) : List Char :=
  if c.toNat = 8 then ['\\', 'b']
  else if c = '\t' then ['\\', 't']
  else if c = '\n' then if isLong then ['\n'] else ['\\', 'n']
  else if c.toNat = 12 then ['\\', 'f']
  else if c = '\r' then ['\\', 'r']
  else if c = '\\' then ['\\', '\\']
  else if needsEscape c then
    '\\' :: 'u' :: (Text.hexDigits 4 c.toNat).map Text.asciiUpperChar
  else [c]

/-- The inside of a basic string.  `run` counts the quotes directly before; one more than
`most` of them in a row has to be escaped. -/
def escapeBasic (isLong : Bool) (most : Nat) : Nat → List Char → List Char
  | _, [] => []
  | run, c :: rest =>
      if c = '"' then
        if most ≤ run then '\\' :: '"' :: escapeBasic isLong most 0 rest
        else '"' :: escapeBasic isLong most (run + 1) rest
      else escapeIn isLong c ++ escapeBasic isLong most 0 rest

/-- A text as a string of the configuration format. -/
def quote (text : String) : String :=
  let s := text.toList
  let opening := if s.contains '\n' then ['\n'] else []
  String.ofList <|
    match Quoting.choose s with
    | .basic => '"' :: escapeBasic false 0 0 s ++ ['"']
    | .literal => '\'' :: s ++ ['\'']
    | .longBasic => ['"', '"', '"'] ++ opening ++ escapeBasic true 2 0 s ++ ['"', '"', '"']
    | .longLiteral => ['\'', '\'', '\''] ++ opening ++ s ++ ['\'', '\'', '\'']

end Conch.Toml
