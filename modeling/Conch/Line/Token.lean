import Conch.Text.Blank

/-!
# Tokens of a command line

A line is a sequence of words and operators.  Quotes, single or double, switch the
meaning of blanks and operators off and are themselves dropped; there is no escape
character, and a quote that is never closed runs to the end of the line.
-/

namespace Conch.Line

/-- A lexical token of a command line. -/
inductive Token where
  | word (text : String)
  | pipe
  /-- The operator `<`. -/
  | input
  /-- The operator `>`. -/
  | output
  /-- The operator `>>`. -/
  | append
  /-- The operator `<<`. -/
  | heredoc
  deriving DecidableEq, Repr, Inhabited

/-- The spelling of an operator, or the contents of a word. -/
def Token.text : Token → String
  | .word text => text
  | .pipe => "|"
  | .input => "<"
  | .output => ">"
  | .append => ">>"
  | .heredoc => "<<"

/-- The quoted region, if any, in which a character stands. -/
inductive Region where
  | bare
  | single
  | double
  deriving DecidableEq, Repr

/-- The token of a pending word.  `none` is no pending word; `some []` is a word of
empty quotes.  The characters of the word are held last first. -/
def flush : Option (List Char) → List Token
  | none => []
  | some word => [.word (String.ofList word.reverse)]

/-- The pending word with one more character. -/
def extend (c : Char) (word : Option (List Char)) : Option (List Char) :=
  some (c :: word.getD [])

/-- The pending word after a quote mark, which opens a word but adds nothing to it. -/
def opened (word : Option (List Char)) : Option (List Char) :=
  some (word.getD [])

/-- The tokens of a line from a character on, given the region in which it stands and
the word pending before it. -/
def scan : Region → Option (List Char) → List Char → List Token
  | _, word, [] => flush word
  | .single, word, c :: rest =>
      if c = '\'' then scan .bare (opened word) rest
      else scan .single (extend c word) rest
  | .double, word, c :: rest =>
      if c = '"' then scan .bare (opened word) rest
      else scan .double (extend c word) rest
  | .bare, word, '>' :: '>' :: rest => flush word ++ .append :: scan .bare none rest
  | .bare, word, '<' :: '<' :: rest => flush word ++ .heredoc :: scan .bare none rest
  | .bare, word, c :: rest =>
      if c = '\'' then scan .single (opened word) rest
      else if c = '"' then scan .double (opened word) rest
      else if Text.isBlank c then flush word ++ scan .bare none rest
      else if c = '|' then flush word ++ .pipe :: scan .bare none rest
      else if c = '<' then flush word ++ .input :: scan .bare none rest
      else if c = '>' then flush word ++ .output :: scan .bare none rest
      else scan .bare (extend c word) rest

/-- The tokens of a line. -/
def lex (line : List Char) : List Token :=
  scan .bare none line

end Conch.Line
