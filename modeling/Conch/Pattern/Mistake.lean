import Conch.Pattern.Place
import Conch.Text.Ascii
import Conch.Text.Lines

/-!
# Mistakes in patterns

A mistake is a problem with the span of the pattern that it lies in.  Its report shows the
pattern with carets under the span and says what the problem is.
-/

namespace Conch.Pattern

/-- The levels that brackets, groups, repetitions, branches and sequences may nest. -/
def depthLimit : Nat := 250

/-- What can be wrong with a pattern. -/
inductive Problem where
  | assertionInSet
  | rangeReversed
  | rangeEndNotLiteral
  | setUnclosed
  | decimalInvalid
  | hexEmpty
  | hexNotScalar
  | hexDigitInvalid
  | escapeUnfinished
  | escapeUnknown
  | negationDangling
  | negationRepeated
  | flagRepeated
  | flagUnknown
  | flagsUnfinished
  | nameRepeated
  | nameEmpty
  | nameCharInvalid
  | nameUnclosed
  | groupUnclosed
  | groupUnopened
  | countsReversed
  | countMissing
  | countUnclosed
  | operandMissing
  | boundaryUnclosed
  | boundaryUnknown
  | boundaryUnfinished
  | propertyInvalid
  | backreference
  | lookaround
  | tooDeep
  | unicodeNotAllowed
  | octetNotText
  | propertyUnknown
  | propertyValueUnknown
  deriving DecidableEq, Repr, Inhabited

/-- The wording of a problem. -/
def Problem.message : Problem → String
  | .assertionInSet => "invalid escape sequence found in character class"
  | .rangeReversed => "invalid character class range, the start must be <= the end"
  | .rangeEndNotLiteral => "invalid range boundary, must be a literal"
  | .setUnclosed => "unclosed character class"
  | .decimalInvalid => "decimal literal invalid"
  | .hexEmpty => "hexadecimal literal empty"
  | .hexNotScalar => "hexadecimal literal is not a Unicode scalar value"
  | .hexDigitInvalid => "invalid hexadecimal digit"
  | .escapeUnfinished => "incomplete escape sequence, reached end of pattern prematurely"
  | .escapeUnknown => "unrecognized escape sequence"
  | .negationDangling => "dangling flag negation operator"
  | .negationRepeated => "flag negation operator repeated"
  | .flagRepeated => "duplicate flag"
  | .flagUnknown => "unrecognized flag"
  | .flagsUnfinished => "expected flag but got end of regex"
  | .nameRepeated => "duplicate capture group name"
  | .nameEmpty => "empty capture group name"
  | .nameCharInvalid => "invalid capture group character"
  | .nameUnclosed => "unclosed capture group name"
  | .groupUnclosed => "unclosed group"
  | .groupUnopened => "unopened group"
  | .countsReversed =>
      "invalid repetition count range, the start must be <= the end"
  | .countMissing => "repetition quantifier expects a valid decimal"
  | .countUnclosed => "unclosed counted repetition"
  | .operandMissing => "repetition operator missing expression"
  | .boundaryUnclosed =>
      "special word boundary assertion is either unclosed or contains an invalid character"
  | .boundaryUnknown =>
      "unrecognized special word boundary assertion, valid choices are: start, end, " ++
        "start-half or end-half"
  | .boundaryUnfinished =>
      "found either the beginning of a special word boundary or a bounded repetition on a " ++
        "\\b with an opening brace, but no closing brace"
  | .propertyInvalid => "invalid Unicode character class"
  | .backreference => "backreferences are not supported"
  | .lookaround =>
      "look-around, including look-ahead and look-behind, is not supported"
  | .tooDeep =>
      "exceed the maximum number of nested parentheses/brackets (" ++ toString depthLimit ++
        ")"
  | .unicodeNotAllowed => "Unicode not allowed here"
  | .octetNotText => "pattern can match invalid UTF-8"
  | .propertyUnknown => "Unicode property not found"
  | .propertyValueUnknown => "Unicode property value not found"

/-- A problem with the span that it lies in, and the earlier span that it clashes with if
there is one. -/
structure Mistake where
  problem : Problem
  span : Span
  earlier : Option Span := none
  deriving DecidableEq, Repr, Inhabited

/-- A mistake in a span. -/
def Span.mistake {α : Type} (span : Span) (problem : Problem) : Except Mistake α :=
  .error { problem, span }

/-- A mistake in a span that clashes with an earlier one. -/
def Span.clash {α : Type} (span : Span) (problem : Problem) (earlier : Span) :
    Except Mistake α :=
  .error { problem, span, earlier := some earlier }

/-- Whether a span lies on one line. -/
def Span.isOnOneLine (span : Span) : Bool :=
  span.first.line == span.last.line

/-- The carets under the spans of one line, which come in order, from a column on. -/
def caretsFrom : Nat → List Span → List Char
  | _, [] => []
  | column, span :: spans =>
      let blanks := span.first.column - column
      let carets := max 1 (span.last.column - span.first.column)
      List.replicate blanks ' ' ++ List.replicate carets '^' ++
        caretsFrom (column + blanks + carets) spans

/-- The spans of a mistake in the order of the pattern. -/
def Mistake.spans (mistake : Mistake) : List Span :=
  match mistake.earlier with
  | none => [mistake.span]
  | some earlier =>
      if earlier.first.offset ≤ mistake.span.first.offset then [earlier, mistake.span]
      else [mistake.span, earlier]

/-- The width of the line numbers of a drawing: none for a pattern of one line.  A line
feed at the end opens one more line. -/
def numberWidth (pattern : List Char) : Nat :=
  let count := (Text.lines pattern).length + (if pattern.getLast? = some '\n' then 1 else 0)
  if count ≤ 1 then 0 else (toString count).length

/-- One line of the pattern, with the carets below it if it has any. -/
def drawLine (width : Nat) (spans : List Span) (line : List Char) (number : Nat) : String :=
  let numbered :=
    if width = 0 then "    " else Text.padLeft width (toString number) ++ ": "
  let margin := String.ofList (List.replicate (if width = 0 then 4 else width + 2) ' ')
  let here := spans.filter fun span => span.first.line == number
  numbered ++ String.ofList line ++ "\n" ++
    (if here.isEmpty then "" else margin ++ String.ofList (caretsFrom 1 here) ++ "\n")

/-- The lines of a pattern with the carets under the spans that lie on one line. -/
def drawing (pattern : List Char) (spans : List Span) : String :=
  let drawn := spans.filter Span.isOnOneLine
  String.join <| (Text.lines pattern).zipIdx.map fun (line, index) =>
    drawLine (numberWidth pattern) drawn line (index + 1)

/-- The words for a span of several lines. -/
def Span.description (span : Span) : String :=
  "on line " ++ toString span.first.line ++ " (column " ++ toString span.first.column ++
    ") through line " ++ toString span.last.line ++ " (column " ++
    toString (span.last.column - 1) ++ ")"

/-- The report of a mistake in a pattern. -/
def Mistake.report (mistake : Mistake) (pattern : List Char) : String :=
  let body := drawing pattern mistake.spans
  let problem := "error: " ++ mistake.problem.message
  if pattern.contains '\n' then
    let rule := Text.repeated 79 "~" ++ "\n"
    let long := mistake.spans.filter fun span => !span.isOnOneLine
    let notes := if long.isEmpty then "" else Text.unlines (long.map Span.description) ++ "\n"
    "regex parse error:\n" ++ rule ++ body ++ rule ++ notes ++ problem
  else "regex parse error:\n" ++ body ++ problem

end Conch.Pattern
