import Conch.Text.Pieces

/-!
# Lines

A text is cut into lines at line feeds.  A carriage return directly before the
line feed belongs to the line end, and a line end at the end of the text opens
no further line.  `join` is the way back for the filters: a line feed between
two neighbours.
-/

namespace Conch.Text

/-- A line without the carriage return it may end with. -/
def dropReturn (line : List Char) : List Char :=
  if line.getLast? = some '\r' then line.dropLast else line

/-- The lines made from the pieces between line feeds: each piece but the last was
ended by a line feed, and the last one counts only when it is not empty. -/
def linesOfPieces : List (List Char) → List (List Char)
  | [] => []
  | [last] => if last.isEmpty then [] else [last]
  | piece :: pieces => dropReturn piece :: linesOfPieces pieces

/-- The lines of a text, without their line ends. -/
def lines (s : List Char) : List (List Char) :=
  linesOfPieces (splitBy (· = '\n') s)

/-- The texts in order with `sep` between neighbours. -/
def joinWith (sep : List Char) : List (List Char) → List Char
  | [] => []
  | [t] => t
  | t :: ts => t ++ sep ++ joinWith sep ts

/-- The texts in order with one line feed between neighbours. -/
def join (texts : List (List Char)) : List Char :=
  joinWith ['\n'] texts

/-- `lines` on strings. -/
def linesOf (s : String) : List String :=
  (lines s.toList).map String.ofList

/-- `join` on strings. -/
def unlines (texts : List String) : String :=
  String.intercalate "\n" texts

end Conch.Text
