import Conch.Builtin.Input
import Conch.Text.Lines
import Conch.Text.Lowercase
import Conch.Text.Order

/-!
# Line filters

`grep`, `sort` and `unique` take a text apart into lines, select some of them in some
order, and join what they select.
-/

namespace Conch.Builtin

/-- The lines that match. -/
def matchingLines (isMatch : List Char → Bool) (lines : List (List Char)) :
    List (List Char) :=
  lines.filter isMatch

/-- The lines that are not empty, ordered by their lower-case forms and then by
themselves. -/
def sortedLines (lines : List (List Char)) : List (List Char) :=
  let keyed := (lines.filter fun line => !line.isEmpty).map fun line =>
    (Text.lowercase line, line)
  (keyed.mergeSort Text.keyedLe).map (·.2)

/-- The lines not among those seen, each at its first occurrence. -/
def unseenLines (seen : List (List Char)) : List (List Char) → List (List Char)
  | [] => []
  | line :: rest =>
      if seen.contains line then unseenLines seen rest
      else line :: unseenLines (line :: seen) rest

/-- The lines, each at its first occurrence. -/
def firstLines (lines : List (List Char)) : List (List Char) :=
  unseenLines [] lines

/-- The output of a filter on a text. -/
def filterText (select : List (List Char) → List (List Char)) (text : String) : String :=
  String.ofList (Text.join (select (Text.lines text.toList)))

/-- The outcome of the filter `name` on its input. -/
def filterOutcome (name : String) (filter : String → String) (file : Option String)
    (context : Context) (machine : Machine) : Outcome :=
  match inputText context machine file with
  | .ok (some text) => Outcome.success (filter text)
  | .ok none => inputMissing name
  | .error fault => fault.outcome name

/-- The outcome of `sort`. -/
def sort (args : List String) (context : Context) (machine : Machine) : Outcome :=
  filterOutcome "sort" (filterText sortedLines) args.head? context machine

/-- The outcome of `unique`. -/
def unique (args : List String) (context : Context) (machine : Machine) : Outcome :=
  filterOutcome "unique" (filterText firstLines) args.head? context machine

/-- The output of `grep` on a text. -/
def grepText (isMatch : List Char → Bool) (text : String) : String :=
  if (matchingLines isMatch (Text.lines text.toList)).isEmpty then "(no matches)"
  else filterText (matchingLines isMatch) text

/-- The outcome of `grep` with a way of reading patterns. -/
def grepWith (readPattern : String → Except String (List Char → Bool)) (args : List String)
    (context : Context) (machine : Machine) : Outcome :=
  match args with
  | [] => Outcome.failure 1 "grep: pattern required"
  | pattern :: rest =>
      match readPattern pattern with
      | .error report => (Fault.pattern report).outcome "grep"
      | .ok isMatch => filterOutcome "grep" (grepText isMatch) rest.head? context machine

end Conch.Builtin
