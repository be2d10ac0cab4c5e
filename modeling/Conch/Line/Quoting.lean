import Conch.Line.Reading
import Conch.Text.Ascii

/-!
# Writing a line back

Words are written so that a shell reads them back as they were.  A word is cut into
chunks; each chunk is as long as one way of quoting covers it, and is written bare,
in single quotes or in double quotes, in this order of preference.  No way covers the
null character: a list of words that holds one is written unquoted.
-/

namespace Conch.Line

/-- The ways of writing a chunk. -/
structure Ways where
  bare : Bool
  single : Bool
  double : Bool
  deriving DecidableEq, Repr

/-- The ways that cover both of two texts. -/
def Ways.both (a b : Ways) : Ways :=
  ⟨a.bare && b.bare, a.single && b.single, a.double && b.double⟩

/-- Whether there is any way. -/
def Ways.any (ways : Ways) : Bool :=
  ways.bare || ways.single || ways.double

/-- The characters that mean themselves to a shell without quotes. -/
def isPlain (c : Char) : Bool :=
  Text.isLetterOrDigit c || "+-./:@]_".toList.contains c

/-- The ways of writing one character.  A caret is covered by none, because it may
stand only at the start of single quotes. -/
def Ways.ofChar (c : Char) : Ways :=
  ⟨isPlain c, !"'^\\".toList.contains c, !"`$!^".toList.contains c⟩

/-- The longest start of a text that the given ways go on to cover, with the ways that
cover all of it and the rest of the text. -/
def takeCovered (ways : Ways) : List Char → List Char × Ways × List Char
  | [] => ([], ways, [])
  | c :: rest =>
      let both := ways.both (Ways.ofChar c)
      if both.any then
        let (chunk, final, rest) := takeCovered both rest
        (c :: chunk, final, rest)
      else ([], ways, c :: rest)

/-- The first chunk of a word that starts with `c`: its characters, the ways that cover
it, and the rest of the word. -/
def takeChunk (c : Char) (rest : List Char) : List Char × Ways × List Char :=
  let ways := if c = '^' then ⟨false, true, false⟩ else Ways.ofChar c
  let (chunk, final, rest) := takeCovered ways rest
  (c :: chunk, final, rest)

/-- A backslash goes before each character that keeps a meaning in double quotes. -/
def escapeDouble (s : List Char) : List Char :=
  s.flatMap fun c => if "$`\"\\".toList.contains c then ['\\', c] else [c]

/-- A chunk written in the first of its ways. -/
def writeChunk (ways : Ways) (chunk : List Char) : List Char :=
  if ways.bare then chunk
  else if ways.single then '\'' :: chunk ++ ['\'']
  else '"' :: escapeDouble chunk ++ ['"']

theorem takeCovered_rest_length (ways : Ways) (s : List Char) :
    (takeCovered ways s).2.2.length ≤ s.length := by
  induction s generalizing ways with
  | nil => simp [takeCovered]
  | cons c rest ih =>
      simp only [takeCovered]
      split
      · exact Nat.le_succ_of_le (ih _)
      · simp

theorem takeChunk_rest_length (c : Char) (rest : List Char) :
    (takeChunk c rest).2.2.length < (c :: rest).length :=
  Nat.lt_succ_of_le (takeCovered_rest_length _ rest)

/-- The chunks of a word, written one after another. -/
def writeChunks (s : List Char) : List Char :=
  match s with
  | [] => []
  | c :: rest =>
      let chunk := takeChunk c rest
      writeChunk chunk.2.1 chunk.1 ++ writeChunks chunk.2.2
termination_by s.length
decreasing_by exact takeChunk_rest_length c rest

/-- One word, quoted; the empty word is a pair of quotes. -/
def quoteWord (word : List Char) : List Char :=
  if word.isEmpty then ['\'', '\''] else writeChunks word

/-- Words quoted one by one with blanks between them, or unquoted if one of them holds
the null character. -/
def quoteWords (words : List String) : String :=
  if words.any fun word => word.toList.contains '\x00' then " ".intercalate words
  else " ".intercalate (words.map fun word => String.ofList (quoteWord word.toList))

/-- A stage written as shell text.  Piped input is implied by the position of the stage
and is not written. -/
def Stage.render (stage : Stage) : String :=
  let command := quoteWords (stage.name :: stage.args)
  let input :=
    match stage.input with
    | .file name => " < " ++ quoteWords [name]
    | _ => ""
  let output :=
    match stage.output with
    | .replace name => " > " ++ quoteWords [name]
    | .append name => " >> " ++ quoteWords [name]
    | .inherit => ""
  command ++ input ++ output

/-- A line written as shell text. -/
def render (line : Line) : String :=
  " | ".intercalate (line.stages.map Stage.render)

end Conch.Line
