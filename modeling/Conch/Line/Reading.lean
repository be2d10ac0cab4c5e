import Conch.Line.Stage

/-!
# Reading a command line

A line is trimmed, one `&` at its end asks for the background, and the rest is cut
into stages.  The only line that is refused is one with `<<`.
-/

namespace Conch

/-- A command line as read. -/
structure Line where
  stages : List Line.Stage
  background : Bool
  /-- The line exactly as given. -/
  source : String
  deriving DecidableEq, Repr, Inhabited

namespace Line

/-- Whether a line is one command or several joined by pipes. -/
inductive Kind where
  | single
  | pipeline
  deriving DecidableEq, Repr

/-- A line with two or more stages is a pipeline. -/
def kind (line : Line) : Kind :=
  if 2 ≤ line.stages.length then .pipeline else .single

/-- A line without stages asks for nothing. -/
def isEmpty (line : Line) : Bool :=
  line.stages.isEmpty

/-- A text without the `&` it ends with, if it does. -/
def dropAmpersand? (s : List Char) : Option (List Char) :=
  if s.getLast? = some '&' then some s.dropLast else none

/-- The part of a line that holds its command, and whether it is to run in the
background. -/
def commandPart (source : List Char) : List Char × Bool :=
  let trimmed := Text.trim source
  match dropAmpersand? trimmed with
  | some rest => (Text.trim rest, true)
  | none => (trimmed, false)

/-- Reads a line; `none` is the refusal of `<<`. -/
def read? (source : String) : Option Line :=
  let (command, background) := commandPart source.toList
  let tokens := lex command
  if tokens.isEmpty then some ⟨[], background, source⟩
  else if tokens.contains .heredoc then none
  else some ⟨stagesOfGroups (splitAtPipes tokens), background, source⟩

/-- The command text of a line: what a job made from it is labelled with. -/
def label (line : Line) : String :=
  let trimmed := Text.trim line.source.toList
  if line.background then
    match dropAmpersand? trimmed with
    | some rest => String.ofList (Text.trimEnd rest)
    | none => String.ofList trimmed
  else String.ofList trimmed

end Line
end Conch
