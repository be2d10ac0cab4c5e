import Conch.Line.Token

/-!
# Stages

One command of a pipeline with its arguments and redirections, read from the tokens
between two pipe symbols.  An operator that no word follows has no effect, and of
several redirections of one kind the last one holds.
-/

namespace Conch.Line

/-- Where a stage takes its input from. -/
inductive Input where
  /-- What the caller of the pipeline supplies. -/
  | inherit
  /-- The output of the stage before. -/
  | piped
  /-- A file named after `<`. -/
  | file (name : String)
  deriving DecidableEq, Repr, Inhabited

/-- Where the output of a stage goes. -/
inductive Output where
  /-- To the next stage or the caller. -/
  | inherit
  /-- To a file named after `>`, which it replaces. -/
  | replace (name : String)
  /-- To the end of a file named after `>>`. -/
  | append (name : String)
  deriving DecidableEq, Repr, Inhabited

/-- One command within a pipeline. -/
structure Stage where
  /-- The first word that is no redirection target; empty for an empty stage. -/
  name : String
  args : List String
  input : Input
  output : Output
  deriving DecidableEq, Repr, Inhabited

/-- The file that the stage reads its input from. -/
def Stage.inputFile? (stage : Stage) : Option String :=
  match stage.input with
  | .file name => some name
  | _ => none

/-- The file that the stage writes its output to. -/
def Stage.outputFile? (stage : Stage) : Option String :=
  match stage.output with
  | .replace name | .append name => some name
  | .inherit => none

/-- Whether the output is added to what its file holds. -/
def Stage.appends (stage : Stage) : Bool :=
  match stage.output with
  | .append _ => true
  | _ => false

/-- What has been read of a stage: its plain words, last first, and its redirections. -/
structure Draft where
  words : List String
  input : Input
  output : Output

/-- Reads the tokens of one stage into a draft. -/
def Draft.read (draft : Draft) : List Token → Draft
  | [] => draft
  | .input :: .word file :: rest => { draft with input := .file file }.read rest
  | .output :: .word file :: rest => { draft with output := .replace file }.read rest
  | .append :: .word file :: rest => { draft with output := .append file }.read rest
  | .word word :: rest => { draft with words := word :: draft.words }.read rest
  | _ :: rest => draft.read rest

/-- The stage of a finished draft. -/
def Draft.stage (draft : Draft) : Stage :=
  match draft.words.reverse with
  | [] => ⟨"", [], draft.input, draft.output⟩
  | name :: args => ⟨name, args, draft.input, draft.output⟩

/-- The stage of a token group, given where its input comes from when the group does
not say. -/
def Stage.ofTokens (source : Input) (tokens : List Token) : Stage :=
  (Draft.read ⟨[], source, .inherit⟩ tokens).stage

/-- The token groups between pipe symbols. -/
def splitAtPipes : List Token → List (List Token)
  | [] => [[]]
  | .pipe :: rest => [] :: splitAtPipes rest
  | token :: rest =>
      match splitAtPipes rest with
      | [] => [[token]]
      | group :: groups => (token :: group) :: groups

/-- The stages of token groups: the first group inherits its input, each later one is
piped. -/
def stagesOfGroups : List (List Token) → List Stage
  | [] => []
  | first :: later => Stage.ofTokens .inherit first :: later.map (Stage.ofTokens .piped)

end Conch.Line
