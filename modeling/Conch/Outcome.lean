/-!
# Outcomes

What a command, a pipeline or an input line comes to: its two output texts and its
exit code.
-/

namespace Conch

/-- The result of a stage, of a pipeline or of an input line. -/
structure Outcome where
  stdout : String
  stderr : String
  exitCode : Int
  deriving DecidableEq, Repr, Inhabited

namespace Outcome

/-- The outcome of asking for nothing. -/
def empty : Outcome := ⟨"", "", 0⟩

/-- A success with an output text. -/
def success (stdout : String) : Outcome := ⟨stdout, "", 0⟩

/-- A failure with an error text and no output. -/
def failure (exitCode : Int) (stderr : String) : Outcome := ⟨"", stderr, exitCode⟩

/-- An outcome is a success when its exit code is zero. -/
def isSuccess (outcome : Outcome) : Bool :=
  outcome.exitCode = 0

end Outcome
end Conch
