import Conch.Command.Registry

/-!
# Input of the commands

The text that a filter works on, and the outcomes that the commands share.
-/

namespace Conch.Builtin

/-- A handler that leaves the machine as it is and cannot crash. -/
def reporting (run : List String → Context → Machine → Outcome) : Handler :=
  fun args context machine => (.returned (run args context machine), machine)

/-- The text that a filter works on: its input unless that is empty, else the file it
names.  `none` if there is neither. -/
def inputText (context : Context) (machine : Machine) (file : Option String) :
    Except Fault (Option String) :=
  match context.stdin.filter fun text => !text.isEmpty with
  | some text => .ok (some text)
  | none =>
      match file with
      | some file => (context.readText machine file).map some
      | none => .ok none

/-- The outcome of a text or a fault in the command `name`. -/
def outcomeOf (name : String) : Except Fault String → Outcome
  | .ok text => Outcome.success text
  | .error fault => fault.outcome name

/-- The outcome of a command that has neither input nor file. -/
def inputMissing (name : String) : Outcome :=
  Outcome.failure 1 (name ++ ": file required or stdin expected")

end Conch.Builtin
