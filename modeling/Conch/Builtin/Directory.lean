import Conch.Builtin.Input

/-!
# `cd` and `pwd`

`cd` answers with the path of the directory it was given as it is shown, which the pipeline
then takes as its own.
-/

namespace Conch.Builtin

/-- The answer of `cd` to a target. -/
def changeDirectory (target : String) (context : Context) (machine : Machine) :
    Except Fault Outcome := do
  context.check machine
  let path ← context.resolve (some target)
  match machine.files.status path with
  | .error error => throw (.file target error)
  | .ok .directory => return Outcome.success (Path.shown path)
  | .ok _ => return Outcome.failure 1 ("cd: not a directory: " ++ Path.shown path)

/-- The outcome of `cd`. -/
def cd (args : List String) (context : Context) (machine : Machine) : Outcome :=
  match args.head? with
  | none => Outcome.failure 1 "cd: path required"
  | some target =>
      match changeDirectory target context machine with
      | .ok outcome => outcome
      | .error fault => fault.outcome "cd"

/-- The outcome of `pwd`. -/
def pwd (_ : List String) (context : Context) (_ : Machine) : Outcome :=
  Outcome.success (Path.shown context.directory)

end Conch.Builtin
