import Conch.Builtin.Input

/-!
# `cat`

Without files, the input unchanged.  With files, their texts one after another; one
file that cannot be read makes the whole command fail, with a line for each such file.
-/

namespace Conch.Builtin

/-- The texts of the readable files and the error lines of the others. -/
def readFiles (context : Context) (machine : Machine) :
    List String → List String × List String
  | [] => ([], [])
  | file :: rest =>
      let (texts, errors) := readFiles context machine rest
      match context.readText machine file with
      | .ok text => (text :: texts, errors)
      | .error fault => (texts, ("cat: " ++ file ++ ": " ++ fault.message) :: errors)

/-- The outcome of `cat`. -/
def cat (args : List String) (context : Context) (machine : Machine) : Outcome :=
  if args.isEmpty then
    match context.stdin.filter fun text => !text.isEmpty with
    | some text => Outcome.success text
    | none => inputMissing "cat"
  else
    let (texts, errors) := readFiles context machine args
    if errors.isEmpty then Outcome.success (String.join texts)
    else Outcome.failure 1 ("\n".intercalate errors)

end Conch.Builtin
