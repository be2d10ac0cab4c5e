import Conch.Builtin.Input
import Conch.Number.Decimal
import Conch.Text.Ascii

/-!
# `jobs` and `killjobs`

The rows of the tracked jobs, and the end of one of them.
-/

namespace Conch.Builtin

/-- Milliseconds as seconds with one place. -/
def seconds (milliseconds : Nat) : String :=
  ((Number.Binary64.ofNat milliseconds).div (Number.Binary64.ofNat 1000)).fixed 1

/-- The row of a job. -/
def jobRow (now : Nat) (job : Job.Record) : String :=
  let exit :=
    match job.exitCode with
    | some code => " exit:" ++ toString code
    | none => ""
  "#" ++ toString job.id ++ " [" ++ job.status.name ++ "] " ++ job.command ++ exit ++ " (" ++
    seconds (job.duration now) ++ "s)"

/-- The outcome of `jobs`. -/
def jobs (_ : List String) (_ : Context) (machine : Machine) : Outcome :=
  if machine.jobs.records.isEmpty then Outcome.success "No background jobs tracked."
  else Outcome.success ("\n".intercalate (machine.jobs.records.map (jobRow machine.clock)))

/-- The greatest id that an argument can name. -/
def maxJobId : Nat := Nat.pow 2 64 - 1

/-- The id that an argument names: decimal digits, after at most one `#` and then at most
one `+`. -/
def jobId? (arg : String) : Option Nat :=
  let digits :=
    match arg.toList with
    | '#' :: rest => rest
    | all => all
  let digits :=
    match digits with
    | '+' :: rest => rest
    | all => all
  match Text.digitsValue? digits with
  | some id => if 1 ≤ id && id ≤ maxJobId then some id else none
  | none => none

/-- The behaviour of `killjobs`. -/
def killjobs : Handler := fun args _ machine =>
  match args.head? with
  | none => (.returned (Outcome.failure 1 "killjobs: job id required"), machine)
  | some arg =>
      match jobId? arg with
      | none => (.returned (Outcome.failure 1 "killjobs: invalid job id"), machine)
      | some id =>
          match machine.jobs.kill id with
          | none =>
              (.returned (Outcome.failure 1 ("killjobs: job #" ++ toString id ++ " not found")),
                machine)
          | some table =>
              (.returned (Outcome.success ("Terminated job #" ++ toString id)),
                { machine with jobs := table })

end Conch.Builtin
