import Conch.Outcome
import Conch.Limits

/-!
# Job records

One background pipeline as the job table tracks it.  Times are milliseconds since
the epoch.
-/

namespace Conch

/-- A flag that asks a running pipeline to stop.  Every foreground line and every job
has its own. -/
inductive Token where
  /-- The flag of the foreground line with this number. -/
  | line (number : Nat)
  /-- The flag of the job with this id. -/
  | job (id : Nat)
  deriving DecidableEq, Repr, Inhabited

namespace Job

/-- Where a job stands. -/
inductive Status where
  | running
  | completed
  | failed
  | killed
  deriving DecidableEq, Repr, Inhabited

/-- The name of a status. -/
def Status.name : Status → String
  | .running => "running"
  | .completed => "completed"
  | .failed => "failed"
  | .killed => "killed"

/-- Every status but `running` is final. -/
def Status.isTerminal (status : Status) : Bool :=
  status ≠ .running

/-- One tracked background pipeline. -/
structure Record where
  id : Nat
  command : String
  status : Status
  startedAt : Nat
  endedAt : Option Nat
  stdout : Option String
  stderr : Option String
  exitCode : Option Int
  /-- The flag by which the job is asked to stop. -/
  token : Token
  deriving DecidableEq, Repr, Inhabited

namespace Record

/-- A job that starts now. -/
def start (id : Nat) (command : String) (now : Nat) : Record :=
  ⟨id, command, .running, now, none, none, none, none, .job id⟩

/-- The record of a job whose pipeline ran to its end, whatever its exit code. -/
def complete (record : Record) (outcome : Outcome) (now : Nat) : Record :=
  { record with
    status := .completed
    endedAt := some now
    stdout := some outcome.stdout
    stderr := some outcome.stderr
    exitCode := some outcome.exitCode }

/-- The record of a job whose pipeline broke down with a message. -/
def fail (record : Record) (message : String) (now : Nat) : Record :=
  { record with
    status := .failed
    endedAt := some now
    stderr := some message
    exitCode := some 1 }

/-- The time a job has taken; for a job without an end, until now. -/
def duration (record : Record) (now : Nat) : Nat :=
  record.endedAt.getD now - record.startedAt

/-- The place of a finished job in the order of retention: by end time, then by id. -/
def retentionKey (record : Record) : Nat × Nat :=
  (record.endedAt.getD 0, record.id)

end Record
end Job
end Conch
