import Conch.Job.Record

/-!
# The job table

The table owns the records of all jobs.  Ids are given out in order and never twice.
A worker reports through `update`, which takes a record only while the job is tracked
and running; so a job that has been killed is not brought back.  Of the finished jobs
only the latest are kept.

Ids are natural numbers here.  A counter of 64 bits agrees with them for the first
`2 ^ 64 - 1` jobs of a table, and no table is said to have more.
-/

namespace Conch.Job

/-- The tracked jobs, the last id given out, and the flags that killing has fired. -/
structure Table where
  /-- The records, each in the slot of the id it is stored for, in the order of the ids. -/
  slots : List (Nat × Record)
  lastId : Nat
  fired : List Token
  deriving DecidableEq, Repr, Inhabited

namespace Table

/-- The table of a new session. -/
def empty : Table := ⟨[], 0, []⟩

/-- The tracked records in the order of their ids. -/
def records (table : Table) : List Record :=
  table.slots.map (·.2)

/-- The tracked record with an id. -/
def get? (table : Table) (id : Nat) : Option Record :=
  table.slots.lookup id

/-- The number of tracked jobs. -/
def size (table : Table) : Nat :=
  table.slots.length

/-- The slots with a record stored for an id; what was stored for it is replaced. -/
def insertSlot (id : Nat) (record : Record) : List (Nat × Record) → List (Nat × Record)
  | [] => [(id, record)]
  | slot :: rest =>
      if id < slot.1 then (id, record) :: slot :: rest
      else if id = slot.1 then (id, record) :: rest
      else slot :: insertSlot id record rest

/-- The table with a record stored for its own id. -/
def store (table : Table) (record : Record) : Table :=
  { table with slots := insertSlot record.id record table.slots }

/-- The order of retention. -/
def keyLe (a b : Nat × Nat) : Bool :=
  a.1 < b.1 || (a.1 = b.1 && a.2 ≤ b.2)

/-- The ids of the finished jobs that are too many: those first in the order of
retention. -/
def excess (records : List Record) : List Nat :=
  let finished := records.filter fun record => record.status.isTerminal
  let keys := (finished.map Record.retentionKey).mergeSort keyLe
  (keys.take (keys.length - Limits.finishedJobs)).map (·.2)

/-- The table without the slots of some ids. -/
def without (table : Table) (gone : List Nat) : Table :=
  { table with slots := table.slots.filter fun slot => !gone.contains slot.1 }

/-- The table without the finished jobs that are too many. -/
def prune (table : Table) : Table :=
  table.without (excess table.records)

/-- Starts a job: its record, and the table that tracks it. -/
def create (table : Table) (command : String) (now : Nat) : Record × Table :=
  let record := Record.start (table.lastId + 1) command now
  (record, prune ({ table with lastId := record.id }.store record))

/-- Forgets a job, and fires its flag if it was running.  `none` if the id is not
tracked. -/
def kill (table : Table) (id : Nat) : Option Table :=
  (table.get? id).map fun record =>
    { table.without [id] with
      fired := if record.status = .running then record.token :: table.fired else table.fired }

/-- Stores the record that a worker hands in.  `none` if the job is not tracked or no
longer running. -/
def update (table : Table) (record : Record) : Option Table :=
  match table.get? record.id with
  | some current => if current.status = .running then some (prune (table.store record)) else none
  | none => none

end Table
end Conch.Job
