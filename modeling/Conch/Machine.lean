import Conch.Fault
import Conch.Host.Facts
import Conch.Job.Table
import Conch.Permission

/-!
# Machine and context

The machine is everything that commands can see and change and that outlives one
line: files, jobs, cancellation flags, the clock and the host.  The context is what
belongs to one running pipeline: its permission, its directory, the input of the
stage that runs, and its own cancellation flag.
-/

namespace Conch

/-- What pipelines run on. -/
structure Machine where
  files : Files.Store
  jobs : Job.Table
  /-- The flags that pipelines have fired themselves; those that killing a job has
  fired are in the job table. -/
  fired : List Token
  /-- Milliseconds since the epoch. -/
  clock : Nat
  host : Host.Facts

/-- What belongs to one running pipeline. -/
structure Context where
  level : Permission
  /-- The directory at which relative paths start. -/
  directory : Path
  /-- The input of the stage that runs, if it has any. -/
  stdin : Option String
  token : Token
  deriving DecidableEq, Repr, Inhabited

/-- The machine on which nothing is or has happened. -/
def Machine.blank : Machine :=
  ⟨⟨[], [], []⟩, Job.Table.empty, [], 0, Host.Facts.none⟩

/-- Whether a flag has been fired. -/
def Machine.isFired (machine : Machine) (token : Token) : Bool :=
  machine.fired.contains token || machine.jobs.fired.contains token

/-- The machine with a flag fired by a pipeline. -/
def Machine.fire (machine : Machine) (token : Token) : Machine :=
  { machine with fired := token :: machine.fired }

/-- The machine with a flag that has just been made, which is not fired. -/
def Machine.makeFlag (machine : Machine) (token : Token) : Machine :=
  { machine with
    fired := machine.fired.filter (· ≠ token)
    jobs := { machine.jobs with fired := machine.jobs.fired.filter (· ≠ token) } }

namespace Context

/-- Whether the pipeline has been asked to stop. -/
def isCancelled (context : Context) (machine : Machine) : Bool :=
  machine.isFired context.token

/-- Fails once the pipeline has been asked to stop. -/
def check (context : Context) (machine : Machine) : Except Fault Unit :=
  if context.isCancelled machine then .error .aborted else .ok ()

/-- The path that a user names, seen from the directory of the pipeline. -/
def resolve (context : Context) (target : Option String) : Except Fault Path :=
  match Path.resolve target context.directory with
  | .ok path => .ok path
  | .error cause => .error (.traversal cause)

/-- The text of the file that a user names, read with the cap for files. -/
def readText (context : Context) (machine : Machine) (target : String) :
    Except Fault String := do
  context.check machine
  let path ← context.resolve (some target)
  match machine.files.readText (fun _ => context.isCancelled machine) path with
  | .ok text => return text
  | .error cause => throw (Fault.ofReading target cause)

end Context
end Conch
