import Conch.Command.Flight
import Conch.Line.Reading

/-!
# Sessions

A session takes input lines one by one.  A foreground line runs at once, and when its
pipeline ends in another directory than the one it started in, the session moves
there.  A background line becomes a job with a worker of its own, which runs against
the session as it was when the job was started and never moves it.  A job to which the
host refuses a worker fails at once.
-/

namespace Conch

/-- A job's pipeline with the copy of the record that is handed in at its end. -/
structure Worker where
  record : Job.Record
  flight : Pipeline.Flight

/-- A session of the shell. -/
structure Session where
  registry : Registry
  level : Permission
  /-- The directory in which the next line starts. -/
  directory : Path
  machine : Machine
  /-- The pipelines of jobs that have not ended. -/
  workers : List Worker
  /-- The number of lines begun, which names the flag of the next one. -/
  lines : Nat
  /-- The calls of handlers so far, in order. -/
  calls : List Call

namespace Session

/-- A new session. -/
def start (registry : Registry) (level : Permission) (directory : Path) (machine : Machine) :
    Session :=
  ⟨registry, level, directory, machine, [], 0, []⟩

/-- The context in which a pipeline of the session starts. -/
def context (session : Session) (token : Token) : Context :=
  ⟨session.level, session.directory, none, token⟩

/-- The session after a foreground pipeline that started in `before` and ended in
`after`: it moves only if these differ, and keeps its own spelling of a directory that
it is already in. -/
def moveTo (session : Session) (before after : Path) : Session :=
  if Path.same before after then session
  else if Path.same session.directory after then session
  else { session with directory := after }

/-- The outcome of a line whose handler crashed. -/
def crashOutcome (message : String) : Outcome :=
  Outcome.failure 1 ("Internal error: " ++ message)

/-- The answer to a foreground line whose pipeline started in the directory `before` and
came to its end in `after`.  A crash never moves the session. -/
def conclude (session : Session) (before after : Path) : Ending → Outcome × Session
  | .crashed message => (crashOutcome message, session)
  | .returned outcome => (outcome, session.moveTo before after)

/-- Runs a foreground pipeline. -/
def runForeground (session : Session) (stages : List Line.Stage) : Outcome × Session :=
  let context := session.context (.line session.lines)
  let report :=
    Pipeline.run session.registry stages context (session.machine.makeFlag context.token)
  let session :=
    { session with
      machine := report.machine
      lines := session.lines + 1
      calls := session.calls ++ report.calls }
  session.conclude context.directory report.context.directory report.ending

/-- The record that a worker hands in for the end of its pipeline. -/
def finalRecord (record : Job.Record) (ending : Ending) (now : Nat) : Job.Record :=
  match ending with
  | .returned outcome => record.complete outcome now
  | .crashed message => record.fail ("Internal error: " ++ message) now

/-- Hands in a record.  The table decides whether it is stored. -/
def store (session : Session) (record : Job.Record) : Session :=
  let machine := session.machine
  { session with
    machine := { machine with jobs := (machine.jobs.update record).getD machine.jobs } }

/-- Hands in the end of a job's pipeline. -/
def handIn (session : Session) (record : Job.Record) (ending : Ending) : Session :=
  session.store (finalRecord record ending session.machine.clock)

/-- The session with a worker for a job that has been created, and the answer to its line. -/
def employ (session : Session) (record : Job.Record) (line : Line) : Outcome × Session :=
  let worker : Worker := ⟨record, Pipeline.Flight.start line.stages (session.context record.token)⟩
  (Outcome.success ("Started job #" ++ toString record.id ++ ": " ++ line.label),
    { session with workers := session.workers ++ [worker] })

/-- The session when the host has refused a worker to a job, and the answer to its line: the
job has failed. -/
def abandon (session : Session) (record : Job.Record) (error : Files.OsError) :
    Outcome × Session :=
  (Outcome.failure 1 ("Failed to start job #" ++ toString record.id ++ ": " ++ error.message),
    session.store
      (record.fail ("could not start job: " ++ error.message) session.machine.clock))

/-- The record of the next job and the session in which it has been created. -/
def createJob (session : Session) (line : Line) : Job.Record × Session :=
  let (record, jobs) := session.machine.jobs.create line.label session.machine.clock
  (record, { session with machine := { session.machine with jobs := jobs }.makeFlag record.token })

/-- Starts a job for a background line. -/
def startJob (session : Session) (line : Line) : Outcome × Session :=
  let (record, session) := session.createJob line
  match session.machine.host.workerFault record.id with
  | some error => session.abandon record error
  | none => session.employ record line

/-- The worker of a job. -/
def worker? (session : Session) (id : Nat) : Option Worker :=
  session.workers.find? fun worker => worker.record.id = id

/-- The session after the worker of a job has gone on by half a stage. -/
def advanceFlight (session : Session) (worker : Worker) : Session :=
  let (flight, machine, call) := worker.flight.advance session.registry session.machine
  { session with
    machine := machine
    calls := session.calls ++ call.toList
    workers := session.workers.map fun w =>
      if w.record.id = worker.record.id then { w with flight := flight } else w }

/-- The session without the worker of a job. -/
def dismiss (session : Session) (id : Nat) : Session :=
  { session with workers := session.workers.filter fun worker => worker.record.id ≠ id }

/-- Lets the worker of a job go on: by half a stage, or at the end of its pipeline by
handing in its record. -/
def advance (session : Session) (id : Nat) : Session :=
  match session.worker? id with
  | none => session
  | some worker =>
      match worker.flight.ending? with
      | some ending => (session.dismiss id).handIn worker.record ending
      | none => session.advanceFlight worker

/-- Takes one input line. -/
def execute (session : Session) (source : String) : Outcome × Session :=
  match Line.read? source with
  | none =>
      (Outcome.failure 1 ("parse error: " ++ (Fault.operator "<<").message), session)
  | some line =>
      if line.isEmpty then (Outcome.empty, session)
      else if line.background then session.startJob line
      else session.runForeground line.stages

end Session
end Conch
