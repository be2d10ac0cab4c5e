import Conch.Session.Basic

/-!
# Several lines at a time

A session may be used by several callers at a time, beside the workers of its jobs.  A
foreground line is begun, goes on by half stages, and is answered when its pipeline has
come to its end; a background line is answered at once.  The steps of all these, kills
from elsewhere, and the changes of the world around are the events of a session.  Nothing
is said here about their order: any list of events is a run.
-/

namespace Conch

/-- A foreground line that has been begun and is not answered. -/
structure Invocation where
  /-- The number of the line, which names its flag. -/
  number : Nat
  source : String
  /-- The directory of the session when the line was begun. -/
  before : Path
  flight : Pipeline.Flight

/-- A session with the foreground lines that are under way in it. -/
structure Traffic where
  session : Session
  invocations : List Invocation
  /-- The lines answered so far with their outcomes, in the order of the answers. -/
  answers : List (String × Outcome)

namespace Traffic

/-- What can happen in and around a session. -/
inductive Event where
  /-- A line comes in. -/
  | line (source : String)
  /-- The foreground line with this number goes on by half a stage, or is answered. -/
  | proceed (number : Nat)
  /-- The worker of a job goes on by half a stage, or hands in its record. -/
  | advance (id : Nat)
  /-- Somebody kills a job without a line. -/
  | kill (id : Nat)
  /-- Time passes, and other programs change files. -/
  | world (clock : Nat) (files : Files.Store)
  deriving DecidableEq, Repr

/-- A new session, with a job table of its own. -/
def start (registry : Registry) (level : Permission) (directory : Path) (machine : Machine) :
    Traffic :=
  ⟨Session.start registry level directory { machine with jobs := Job.Table.empty }, [], []⟩

/-- The machine of the session. -/
def machine (traffic : Traffic) : Machine :=
  traffic.session.machine

/-- The job table of the session. -/
def jobs (traffic : Traffic) : Job.Table :=
  traffic.session.machine.jobs

/-- The same lines under way on another machine. -/
def withMachine (traffic : Traffic) (machine : Machine) : Traffic :=
  { traffic with session := { traffic.session with machine := machine } }

/-- Answers a line. -/
def answer (traffic : Traffic) (source : String) (result : Outcome × Session) : Traffic :=
  { traffic with
    session := result.2
    answers := traffic.answers ++ [(source, result.1)] }

/-- Begins a foreground line. -/
def begin (traffic : Traffic) (source : String) (line : Line) : Traffic :=
  let session := traffic.session
  let context := session.context (.line session.lines)
  { traffic with
    session :=
      { session with
        machine := session.machine.makeFlag context.token
        lines := session.lines + 1 }
    invocations := traffic.invocations ++
      [⟨session.lines, source, session.directory, Pipeline.Flight.start line.stages context⟩] }

/-- Takes a line that comes in. -/
def takeLine (traffic : Traffic) (source : String) : Traffic :=
  match Line.read? source with
  | none => traffic.answer source (traffic.session.execute source)
  | some line =>
      if line.isEmpty || line.background then
        traffic.answer source (traffic.session.execute source)
      else traffic.begin source line

/-- The foreground line under way with a number. -/
def invocation? (traffic : Traffic) (number : Nat) : Option Invocation :=
  traffic.invocations.find? fun invocation => invocation.number = number

/-- Answers a foreground line whose pipeline has come to its end. -/
def finish (traffic : Traffic) (invocation : Invocation) (ending : Ending) : Traffic :=
  let left := traffic.invocations.filter fun other => other.number ≠ invocation.number
  { traffic with invocations := left }.answer invocation.source
    (traffic.session.conclude invocation.before invocation.flight.context.directory ending)

/-- The session after a foreground line has gone on by half a stage. -/
def proceedFlight (traffic : Traffic) (invocation : Invocation) : Traffic :=
  let session := traffic.session
  let (flight, machine, call) := invocation.flight.advance session.registry session.machine
  { traffic with
    session := { session with machine := machine, calls := session.calls ++ call.toList }
    invocations := traffic.invocations.map fun other =>
      if other.number = invocation.number then { other with flight := flight } else other }

/-- Lets a foreground line go on. -/
def proceed (traffic : Traffic) (number : Nat) : Traffic :=
  match traffic.invocation? number with
  | none => traffic
  | some invocation =>
      match invocation.flight.ending? with
      | some ending => traffic.finish invocation ending
      | none => traffic.proceedFlight invocation

/-- One event. -/
def step (traffic : Traffic) : Event → Traffic
  | .line source => traffic.takeLine source
  | .proceed number => traffic.proceed number
  | .advance id => { traffic with session := traffic.session.advance id }
  | .kill id =>
      traffic.withMachine
        { traffic.machine with jobs := (traffic.jobs.kill id).getD traffic.jobs }
  | .world clock files => traffic.withMachine { traffic.machine with clock, files }

/-- Some events one after another. -/
def run (traffic : Traffic) (events : List Event) : Traffic :=
  events.foldl step traffic

end Traffic
end Conch
