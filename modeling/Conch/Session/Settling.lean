import Conch.Session.Basic

/-!
# Letting workers run

A schedule is the list of the jobs whose workers go on, in order; the one of a job that has no
worker passes.  One schedule is as good as another for workers that do not meet.  The schedule
here lets the workers run on until nothing is left to do or each one is held, and takes them
in the order in which their jobs were started.
-/

namespace Conch.Session

/-- Lets the workers of some jobs go on one after another. -/
def advanceAll (session : Session) (schedule : List Nat) : Session :=
  schedule.foldl advance session

/-- The steps that a worker has to go at most: two for each stage, and handing in. -/
def Worker.remaining (worker : Worker) : Nat :=
  2 * worker.flight.stages.length + 2

/-- Takes the first worker that is not held, so many times. -/
def firstFree (isHeld : Worker → Bool) : Nat → Session → List Nat
  | 0, _ => []
  | left + 1, session =>
      match session.workers.find? fun worker => !isHeld worker with
      | none => []
      | some worker =>
          worker.record.id :: firstFree isHeld left (session.advance worker.record.id)

/-- The schedule by which every worker ends or is held. -/
def schedule (isHeld : Worker → Bool) (session : Session) : List Nat :=
  let steps := session.workers.foldl (fun steps worker => steps + Worker.remaining worker) 0
  firstFree isHeld steps session

/-- The session when every worker has ended or is held. -/
def settle (isHeld : Worker → Bool) (session : Session) : Session :=
  session.advanceAll (session.schedule isHeld)

end Conch.Session
