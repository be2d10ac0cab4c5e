import Conch.Command.Pipeline

/-!
# Pipelines in flight

A pipeline that runs beside others advances by half stages: a half that enters a stage
and calls its handler, and a half that leaves the stage.  Between two halves, and before
its end is reported, anything may happen to the machine.  Advanced without interference,
a pipeline in flight does what `Pipeline.run` does; nothing is said here about fairness.
-/

namespace Conch.Pipeline

/-- Where a pipeline in flight stands. -/
inductive Phase where
  /-- Before its first remaining stage. -/
  | entering
  /-- In its first remaining stage, whose handler has returned. -/
  | leaving (command : Command) (outcome : Outcome)
  /-- At its end. -/
  | ended (ending : Ending)

/-- A pipeline in flight. -/
structure Flight where
  /-- The stages that are not finished. -/
  stages : List Line.Stage
  /-- The number of stages finished. -/
  index : Nat
  piped : Option String
  log : List String
  context : Context
  phase : Phase

/-- A pipeline that has not begun; it is at its end if it has nothing to do. -/
def Flight.start (stages : List Line.Stage) (context : Context) : Flight :=
  let phase :=
    if stages.isEmpty then .ended (.returned Outcome.empty)
    else if Limits.stages < stages.length then .ended (.returned tooLong)
    else .entering
  ⟨stages, 0, context.stdin, [], { context with stdin := none }, phase⟩

/-- The end of a pipeline, once it has come to it. -/
def Flight.ending? (flight : Flight) : Option Ending :=
  match flight.phase with
  | .ended ending => some ending
  | _ => none

/-- A pipeline that has come to its end. -/
def Flight.endAt (flight : Flight) (ending : Ending) : Flight :=
  { flight with phase := .ended ending }

/-- The pipeline after a stage has come to an outcome. -/
def Flight.afterStage (flight : Flight) (stage : Line.Stage) (rest : List Line.Stage)
    (outcome : Outcome) : Flight :=
  let log := gather flight.log outcome
  if rest.isEmpty then flight.endAt (.returned (finished log outcome))
  else if outcome.isSuccess then
    ⟨rest, flight.index + 1, some outcome.stdout, log, flight.context, .entering⟩
  else flight.endAt (.returned (stopped log flight.index stage outcome.exitCode))

/-- The half that enters a stage and calls its handler. -/
def Flight.enterStage (registry : Registry) (flight : Flight) (stage : Line.Stage)
    (rest : List Line.Stage) (machine : Machine) : Flight × Machine × Option Call :=
  match enter registry stage flight.index flight.piped flight.context machine with
  | .error outcome => (flight.afterStage stage rest outcome, machine, none)
  | .ok (command, input) =>
      let call := ⟨command.name, stage.args, input⟩
      match command.handler stage.args { flight.context with stdin := input } machine with
      | (.crashed message, machine) => (flight.endAt (.crashed message), machine, some call)
      | (.returned outcome, machine) =>
          ({ flight with phase := .leaving command outcome }, machine, some call)

/-- The half that leaves a stage whose handler has returned. -/
def Flight.leaveStage (flight : Flight) (command : Command) (outcome : Outcome)
    (stage : Line.Stage) (rest : List Line.Stage) (machine : Machine) : Flight × Machine :=
  let (outcome, context, machine) := leave command stage outcome flight.context machine
  ({ flight with context := context }.afterStage stage rest outcome, machine)

/-- One half stage: what becomes of the pipeline, the machine after it, and the call of
a handler if there was one.  At its end a pipeline stays as it is. -/
def Flight.advance (registry : Registry) (flight : Flight) (machine : Machine) :
    Flight × Machine × Option Call :=
  match flight.phase, flight.stages with
  | .ended _, _ => (flight, machine, none)
  | _, [] => (flight.endAt (.returned Outcome.empty), machine, none)
  | .entering, stage :: rest => flight.enterStage registry stage rest machine
  | .leaving command outcome, stage :: rest =>
      let (flight, machine) := flight.leaveStage command outcome stage rest machine
      (flight, machine, none)

/-- The command whose handler has returned in the stage that the pipeline stands in. -/
def Flight.pending? (flight : Flight) : Option Command :=
  match flight.phase with
  | .leaving command _ => some command
  | _ => none

end Conch.Pipeline
