import Conch.Command.Registry
import Conch.Files.Writing
import Conch.Line.Stage

/-!
# Running a pipeline

Stages run in order.  The output of a stage is the input of the next, the error texts
of all stages are gathered, and a stage that fails stops the pipeline unless it is the
last one, whose outcome is the outcome of the pipeline.

A stage has two halves around its handler.  `enter` decides whether the handler may
run and with what input; `leave` adopts a new directory and writes the output to a
file.  A job can be killed between them, so a pipeline in flight can stop there.
-/

namespace Conch

/-- A call of a handler: the name of its command, its arguments and its input. -/
structure Call where
  command : String
  args : List String
  stdin : Option String
  deriving DecidableEq, Repr, Inhabited

namespace Pipeline

/-- The outcome for a fault that no command has caused. -/
def refusal (fault : Fault) : Outcome :=
  Outcome.failure fault.exitCode fault.message

/-- The outcome for an input file that cannot be read. -/
def inputRefusal (file : String) : Fault → Outcome
  | .tooLarge .. => Outcome.failure 1 ("Input file too large: " ++ file)
  | fault => Outcome.failure 1 ("Cannot read input file " ++ file ++ ": " ++ fault.message)

/-- The outcome for an output file that cannot be written. -/
def outputRefusal (file : String) : Fault → Outcome
  | .tooLarge .. => Outcome.failure 1 ("Output too large to write to " ++ file)
  | fault => Outcome.failure 1 ("Cannot write output file " ++ file ++ ": " ++ fault.message)

/-- The input of a stage.  Only the first stage reads the file it names; a later one
takes what is piped to it. -/
def stageInput (stage : Line.Stage) (index : Nat) (piped : Option String) (context : Context)
    (machine : Machine) : Except Outcome (Option String) :=
  match stage.inputFile? with
  | some file =>
      if index = 0 then
        match context.readText machine file with
        | .ok text => .ok (some text)
        | .error fault => .error (inputRefusal file fault)
      else .ok piped
  | none => .ok piped

/-- The command of a stage and the input it will be given, or the outcome of a stage
whose handler does not run. -/
def enter (registry : Registry) (stage : Line.Stage) (index : Nat) (piped : Option String)
    (context : Context) (machine : Machine) : Except Outcome (Command × Option String) :=
  match context.check machine with
  | .error fault => .error (refusal fault)
  | .ok () =>
      match registry.find? stage.name with
      | none => .error (refusal (.unknownCommand stage.name))
      | some command =>
          if command.needsAdmin && !context.level.isAdmin then
            .error (Outcome.failure 1 (stage.name ++ ": admin permission required"))
          else
            match stageInput stage index piped context machine with
            | .error outcome => .error outcome
            | .ok input => .ok (command, if command.takesInput then input else none)

/-- Writes the output of a stage to the file `target`. -/
def writeOutput (context : Context) (machine : Machine) (target output : String)
    (append : Bool) : Except Fault Unit × Machine :=
  match context.check machine with
  | .error fault => (.error fault, machine)
  | .ok () =>
      match context.resolve (some target) with
      | .error fault => (.error fault, machine)
      | .ok path =>
          let bytes := Text.Utf8.encode output.toList
          if Limits.fileWrite < bytes.length then
            (.error (.tooLarge ("Output for " ++ target) Limits.fileWrite), machine)
          else
            match machine.files.openForWriting path append with
            | .error error => (.error (.file ("open " ++ target) error), machine)
            | .ok opened =>
                match opened.write bytes with
                | .error error =>
                    (.error (.file ("write " ++ target) error),
                      { machine with files := opened.store })
                | .ok files => (.ok (), { machine with files := files })

/-- The context after a handler has returned: a command that sets the directory does so
with its output when it succeeds with one.  So the new directory is always a text. -/
def adoptDirectory (command : Command) (outcome : Outcome) (context : Context) : Context :=
  if command.setsDirectory && outcome.isSuccess && !outcome.stdout.isEmpty then
    { context with directory := Path.ofText outcome.stdout }
  else context

/-- The confirmation of an output written to a file. -/
def confirmation (append : Bool) (file : String) : String :=
  (if append then "Output appended to " else "Output written to ") ++ file

/-- What is left of a stage when its handler has returned. -/
def leave (command : Command) (stage : Line.Stage) (outcome : Outcome) (context : Context)
    (machine : Machine) : Outcome × Context × Machine :=
  let context := adoptDirectory command outcome context
  match stage.outputFile? with
  | none => (outcome, context, machine)
  | some file =>
      match writeOutput context machine file outcome.stdout stage.appends with
      | (.ok (), machine) =>
          ({ outcome with stdout := confirmation stage.appends file }, context, machine)
      | (.error fault, machine) => (outputRefusal file fault, context, machine)

/-- What one stage, or a pipeline, comes to. -/
structure Report where
  ending : Ending
  context : Context
  machine : Machine
  /-- The calls of handlers, in order. -/
  calls : List Call

/-- Runs one stage. -/
def runStage (registry : Registry) (stage : Line.Stage) (index : Nat) (piped : Option String)
    (context : Context) (machine : Machine) : Report :=
  match enter registry stage index piped context machine with
  | .error outcome => ⟨.returned outcome, context, machine, []⟩
  | .ok (command, input) =>
      let call := ⟨command.name, stage.args, input⟩
      match command.handler stage.args { context with stdin := input } machine with
      | (.crashed message, machine) => ⟨.crashed message, context, machine, [call]⟩
      | (.returned outcome, machine) =>
          let (outcome, context, machine) := leave command stage outcome context machine
          ⟨.returned outcome, context, machine, [call]⟩

/-- The error texts gathered so far with that of one more stage. -/
def gather (log : List String) (outcome : Outcome) : List String :=
  if outcome.stderr.isEmpty then log else log ++ [outcome.stderr]

/-- The outcome of a pipeline that the stage with this index stops. -/
def stopped (log : List String) (index : Nat) (stage : Line.Stage) (exitCode : Int) : Outcome :=
  Outcome.failure exitCode <|
    if log.isEmpty then
      "Pipeline failed at stage " ++ toString (index + 1) ++ ": " ++ stage.name
    else "\n".intercalate log

/-- The outcome of a pipeline whose last stage has this outcome. -/
def finished (log : List String) (outcome : Outcome) : Outcome :=
  { outcome with stderr := "\n".intercalate log }

/-- Runs the stages that are left, given the index of the first of them, what is piped
to it, and the error texts gathered before. -/
def runStages (registry : Registry) (index : Nat) (piped : Option String) (log : List String)
    (context : Context) (machine : Machine) : List Line.Stage → Report
  | [] => ⟨.returned Outcome.empty, context, machine, []⟩
  | stage :: rest =>
      let report := runStage registry stage index piped context machine
      match report.ending with
      | .crashed _ => report
      | .returned outcome =>
          let log := gather log outcome
          if rest.isEmpty then { report with ending := .returned (finished log outcome) }
          else if outcome.isSuccess then
            let later := runStages registry (index + 1) (some outcome.stdout) log
              report.context report.machine rest
            { later with calls := report.calls ++ later.calls }
          else
            { report with ending := .returned (stopped log index stage outcome.exitCode) }

/-- The outcome of a pipeline with too many stages. -/
def tooLong : Outcome :=
  Outcome.failure 1
    ("Pipeline too long: maximum " ++ toString Limits.stages ++ " stages allowed")

/-- Runs a pipeline.  The input of the context is the input of the first stage, and is
used up unless no stage is tried. -/
def run (registry : Registry) (stages : List Line.Stage) (context : Context)
    (machine : Machine) : Report :=
  if stages.isEmpty then ⟨.returned Outcome.empty, context, machine, []⟩
  else if Limits.stages < stages.length then ⟨.returned tooLong, context, machine, []⟩
  else
    runStages registry 0 context.stdin [] { context with stdin := none } machine stages

end Pipeline
end Conch
