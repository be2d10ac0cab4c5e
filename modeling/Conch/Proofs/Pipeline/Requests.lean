import Conch.Proofs.Files.Requests
import Conch.Proofs.Pipeline.Flight

/-!
# The requests of a pipeline

A pipeline that starts in a rooted directory stays in rooted directories and makes rooted
requests only, provided that its commands do so: there is one lemma for each part of a
stage.  A command that sets the directory of the pipeline has to answer with a rooted path.
-/

namespace Conch

open Files (Request Consults)

/-- In a rooted directory the handler of a command makes rooted requests only, and if the
command sets the directory, it sets a rooted one. -/
def Command.StaysRooted (command : Command) : Prop :=
  ∀ args context, Path.Rooted context.directory →
    Asks Request.IsRooted
      (fun ending => ∀ outcome, ending = .returned outcome → command.setsDirectory = true →
        outcome.isSuccess = true → Path.Rooted (Path.ofText outcome.stdout))
      (command.handler args context)

/-- All commands of a registry stay rooted. -/
def Registry.StaysRooted (registry : Registry) : Prop :=
  ∀ command ∈ registry.commands, command.StaysRooted

/-! ## Reading and writing -/

/-- A computation that first looks whether the pipeline has been asked to stop. -/
theorem Asks.checked {α : Type} {P : Request → Prop} {Q : α → Prop} {f : Machine → α × Machine}
    (context : Context) (refused : Fault → α) (hresult : ∀ fault, Q (refused fault))
    (hrefused : ∀ machine fault, context.check machine = .error fault →
      f machine = (refused fault, machine))
    (hgoesOn : ∀ machine : Machine,
      (∀ files, context.check { machine with files := files } = .ok ()) →
      ∃ g, Asks P Q g ∧ ∀ files : Files.Store,
        f { machine with files := files } = g { machine with files := files }) :
    Asks P Q f := by
  refine .of_forall fun machine => ?_
  -- the flags of a machine are apart from its files
  have hcheck : ∀ files, context.check { machine with files := files } = context.check machine :=
    fun _ => rfl
  cases hlooks : context.check machine with
  | error fault =>
      exact ⟨_, .done (hresult fault), fun files =>
        hrefused _ fault ((hcheck files).trans hlooks)⟩
  | ok _ => exact hgoesOn machine fun files => (hcheck files).trans hlooks

section Context

variable {context : Context}

theorem asks_readText (h : Path.Rooted context.directory) (target : String) :
    Asks Request.IsRooted (fun _ => True) fun machine =>
      (context.readText machine target, machine) := by
  refine .checked context .error (fun _ => trivial) (fun machine fault hfault => ?_)
    fun machine hlive => ?_
  · simp only [Context.readText, hfault]
    rfl
  · have hcancelled : ∀ files,
        context.isCancelled { machine with files := files } = context.isCancelled machine :=
      fun _ => rfl
    cases hpath : context.resolve (some target) with
    | error fault =>
        refine ⟨fun machine => (.error fault, machine), .done trivial, fun files => ?_⟩
        simp only [Context.readText, hlive, hpath]
        rfl
    | ok path =>
        have hread := Files.consults_readText (context.rooted_of_resolve h hpath)
          fun _ => context.isCancelled machine
        refine ⟨_, hread.asks.mapAny (Except.mapError (Fault.ofReading target)), fun files => ?_⟩
        simp only [Context.readText, hcancelled, hlive, hpath, bind, Except.bind]
        cases files.readText (fun _ => context.isCancelled machine) path <;> rfl

end Context

namespace Pipeline

/-- What the write step makes of the reply to its request. -/
def writeReply (target : String) :
    Except Files.OsError (Except Files.OsError Unit) → Except Fault Unit
  | .error error => .error (.file ("open " ++ target) error)
  | .ok (.error error) => .error (.file ("write " ++ target) error)
  | .ok (.ok ()) => .ok ()

theorem asks_writeOutput {context : Context} (h : Path.Rooted context.directory)
    (target output : String) (append : Bool) :
    Asks Request.IsRooted (fun _ => True) fun machine =>
      writeOutput context machine target output append := by
  refine .checked context .error (fun _ => trivial) (fun machine fault hfault => ?_)
    fun machine hlive => ?_
  · simp only [writeOutput, hfault]
  · cases hpath : context.resolve (some target) with
    | error fault =>
        refine ⟨fun machine => (.error fault, machine), .done trivial, fun files => ?_⟩
        simp only [writeOutput, hlive, hpath]
    | ok path =>
        by_cases hlarge : Limits.fileWrite < (Text.Utf8.encode output.toList).length
        · refine ⟨fun machine => (.error (.tooLarge ("Output for " ++ target) Limits.fileWrite),
            machine), .done trivial, fun files => ?_⟩
          simp only [writeOutput, hlive, hpath, hlarge, if_true]
        · have hrooted : (Request.write path append
              (Text.Utf8.encode output.toList)).IsRooted := context.rooted_of_resolve h hpath
          refine ⟨_, (Consults.once _ hrooted).asks.mapAny (writeReply target), fun files => ?_⟩
          simp only [writeOutput, hlive, hpath, hlarge, if_false, Request.answer]
          cases files.openForWriting path append with
          | error error => rfl
          | ok opened =>
              simp only
              cases opened.write (Text.Utf8.encode output.toList) <;> rfl

/-! ## The two halves of a stage -/

section Stage

variable {registry : Registry} {context : Context}
  (hdirectory : Path.Rooted context.directory)
include hdirectory

theorem asks_stageInput (stage : Line.Stage) (index : Nat) (piped : Option String) :
    Asks Request.IsRooted (fun _ => True) fun machine =>
      (stageInput stage index piped context machine, machine) := by
  unfold stageInput
  split
  · next file _ =>
      split
      · refine ((asks_readText hdirectory file).mapAny fun read =>
          (read.map some).mapError (inputRefusal file)).congr fun machine => ?_
        cases context.readText machine file <;> rfl
      · exact .done trivial
  · exact .done trivial

theorem asks_enter (registry : Registry) (stage : Line.Stage) (index : Nat)
    (piped : Option String) :
    Asks Request.IsRooted
      (fun entered => ∀ command input, entered = .ok (command, input) →
        command ∈ registry.commands)
      fun machine => (enter registry stage index piped context machine, machine) := by
  refine .checked context (fun fault => .error (refusal fault)) (by simp)
    (fun machine fault hfault => ?_) fun machine hlive => ?_
  · simp only [enter, hfault]
  · cases hknown : registry.find? stage.name with
    | none =>
        refine ⟨fun machine => (.error (refusal (.unknownCommand stage.name)), machine),
          .done (by simp), fun files => ?_⟩
        simp only [enter, hlive, hknown]
    | some command =>
        by_cases hrefused : (command.needsAdmin && !context.level.isAdmin) = true
        · refine ⟨fun machine => (.error (Outcome.failure 1
              (stage.name ++ ": admin permission required")), machine),
            .done (by simp), fun files => ?_⟩
          simp only [enter, hlive, hknown, hrefused, if_true]
        · have hinput := (asks_stageInput hdirectory stage index piped).map
            (R := fun entered : Except Outcome (Command × Option String) =>
              ∀ found input, entered = .ok (found, input) → found ∈ registry.commands)
            (Except.map fun input => (command, if command.takesInput then input else none))
            fun offered _ found input hentered => by
              cases offered with
              | error outcome => cases hentered
              | ok offered =>
                  obtain ⟨rfl, -⟩ := Prod.mk.inj (Except.ok.inj hentered)
                  exact Registry.mem_of_find? hknown
          refine ⟨_, hinput, fun files => ?_⟩
          simp only [enter, hlive, hknown, hrefused]
          cases stageInput stage index piped context { machine with files := files } <;> rfl

theorem rooted_adoptDirectory {command : Command} {outcome : Outcome}
    (houtcome : command.setsDirectory = true → outcome.isSuccess = true →
      Path.Rooted (Path.ofText outcome.stdout)) :
    Path.Rooted (adoptDirectory command outcome context).directory := by
  unfold adoptDirectory
  split
  · next hsets =>
      simp only [Bool.and_eq_true] at hsets
      exact houtcome hsets.1.1 hsets.1.2
  · exact hdirectory

/-- The outcome of a stage after its write step. -/
def redirected (stage : Line.Stage) (file : String) (outcome : Outcome) :
    Except Fault Unit → Outcome
  | .ok () => { outcome with stdout := confirmation stage.appends file }
  | .error fault => outputRefusal file fault

/-- The target of a redirection is resolved in the directory that the stage has set. -/
theorem asks_leave {command : Command} {outcome : Outcome} (stage : Line.Stage)
    (houtcome : command.setsDirectory = true → outcome.isSuccess = true →
      Path.Rooted (Path.ofText outcome.stdout)) :
    Asks Request.IsRooted
      (fun left : Outcome × Context => Path.Rooted left.2.directory)
      fun machine =>
        let left := leave command stage outcome context machine
        ((left.1, left.2.1), left.2.2) := by
  have hadopted := rooted_adoptDirectory hdirectory houtcome
  unfold leave
  cases stage.outputFile? with
  | none =>
      exact (Asks.done hadopted :
        Asks _ (fun left : Outcome × Context => Path.Rooted left.2.directory)
          fun machine => ((outcome, adoptDirectory command outcome context), machine))
  | some file =>
      refine ((asks_writeOutput hadopted file outcome.stdout stage.appends).map
        (R := fun left : Outcome × Context => Path.Rooted left.2.directory)
        (fun written => (redirected stage file outcome written,
          adoptDirectory command outcome context))
        fun _ _ => hadopted).congr fun machine => ?_
      simp only
      split
      · next hwritten =>
          rw [hwritten]
          rfl
      · next hwritten =>
          rw [hwritten]
          rfl

/-- If a stage is not refused, calls its handler and goes on with what has come of it. -/
def call {β : Type} (stage : Line.Stage) (context : Context)
    (refused : Outcome → Machine → β × Machine)
    (called : Command → Option String → Ending → Machine → β × Machine)
    (entered : Except Outcome (Command × Option String)) (machine : Machine) : β × Machine :=
  match entered with
  | .error outcome => refused outcome machine
  | .ok (command, input) =>
      let ended := command.handler stage.args { context with stdin := input } machine
      called command input ended.1 ended.2

/-- Enters a stage, calls its handler, and goes on with what has come of it. -/
def visit {β : Type} (registry : Registry) (stage : Line.Stage) (index : Nat)
    (piped : Option String) (context : Context) (refused : Outcome → Machine → β × Machine)
    (called : Command → Option String → Ending → Machine → β × Machine) (machine : Machine) :
    β × Machine :=
  call stage context refused called (enter registry stage index piped context machine) machine

theorem asks_visit {β : Type} {R : β → Prop} (hregistry : registry.StaysRooted)
    (stage : Line.Stage) (index : Nat) (piped : Option String)
    (refused : Outcome → Machine → β × Machine)
    (called : Command → Option String → Ending → Machine → β × Machine)
    (hrefused : ∀ outcome, Asks Request.IsRooted R (refused outcome))
    (hcalled : ∀ command input ending,
      (∀ outcome, ending = .returned outcome → command.setsDirectory = true →
        outcome.isSuccess = true → Path.Rooted (Path.ofText outcome.stdout)) →
      Asks Request.IsRooted R (called command input ending)) :
    Asks Request.IsRooted R (visit registry stage index piped context refused called) := by
  refine (asks_enter hdirectory registry stage index piped).bind
    (g := call stage context refused called) fun entered hentered => ?_
  cases entered with
  | error outcome => exact hrefused outcome
  | ok found =>
      obtain ⟨command, input⟩ := found
      exact (hregistry command (hentered command input rfl) stage.args
        { context with stdin := input } hdirectory).bind (hcalled command input)

end Stage

/-! ## A pipeline executed at one go -/

/-- What a report says apart from the machine. -/
def Report.apart (report : Report) : (Ending × Context × List Call) × Machine :=
  ((report.ending, report.context, report.calls), report.machine)

/-- The context of a report is rooted. -/
def EndsRooted (result : Ending × Context × List Call) : Prop :=
  Path.Rooted result.2.1.directory

theorem endsRooted {context : Context} (h : Path.Rooted context.directory)
    (ending : Ending) (calls : List Call) : EndsRooted (ending, context, calls) :=
  h

/-- What is left of a stage when its handler has ended. -/
def afterHandler (stage : Line.Stage) (context : Context) (command : Command)
    (input : Option String) : Ending → Machine → (Ending × Context × List Call) × Machine
  | .crashed message, machine =>
      ((.crashed message, context, [⟨command.name, stage.args, input⟩]), machine)
  | .returned outcome, machine =>
      let left := leave command stage outcome context machine
      ((.returned left.1, left.2.1, [⟨command.name, stage.args, input⟩]), left.2.2)

theorem asks_runStage {registry : Registry} (hregistry : registry.StaysRooted)
    {context : Context} (hdirectory : Path.Rooted context.directory)
    (stage : Line.Stage) (index : Nat) (piped : Option String) :
    Asks Request.IsRooted EndsRooted fun machine =>
      (runStage registry stage index piped context machine).apart := by
  refine (asks_visit hdirectory hregistry stage index piped
    (fun outcome machine => ((.returned outcome, context, []), machine))
    (afterHandler stage context) (fun outcome => .done (endsRooted hdirectory _ _))
    fun command input ending hending => ?_).congr fun machine => ?_
  · cases ending with
    | crashed message => exact .done (endsRooted hdirectory _ _)
    | returned outcome =>
        exact (asks_leave hdirectory stage (hending outcome rfl)).map
          (fun left => (Ending.returned left.1, left.2,
            [(⟨command.name, stage.args, input⟩ : Call)]))
          fun _ hleft => endsRooted hleft _ _
  · simp only [runStage, visit, call]
    cases enter registry stage index piped context machine with
    | error outcome => rfl
    | ok found =>
        obtain ⟨command, input⟩ := found
        simp only
        cases command.handler stage.args { context with stdin := input } machine with
        | mk ending after => cases ending <;> rfl

/-- What follows a stage, given what the stage has come to. -/
def afterFirst (registry : Registry) (index : Nat) (log : List String) (stage : Line.Stage)
    (rest : List Line.Stage) (first : Ending × Context × List Call) (machine : Machine) :
    (Ending × Context × List Call) × Machine :=
  match first.1 with
  | .crashed _ => (first, machine)
  | .returned outcome =>
      let log := gather log outcome
      if rest.isEmpty then ((.returned (finished log outcome), first.2), machine)
      else if outcome.isSuccess then
        let later :=
          runStages registry (index + 1) (some outcome.stdout) log first.2.1 machine rest
        ((later.ending, later.context, first.2.2 ++ later.calls), later.machine)
      else ((.returned (stopped log index stage outcome.exitCode), first.2), machine)

theorem asks_runStages {registry : Registry} (hregistry : registry.StaysRooted)
    {context : Context} (hdirectory : Path.Rooted context.directory) (index : Nat)
    (piped : Option String) (log : List String) (stages : List Line.Stage) :
    Asks Request.IsRooted EndsRooted fun machine =>
      (runStages registry index piped log context machine stages).apart := by
  induction stages generalizing index piped log context with
  | nil => exact .done (endsRooted hdirectory _ _)
  | cons stage rest ih =>
      refine ((asks_runStage hregistry hdirectory stage index piped).bind
        (g := afterFirst registry index log stage rest) (R := EndsRooted)
        fun first hfirst => ?_).congr fun machine => ?_
      · obtain ⟨ending, next, calls⟩ := first
        cases ending with
        | crashed message => exact .done hfirst
        | returned outcome =>
            unfold afterFirst
            simp only
            split
            · exact .done hfirst
            · split
              · exact (ih hfirst _ _ _).map
                  (fun later => (later.1, later.2.1, calls ++ later.2.2)) fun _ hlater => hlater
              · exact .done hfirst
      · simp only [runStages, afterFirst]
        generalize runStage registry stage index piped context machine = first
        obtain ⟨ending, next, after, calls⟩ := first
        cases ending with
        | crashed message => rfl
        | returned outcome =>
            simp only [Report.apart]
            split
            · rfl
            · split <;> rfl

/-- A pipeline that starts in a rooted directory ends in one, and makes rooted requests only. -/
theorem asks_run {registry : Registry} (hregistry : registry.StaysRooted) {context : Context}
    (hdirectory : Path.Rooted context.directory) (stages : List Line.Stage) :
    Asks Request.IsRooted EndsRooted fun machine =>
      (run registry stages context machine).apart := by
  unfold run
  split
  · exact .done (endsRooted hdirectory _ _)
  · split
    · exact .done (endsRooted hdirectory _ _)
    · exact @asks_runStages _ hregistry { context with stdin := none } hdirectory _ _ _ _

/-! ## A pipeline in flight -/

namespace Flight

/-- The pipeline is in a rooted directory, and it is not about to set another one. -/
structure IsRooted (flight : Flight) : Prop where
  directory : Path.Rooted flight.context.directory
  leaving : ∀ command outcome, flight.phase = .leaving command outcome →
    command.setsDirectory = true → outcome.isSuccess = true →
    Path.Rooted (Path.ofText outcome.stdout)

theorem isRooted_start (stages : List Line.Stage) {context : Context}
    (h : Path.Rooted context.directory) : (Flight.start stages context).IsRooted where
  directory := h
  leaving command outcome hphase := absurd hphase (start_phase_ne stages context command outcome)

theorem IsRooted.endAt {flight : Flight} (h : flight.IsRooted) (ending : Ending) :
    (flight.endAt ending).IsRooted where
  directory := h.directory
  leaving _ _ hphase := by cases hphase

theorem isRooted_afterStage {flight : Flight} (h : Path.Rooted flight.context.directory)
    (stage : Line.Stage) (rest : List Line.Stage) (outcome : Outcome) :
    (flight.afterStage stage rest outcome).IsRooted where
  directory := by rwa [afterStage_context]
  leaving command other hphase :=
    absurd hphase (afterStage_phase_ne flight stage rest outcome command other)

/-- The pipeline is rooted after a half stage. -/
def StaysRooted (after : Flight × Option Call) : Prop :=
  after.1.IsRooted

theorem staysRooted {flight : Flight} (h : flight.IsRooted) (call : Option Call) :
    StaysRooted (flight, call) :=
  h

/-- What comes of a half stage, apart from the machine. -/
def stepApart (registry : Registry) (flight : Flight) (machine : Machine) :
    (Flight × Option Call) × Machine :=
  let after := flight.advance registry machine
  ((after.1, after.2.2), after.2.1)

/-- The pipeline when the handler of its stage has ended. -/
def afterHandler (flight : Flight) (command : Command) : Ending → Flight
  | .crashed message => flight.endAt (.crashed message)
  | .returned outcome => { flight with phase := .leaving command outcome }

/-- One half stage of a rooted pipeline. -/
theorem asks_advance {registry : Registry} (hregistry : registry.StaysRooted) {flight : Flight}
    (h : flight.IsRooted) :
    Asks Request.IsRooted StaysRooted (flight.stepApart registry) := by
  cases hended : flight.ending? with
  | some ending =>
      refine Asks.congr (.done (staysRooted h none)) fun machine => ?_
      simp only [stepApart, advance_of_ended registry machine hended]
  | none =>
      cases hstages : flight.stages with
      | nil =>
          refine Asks.congr (.done (staysRooted (h.endAt (.returned Outcome.empty)) none))
            fun machine => ?_
          simp only [stepApart, advance_of_noStages registry machine hended hstages]
      | cons stage rest =>
          cases hphase : flight.phase with
          | ended ending => simp [ending?, hphase] at hended
          | entering =>
              refine (asks_visit h.directory hregistry stage flight.index flight.piped
                (fun outcome machine => ((flight.afterStage stage rest outcome, none), machine))
                (fun command input ending machine =>
                  ((flight.afterHandler command ending,
                    some ⟨command.name, stage.args, input⟩), machine))
                (fun outcome =>
                  .done (staysRooted (isRooted_afterStage h.directory stage rest outcome) none))
                fun command input ending hending => .done (staysRooted ?_ _)).congr
                fun machine => ?_
              -- a handler that has returned is left with the directory that it was called in
              · cases ending with
                | crashed message => exact h.endAt _
                | returned outcome =>
                    refine ⟨h.directory, fun found result hleaving => ?_⟩
                    obtain ⟨rfl, rfl⟩ := Phase.leaving.inj hleaving
                    exact hending outcome rfl
              · simp only [stepApart, advance_of_entering registry machine hphase hstages,
                  enterStage, visit, call]
                cases enter registry stage flight.index flight.piped flight.context machine with
                | error outcome => rfl
                | ok found =>
                    obtain ⟨command, input⟩ := found
                    simp only
                    cases command.handler stage.args { flight.context with stdin := input }
                      machine with
                    | mk ending after => cases ending <;> rfl
          | leaving command outcome =>
              refine ((asks_leave h.directory stage (h.leaving command outcome hphase)).map
                (fun left => (({ flight with context := left.2 } : Flight).afterStage stage rest
                  left.1, none)) fun left hleft =>
                  staysRooted (isRooted_afterStage hleft stage rest left.1) none).congr
                fun machine => ?_
              simp only [stepApart, advance_of_leaving registry machine hphase hstages, leaveStage]

end Flight

end Pipeline

end Conch
