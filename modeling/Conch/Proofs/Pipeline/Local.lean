import Conch.Proofs.Pipeline.Alone

/-!
# Handlers that look at little

A handler is local if it looks at its arguments, its input, its level, its directory and
the files only, and changes nothing but files.  It may look at the flag of its pipeline,
but nothing is asked of it once that is fired.  Two pipelines with local handlers that
differ in their flags go on alike on machines with the same files.
-/

namespace Conch

/-- Two contexts on two machines that show the same to a local handler.  Neither pipeline
has been asked to stop. -/
structure Alike (context other : Context) (machine another : Machine) : Prop where
  level : other.level = context.level
  directory : other.directory = context.directory
  stdin : other.stdin = context.stdin
  files : another.files = machine.files
  live : context.isCancelled machine = false
  lives : other.isCancelled another = false

/-- A handler that does the same wherever it is shown the same. -/
def Handler.IsLocal (handler : Handler) : Prop :=
  ∀ args context other machine another, Alike context other machine another →
    ∃ ending files,
      handler args context machine = (ending, { machine with files := files }) ∧
      handler args other another = (ending, { another with files := files })

namespace Alike

variable {context other : Context} {machine another : Machine}

theorem check (h : Alike context other machine another) : context.check machine = .ok () := by
  simp [Context.check, h.live]

theorem symm (h : Alike context other machine another) : Alike other context another machine :=
  ⟨h.level.symm, h.directory.symm, h.stdin.symm, h.files.symm, h.lives, h.live⟩

theorem resolve (h : Alike context other machine another) (target : Option String) :
    other.resolve target = context.resolve target := by
  simp only [Context.resolve, h.directory]

theorem readText (h : Alike context other machine another) (target : String) :
    other.readText another target = context.readText machine target := by
  -- while a file is read, the flag is looked at again and again
  have hchecks : (fun _ : Nat => other.isCancelled another) = fun _ =>
      context.isCancelled machine := by
    rw [h.live, h.lives]
  simp only [Context.readText, h.check, h.symm.check, h.resolve, h.files, hchecks]

theorem writeOutput (h : Alike context other machine another) (target output : String)
    (append : Bool) :
    ∃ result files,
      Pipeline.writeOutput context machine target output append =
        (result, { machine with files := files }) ∧
      Pipeline.writeOutput other another target output append =
        (result, { another with files := files }) := by
  simp only [Pipeline.writeOutput, h.check, h.symm.check, h.resolve, h.files]
  cases context.resolve (some target) with
  | error fault => exact ⟨.error fault, machine.files, rfl, by rw [← h.files]⟩
  | ok path =>
      simp only
      split
      · exact ⟨_, machine.files, rfl, by rw [← h.files]⟩
      · cases machine.files.openForWriting path append with
        | error error => exact ⟨_, machine.files, rfl, by rw [← h.files]⟩
        | ok opened =>
            simp only
            cases opened.write (Text.Utf8.encode output.toList) with
            | error error => exact ⟨_, _, rfl, rfl⟩
            | ok files => exact ⟨_, _, rfl, rfl⟩

/-- The flags aside, a stage is entered alike. -/
theorem enter (h : Alike context other machine another) (registry : Registry)
    (stage : Line.Stage) (index : Nat) (piped : Option String) :
    Pipeline.enter registry stage index piped other another =
      Pipeline.enter registry stage index piped context machine := by
  have hinput : Pipeline.stageInput stage index piped other another =
      Pipeline.stageInput stage index piped context machine := by
    simp only [Pipeline.stageInput, h.readText]
  simp only [Pipeline.enter, h.check, h.symm.check, h.level, hinput]

/-- The flags aside, a stage is left alike. -/
theorem leave (h : Alike context other machine another) (command : Command) (stage : Line.Stage)
    (outcome : Outcome) :
    ∃ result files,
      Pipeline.leave command stage outcome context machine =
        (result, Pipeline.adoptDirectory command outcome context,
          { machine with files := files }) ∧
      Pipeline.leave command stage outcome other another =
        (result, Pipeline.adoptDirectory command outcome other,
          { another with files := files }) := by
  -- the output goes to a file named from the directory that the handler moved to
  have hadopted : Alike (Pipeline.adoptDirectory command outcome context)
      (Pipeline.adoptDirectory command outcome other) machine another := by
    unfold Pipeline.adoptDirectory
    split
    · exact ⟨h.level, rfl, h.stdin, h.files, h.live, h.lives⟩
    · exact h
  unfold Pipeline.leave
  cases stage.outputFile? with
  | none => exact ⟨outcome, machine.files, rfl, by rw [← h.files]⟩
  | some file =>
      obtain ⟨result, files, hfirst, hsecond⟩ :=
        hadopted.writeOutput file outcome.stdout stage.appends
      simp only [hfirst, hsecond]
      cases result with
      | ok => exact ⟨_, files, rfl, rfl⟩
      | error fault => exact ⟨_, files, rfl, rfl⟩

end Alike

namespace Pipeline

/-- All commands that some stages name have local handlers. -/
def IsLocal (registry : Registry) (stages : List Line.Stage) : Prop :=
  ∀ stage ∈ stages, ∀ command, registry.find? stage.name = some command →
    command.handler.IsLocal

namespace Flight

/-- The pipeline with another flag. -/
def withToken (flight : Flight) (token : Token) : Flight :=
  { flight with context := { flight.context with token := token } }

@[simp] theorem withToken_token (flight : Flight) (token : Token) :
    (flight.withToken token).context.token = token :=
  rfl

@[simp] theorem withToken_ending? (flight : Flight) (token : Token) :
    (flight.withToken token).ending? = flight.ending? :=
  rfl

theorem withToken_afterStage (flight : Flight) (token : Token) (stage : Line.Stage)
    (rest : List Line.Stage) (outcome : Outcome) :
    (flight.withToken token).afterStage stage rest outcome =
      (flight.afterStage stage rest outcome).withToken token := by
  simp only [afterStage]
  split
  · rfl
  · split <;> rfl

/-- A pipeline has no stages but those it had. -/
theorem advance_stages {registry : Registry} {flight : Flight} {machine : Machine}
    {result : Flight × Machine × Option Call} (h : flight.advance registry machine = result) :
    ∀ stage ∈ result.1.stages, stage ∈ flight.stages := by
  have hafter : ∀ (context : Context) {stage : Line.Stage} {rest : List Line.Stage}
      (outcome : Outcome), flight.stages = stage :: rest →
      ∀ other ∈ ({ flight with context := context }.afterStage stage rest outcome).stages,
        other ∈ flight.stages := by
    intro context stage rest outcome hstages other hother
    simp only [afterStage] at hother
    split at hother
    · exact hother
    · split at hother
      · rw [hstages]
        exact List.mem_cons_of_mem _ hother
      · exact hother
  cases moves h with
  | rests | runsOut | crashed | called => exact fun _ hmem => hmem
  | refused _ hstages => exact hafter flight.context _ hstages
  | left _ hstages => exact hafter _ _ hstages

section Alike

variable {registry : Registry} {flight : Flight} {machine another : Machine} {token : Token}
  {stage : Line.Stage} {rest : List Line.Stage}

/-- The flag aside, a pipeline shows a handler the same on machines with the same files. -/
theorem alike_withToken (hfiles : another.files = machine.files)
    (hlive : machine.isFired flight.context.token = false) (hlives : another.isFired token = false)
    (stdin : Option String) :
    Alike { flight.context with stdin := stdin }
      { (flight.withToken token).context with stdin := stdin } machine another :=
  ⟨rfl, rfl, rfl, hfiles, hlive, hlives⟩

theorem enterStage_withToken
    (hlocal : ∀ command, registry.find? stage.name = some command → command.handler.IsLocal)
    (halike : ∀ stdin, Alike { flight.context with stdin := stdin }
      { (flight.withToken token).context with stdin := stdin } machine another) :
    ∃ next files call,
      flight.enterStage registry stage rest machine =
        (next, { machine with files := files }, call) ∧
      (flight.withToken token).enterStage registry stage rest another =
        (next.withToken token, { another with files := files }, call) := by
  have hcontexts : Alike flight.context (flight.withToken token).context machine another :=
    halike flight.context.stdin
  have henters : enter registry stage (flight.withToken token).index (flight.withToken token).piped
      (flight.withToken token).context another =
        enter registry stage flight.index flight.piped flight.context machine :=
    hcontexts.enter registry stage flight.index flight.piped
  cases henter : enter registry stage flight.index flight.piped flight.context machine with
  | error outcome =>
      refine ⟨flight.afterStage stage rest outcome, machine.files, none, ?_, ?_⟩
      · simp only [enterStage, henter]
      · simp only [enterStage, henters, henter, withToken_afterStage, ← hcontexts.files]
  | ok entered =>
      obtain ⟨command, input⟩ := entered
      have hknown := (enter_eq_ok_iff.mp henter).1.known
      obtain ⟨ending, files, hcall, hcalls⟩ :=
        hlocal command hknown stage.args _ _ _ _ (halike input)
      let call : Call := ⟨command.name, stage.args, input⟩
      cases ending with
      | crashed message =>
          refine ⟨flight.endAt (.crashed message), files, some call, ?_, ?_⟩
          · simp only [enterStage, henter, hcall, call]
          · simp only [enterStage, henters, henter, hcalls, call]
            rfl
      | returned outcome =>
          refine ⟨{ flight with phase := .leaving command outcome }, files, some call, ?_, ?_⟩
          · simp only [enterStage, henter, hcall, call]
          · simp only [enterStage, henters, henter, hcalls, call]
            rfl

theorem leaveStage_withToken
    (halike : Alike flight.context (flight.withToken token).context machine another)
    (command : Command) (outcome : Outcome) :
    ∃ next files,
      flight.leaveStage command outcome stage rest machine =
        (next, { machine with files := files }) ∧
      (flight.withToken token).leaveStage command outcome stage rest another =
        (next.withToken token, { another with files := files }) := by
  obtain ⟨result, files, hleave, hleaves⟩ := halike.leave command stage outcome
  have hadopt : adoptDirectory command outcome (flight.withToken token).context =
      { adoptDirectory command outcome flight.context with token := token } := by
    unfold adoptDirectory
    split <;> rfl
  let left : Flight := { flight with context := adoptDirectory command outcome flight.context }
  refine ⟨left.afterStage stage rest result, files, ?_, ?_⟩
  · simp only [leaveStage, hleave, left]
  · simp only [leaveStage, hleaves, hadopt, ← withToken_afterStage, left]
    rfl

/-- The flag aside, a pipeline with local handlers goes on alike on machines with the same
files, as long as it has not been asked to stop. -/
theorem advance_withToken (hlocal : IsLocal registry flight.stages)
    (hfiles : another.files = machine.files)
    (hlive : machine.isFired flight.context.token = false)
    (hlives : another.isFired token = false) :
    ∃ next files call,
      flight.advance registry machine = (next, { machine with files := files }, call) ∧
      (flight.withToken token).advance registry another =
        (next.withToken token, { another with files := files }, call) := by
  -- what has ended leaves both machines alone, and so their files the same
  have hsame : another = { another with files := machine.files } := by rw [← hfiles]
  cases hending : flight.ending? with
  | some ending =>
      refine ⟨flight, machine.files, none, advance_of_ended registry machine hending, ?_⟩
      rw [← hsame]
      exact advance_of_ended registry another hending
  | none =>
      cases hstages : flight.stages with
      | nil =>
          refine ⟨_, machine.files, none, advance_of_noStages registry machine hending hstages, ?_⟩
          rw [← hsame]
          exact advance_of_noStages registry another hending hstages
      | cons stage rest =>
          cases hphase : flight.phase with
          | ended => simp [ending?, hphase] at hending
          | entering =>
              rw [advance_of_entering registry machine hphase hstages,
                advance_of_entering registry another
                  (show (flight.withToken token).phase = _ from hphase) hstages]
              exact enterStage_withToken (hlocal stage (by simp [hstages]))
                (alike_withToken hfiles hlive hlives)
          | leaving command outcome =>
              rw [advance_of_leaving registry machine hphase hstages,
                advance_of_leaving registry another
                  (show (flight.withToken token).phase = _ from hphase) hstages]
              have halike : Alike flight.context (flight.withToken token).context machine another :=
                alike_withToken hfiles hlive hlives flight.context.stdin
              obtain ⟨next, files, hleave, hleaves⟩ := leaveStage_withToken halike command outcome
              exact ⟨next, files, none, by rw [hleave], by rw [hleaves]⟩

end Alike

end Flight
end Pipeline

end Conch
