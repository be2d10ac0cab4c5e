import Conch.Command.Flight
import Conch.Proofs.Job.Lifecycle
import Conch.Proofs.Pipeline.Stage

/-!
# Half stages

`Moves` lists what a pipeline in flight can do in one half stage, so that no later proof
takes `Flight.advance` apart.  Handlers are arbitrary, except that a handler can touch
the job table only by the operations of the table: `Operates` says of which kind these
are.
-/

namespace Conch

/-- All that a handler does to the job table are operations of some kind, one after
another. -/
def Handler.Operates (kind : Job.Table.Op → Prop) (handler : Handler) : Prop :=
  ∀ args context machine, ∃ ops : List Job.Table.Op, (∀ op ∈ ops, kind op) ∧
    (handler args context machine).2.jobs = ops.foldl Job.Table.apply machine.jobs

/-- No handler of a registry does anything else to the job table. -/
def Registry.Operates (kind : Job.Table.Op → Prop) (registry : Registry) : Prop :=
  ∀ command ∈ registry.commands, command.handler.Operates kind

theorem Registry.Operates.mono {kind other : Job.Table.Op → Prop} {registry : Registry}
    (h : registry.Operates kind) (hkind : ∀ op, kind op → other op) : registry.Operates other := by
  intro command hmem args context machine
  obtain ⟨ops, hops, hjobs⟩ := h command hmem args context machine
  exact ⟨ops, fun op hop => hkind op (hops op hop), hjobs⟩

theorem Registry.mem_of_find? {registry : Registry} {name : String} {command : Command}
    (h : registry.find? name = some command) : command ∈ registry.commands :=
  List.mem_of_find?_eq_some h

namespace Pipeline

/-! ## What a half stage leaves alone -/

theorem adoptDirectory_token (command : Command) (outcome : Outcome) (context : Context) :
    (adoptDirectory command outcome context).token = context.token := by
  unfold adoptDirectory
  split <;> rfl

/-- Writing an output changes nothing but files. -/
theorem writeOutput_machine (context : Context) (machine : Machine) (target output : String)
    (append : Bool) :
    ∃ files, (writeOutput context machine target output append).2 =
      { machine with files := files } := by
  unfold writeOutput
  split
  · exact ⟨machine.files, rfl⟩
  · split
    · exact ⟨machine.files, rfl⟩
    · simp only
      split
      · exact ⟨machine.files, rfl⟩
      · split
        · exact ⟨machine.files, rfl⟩
        · split
          · exact ⟨_, rfl⟩
          · exact ⟨_, rfl⟩

theorem leave_context (command : Command) (stage : Line.Stage) (outcome : Outcome)
    (context : Context) (machine : Machine) :
    (leave command stage outcome context machine).2.1 =
      adoptDirectory command outcome context := by
  unfold leave
  cases stage.outputFile? with
  | none => rfl
  | some file =>
      simp only
      split <;> rfl

theorem leave_machine (command : Command) (stage : Line.Stage) (outcome : Outcome)
    (context : Context) (machine : Machine) :
    ∃ files, (leave command stage outcome context machine).2.2 =
      { machine with files := files } := by
  unfold leave
  cases stage.outputFile? with
  | none => exact ⟨machine.files, rfl⟩
  | some file =>
      have hwrite := writeOutput_machine (adoptDirectory command outcome context) machine file
        outcome.stdout stage.appends
      simp only
      split
      · next hresult => rwa [hresult] at hwrite
      · next hresult => rwa [hresult] at hwrite

namespace Flight

@[simp] theorem afterStage_context (flight : Flight) (stage : Line.Stage) (rest : List Line.Stage)
    (outcome : Outcome) : (flight.afterStage stage rest outcome).context = flight.context := by
  unfold afterStage
  simp only
  split
  · rfl
  · split <;> rfl

/-- A pipeline that has just left a stage is not about to leave one. -/
theorem afterStage_phase_ne (flight : Flight) (stage : Line.Stage) (rest : List Line.Stage)
    (outcome : Outcome) (command : Command) (left : Outcome) :
    (flight.afterStage stage rest outcome).phase ≠ .leaving command left := by
  unfold afterStage
  simp only
  split
  · simp [endAt]
  · split <;> simp [endAt]

/-- Nor is one that starts. -/
theorem start_phase_ne (stages : List Line.Stage) (context : Context) (command : Command)
    (left : Outcome) : (Flight.start stages context).phase ≠ .leaving command left := by
  unfold Flight.start
  split
  · simp
  · split <;> simp

/-- What a pipeline in flight can do in one half stage. -/
inductive Moves (registry : Registry) (flight : Flight) (machine : Machine) :
    Flight × Machine × Option Call → Prop
  /-- At its end it stays as it is. -/
  | rests {ending : Ending} (hended : flight.ending? = some ending) :
      Moves registry flight machine (flight, machine, none)
  /-- No stage is left. -/
  | runsOut (hopen : flight.ending? = none) (hstages : flight.stages = []) :
      Moves registry flight machine (flight.endAt (.returned Outcome.empty), machine, none)
  /-- The handler of the stage is not called. -/
  | refused {stage : Line.Stage} {rest : List Line.Stage} {outcome : Outcome}
      (hphase : flight.phase = .entering) (hstages : flight.stages = stage :: rest)
      (henter : enter registry stage flight.index flight.piped flight.context machine =
        .error outcome) :
      Moves registry flight machine (flight.afterStage stage rest outcome, machine, none)
  | crashed {stage : Line.Stage} {rest : List Line.Stage} {command : Command}
      {input : Option String} {message : String} {after : Machine}
      (hphase : flight.phase = .entering) (hstages : flight.stages = stage :: rest)
      (henter : enter registry stage flight.index flight.piped flight.context machine =
        .ok (command, input))
      (hcall : command.handler stage.args { flight.context with stdin := input } machine =
        (.crashed message, after)) :
      Moves registry flight machine
        (flight.endAt (.crashed message), after, some ⟨command.name, stage.args, input⟩)
  | called {stage : Line.Stage} {rest : List Line.Stage} {command : Command}
      {input : Option String} {outcome : Outcome} {after : Machine}
      (hphase : flight.phase = .entering) (hstages : flight.stages = stage :: rest)
      (henter : enter registry stage flight.index flight.piped flight.context machine =
        .ok (command, input))
      (hcall : command.handler stage.args { flight.context with stdin := input } machine =
        (.returned outcome, after)) :
      Moves registry flight machine
        ({ flight with phase := .leaving command outcome }, after,
          some ⟨command.name, stage.args, input⟩)
  | left {stage : Line.Stage} {rest : List Line.Stage} {command : Command}
      {outcome result : Outcome} {context : Context} {after : Machine}
      (hphase : flight.phase = .leaving command outcome) (hstages : flight.stages = stage :: rest)
      (hleave : leave command stage outcome flight.context machine = (result, context, after)) :
      Moves registry flight machine
        ({ flight with context := context }.afterStage stage rest result, after, none)

section Equations

variable {flight : Flight} {stage : Line.Stage} {rest : List Line.Stage} (registry : Registry)
  (machine : Machine)

/-- At its end a pipeline stays as it is. -/
theorem advance_of_ended {ending : Ending} (h : flight.ending? = some ending) :
    flight.advance registry machine = (flight, machine, none) := by
  cases hphase : flight.phase with
  | ended => simp only [advance, hphase]
  | entering => simp [ending?, hphase] at h
  | leaving => simp [ending?, hphase] at h

theorem advance_of_noStages (hopen : flight.ending? = none) (hstages : flight.stages = []) :
    flight.advance registry machine =
      (flight.endAt (.returned Outcome.empty), machine, none) := by
  cases hphase : flight.phase with
  | ended => simp [ending?, hphase] at hopen
  | entering => simp only [advance, hphase, hstages]
  | leaving => simp only [advance, hphase, hstages]

theorem advance_of_entering (hphase : flight.phase = .entering)
    (hstages : flight.stages = stage :: rest) :
    flight.advance registry machine = flight.enterStage registry stage rest machine := by
  simp only [advance, hphase, hstages]

theorem advance_of_leaving {command : Command} {outcome : Outcome}
    (hphase : flight.phase = .leaving command outcome) (hstages : flight.stages = stage :: rest) :
    flight.advance registry machine =
      ((flight.leaveStage command outcome stage rest machine).1,
        (flight.leaveStage command outcome stage rest machine).2, none) := by
  simp only [advance, hphase, hstages]

end Equations

/-- Every half stage is one of the moves. -/
theorem moves {registry : Registry} {flight : Flight} {machine : Machine}
    {result : Flight × Machine × Option Call} (h : flight.advance registry machine = result) :
    Moves registry flight machine result := by
  subst h
  cases hending : flight.ending? with
  | some ending =>
      rw [advance_of_ended registry machine hending]
      exact .rests hending
  | none =>
      cases hstages : flight.stages with
      | nil =>
          rw [advance_of_noStages registry machine hending hstages]
          exact .runsOut hending hstages
      | cons stage rest =>
          cases hphase : flight.phase with
          | ended => simp [ending?, hphase] at hending
          | entering =>
              rw [advance_of_entering registry machine hphase hstages, enterStage]
              split
              · next henter => exact .refused hphase hstages henter
              · next henter =>
                  simp only
                  split
                  · next hcall => exact .crashed hphase hstages henter hcall
                  · next hcall => exact .called hphase hstages henter hcall
          | leaving command outcome =>
              rw [advance_of_leaving registry machine hphase hstages]
              exact .left hphase hstages rfl

/-- A pipeline keeps its flag. -/
theorem advance_token {registry : Registry} {flight : Flight} {machine : Machine}
    {result : Flight × Machine × Option Call} (h : flight.advance registry machine = result) :
    result.1.context.token = flight.context.token := by
  cases moves h with
  | rests | runsOut | crashed | called => rfl
  | refused => simp
  | @left stage _ command outcome _ context _ _ _ hleave =>
      have hcontext := leave_context command stage outcome flight.context machine
      rw [hleave] at hcontext
      subst hcontext
      simp [adoptDirectory_token]

/-- What a half stage does to the job table are operations of the kind that the handlers
keep to. -/
theorem advance_operates {registry : Registry} {kind : Job.Table.Op → Prop}
    (hkind : registry.Operates kind) {flight : Flight} {machine : Machine}
    {result : Flight × Machine × Option Call} (h : flight.advance registry machine = result) :
    ∃ ops : List Job.Table.Op, (∀ op ∈ ops, kind op) ∧
      result.2.1.jobs = ops.foldl Job.Table.apply machine.jobs := by
  cases moves h with
  | rests | runsOut | refused => exact ⟨[], by simp, rfl⟩
  | @crashed stage _ command input _ after _ _ henter hcall
  | @called stage _ command input _ after _ _ henter hcall =>
      have hmem := Registry.mem_of_find? (enter_eq_ok_iff.mp henter).1.known
      have hops := hkind command hmem stage.args { flight.context with stdin := input } machine
      rwa [hcall] at hops
  | @left stage _ command outcome _ _ _ _ _ hleave =>
      obtain ⟨files, hmachine⟩ := leave_machine command stage outcome flight.context machine
      rw [hleave] at hmachine
      subst hmachine
      exact ⟨[], by simp, rfl⟩

end Flight
end Pipeline
end Conch
