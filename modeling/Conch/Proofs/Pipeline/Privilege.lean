import Conch.Proofs.Command.Lookup
import Conch.Proofs.Pipeline.Flight

/-!
# Pipelines that are not privileged

Two registries may differ in the handlers of commands for privileged pipelines.  A pipeline
of standard level cannot tell one from the other: every half stage and every run comes to the
same, and calls no such handler.
-/

namespace Conch

/-- Two commands that are the same but for their handlers, and in those, too, unless they are
for privileged pipelines. -/
structure Command.AgreesOpenly (command other : Command) : Prop where
  name : other.name = command.name
  description : other.description = command.description
  needsAdmin : other.needsAdmin = command.needsAdmin
  takesInput : other.takesInput = command.takesInput
  setsDirectory : other.setsDirectory = command.setsDirectory
  handler : command.needsAdmin = false → other.handler = command.handler

theorem Command.AgreesOpenly.refl (command : Command) : command.AgreesOpenly command :=
  ⟨rfl, rfl, rfl, rfl, rfl, fun _ => rfl⟩

theorem Command.AgreesOpenly.eq {command other : Command} (h : command.AgreesOpenly other)
    (hopen : command.needsAdmin = false) : other = command := by
  obtain ⟨name, description, needsAdmin, takesInput, setsDirectory, handler⟩ := command
  obtain ⟨hname, hdescription, hadmin, hinput, hdirectory, hhandler⟩ := h
  cases other
  simp only at hname hdescription hadmin hinput hdirectory hhandler hopen
  rw [hname, hdescription, hadmin, hinput, hdirectory, hhandler hopen]

namespace Registry

/-- Under every name two registries have commands that agree openly, or none. -/
def AgreesOpenly (registry other : Registry) : Prop :=
  ∀ name, Option.Rel Command.AgreesOpenly (registry.find? name) (other.find? name)

theorem AgreesOpenly.refl (registry : Registry) : registry.AgreesOpenly registry := by
  intro name
  cases registry.find? name with
  | none => exact .none
  | some command => exact .some (.refl command)

/-- Registries that agree openly go on to do so with commands that agree openly. -/
theorem AgreesOpenly.register {registry other : Registry} {command twin : Command}
    (h : registry.AgreesOpenly other) (hcommand : command.AgreesOpenly twin) :
    (registry.register command).AgreesOpenly (other.register twin) := by
  intro name
  rw [find?_register, find?_register, hcommand.name]
  split
  · exact .some hcommand
  · exact h name

/-- A call of a handler that is open to pipelines of standard level. -/
def IsOpen (registry : Registry) (call : Call) : Prop :=
  ∃ command, registry.find? call.command = some command ∧ command.needsAdmin = false

end Registry

namespace Pipeline

theorem adoptDirectory_level (command : Command) (outcome : Outcome) (context : Context) :
    (adoptDirectory command outcome context).level = context.level := by
  unfold adoptDirectory
  split <;> rfl

section Standard

variable {registry other : Registry} {context : Context}

/-- At standard level a stage is left with a command that is not for privileged pipelines. -/
theorem Admits.needsAdmin_eq_false {stage : Line.Stage} {machine : Machine} {command : Command}
    (h : Admits registry stage context machine command) (hlevel : context.level = .standard) :
    command.needsAdmin = false := by
  cases hadmin : command.needsAdmin with
  | false => rfl
  | true =>
      have hprivileged := h.allowed hadmin
      rw [hlevel] at hprivileged
      cases hprivileged

theorem Admits.isOpen {stage : Line.Stage} {machine : Machine} {command : Command}
    (h : Admits registry stage context machine command) (hlevel : context.level = .standard)
    (args : List String) (input : Option String) :
    registry.IsOpen ⟨command.name, args, input⟩ :=
  ⟨command, Registry.find?_name h.known, h.needsAdmin_eq_false hlevel⟩

/-- At standard level a stage is entered alike over registries that agree openly. -/
theorem enter_of_agreesOpenly (hagrees : registry.AgreesOpenly other)
    (hlevel : context.level = .standard) (stage : Line.Stage) (index : Nat)
    (piped : Option String) (machine : Machine) :
    enter other stage index piped context machine =
      enter registry stage index piped context machine := by
  simp only [enter]
  have hname := hagrees stage.name
  generalize registry.find? stage.name = found at hname ⊢
  generalize other.find? stage.name = twin at hname ⊢
  cases hname with
  | none => rfl
  | @some command twin hcommand =>
      cases hadmin : command.needsAdmin with
      | false => rw [hcommand.eq hadmin]
      -- both stages are refused before their handlers, which may differ, come in
      | true => simp [hcommand.needsAdmin, hadmin, hlevel, Permission.isAdmin]

/-! ## Whole stages -/

theorem runStage_of_agreesOpenly (hagrees : registry.AgreesOpenly other)
    (hlevel : context.level = .standard) (stage : Line.Stage) (index : Nat)
    (piped : Option String) (machine : Machine) :
    runStage other stage index piped context machine =
      runStage registry stage index piped context machine := by
  simp only [runStage, enter_of_agreesOpenly hagrees hlevel]

theorem runStage_level (registry : Registry) (stage : Line.Stage) (index : Nat)
    (piped : Option String) (context : Context) (machine : Machine) :
    (runStage registry stage index piped context machine).context.level = context.level := by
  generalize hreport : runStage registry stage index piped context machine = report
  cases goes_iff.mpr hreport with
  | cancelled | unknown | refused | unreadable | crashed => rfl
  | returned | written | unwritten => exact adoptDirectory_level _ _ _

theorem runStage_calls (registry : Registry) (hlevel : context.level = .standard)
    (stage : Line.Stage) (index : Nat) (piped : Option String) (machine : Machine) :
    ∀ call ∈ (runStage registry stage index piped context machine).calls,
      registry.IsOpen call := by
  generalize hreport : runStage registry stage index piped context machine = report
  cases goes_iff.mpr hreport with
  | cancelled | unknown | refused | unreadable => simp
  | crashed hcalls | returned hcalls | written hcalls | unwritten hcalls =>
      intro call hmem
      obtain rfl := List.mem_singleton.mp hmem
      exact hcalls.admits.isOpen hlevel _ _

/-- At standard level a run comes to the same over registries that agree openly, and calls
open handlers only. -/
theorem runStages_of_agreesOpenly (hagrees : registry.AgreesOpenly other)
    (hlevel : context.level = .standard) (stages : List Line.Stage) (index : Nat)
    (piped : Option String) (log : List String) (machine : Machine) :
    runStages other index piped log context machine stages =
        runStages registry index piped log context machine stages ∧
      ∀ call ∈ (runStages registry index piped log context machine stages).calls,
        registry.IsOpen call := by
  induction stages generalizing index piped log context machine with
  | nil => exact ⟨rfl, by simp [runStages]⟩
  | cons stage rest ih =>
      have hstage := runStage_of_agreesOpenly hagrees hlevel stage index piped machine
      have hcalls := runStage_calls registry hlevel stage index piped machine
      have hnext := (runStage_level registry stage index piped context machine).trans hlevel
      simp only [runStages, hstage]
      split
      · exact ⟨rfl, hcalls⟩
      · next outcome _ =>
          split
          · exact ⟨rfl, hcalls⟩
          · split
            · obtain ⟨hsame, hlater⟩ := ih hnext (index + 1) (some outcome.stdout)
                (gather log outcome)
                (runStage registry stage index piped context machine).machine
              refine ⟨by rw [hsame], fun call hmem => ?_⟩
              rcases List.mem_append.mp hmem with hmem | hmem
              · exact hcalls call hmem
              · exact hlater call hmem
            · exact ⟨rfl, hcalls⟩

theorem run_of_agreesOpenly (hagrees : registry.AgreesOpenly other)
    (hlevel : context.level = .standard) (stages : List Line.Stage) (machine : Machine) :
    run other stages context machine = run registry stages context machine ∧
      ∀ call ∈ (run registry stages context machine).calls, registry.IsOpen call := by
  simp only [run]
  split
  · exact ⟨rfl, by simp⟩
  · split
    · exact ⟨rfl, by simp⟩
    · have hstart : ({ context with stdin := none } : Context).level = .standard := hlevel
      exact runStages_of_agreesOpenly hagrees hstart stages 0 context.stdin [] machine

/-! ## Half stages -/

namespace Flight

variable {flight : Flight}

theorem advance_of_agreesOpenly (hagrees : registry.AgreesOpenly other)
    (hlevel : flight.context.level = .standard) (machine : Machine) :
    flight.advance other machine = flight.advance registry machine := by
  simp only [advance, enterStage, enter_of_agreesOpenly hagrees hlevel]

/-- A pipeline keeps its level. -/
theorem advance_level (registry : Registry) (flight : Flight) (machine : Machine) :
    (flight.advance registry machine).1.context.level = flight.context.level := by
  generalize hresult : flight.advance registry machine = result
  cases moves hresult with
  | rests | runsOut | crashed | called => rfl
  | refused => simp
  | @left stage _ command outcome _ context _ _ _ hleave =>
      have hcontext := leave_context command stage outcome flight.context machine
      rw [hleave] at hcontext
      subst hcontext
      simp [adoptDirectory_level]

theorem advance_calls (hlevel : flight.context.level = .standard) (machine : Machine) :
    ∀ call ∈ (flight.advance registry machine).2.2, registry.IsOpen call := by
  generalize hresult : flight.advance registry machine = result
  cases moves hresult with
  | rests | runsOut | refused | left => simp
  | crashed _ _ henter | called _ _ henter =>
      intro call hmem
      obtain rfl := Option.some.inj hmem
      exact (enter_eq_ok_iff.mp henter).1.isOpen hlevel _ _

end Flight

end Standard

end Pipeline

end Conch
