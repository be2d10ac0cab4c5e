import Conch.Proofs.Builtin.Filters
import Conch.Proofs.Command.Lookup
import Conch.Proofs.Pipeline.Course

/-!
# Pipelines of commands that read

A standard command that only reports comes, in a stage, to what it reports.  `cat` and the line
filters are given what there is to read besides, and they leave the directory alone, so a pipeline
of two of them comes to what the second one reports on the output of the first.
-/

namespace Conch.Builtin

/-! ## The standard commands under their names -/

theorem find?_of_mem {command : Command} (h : command ∈ commands) :
    registry.find? command.name = some command := by
  have hspelt : ∀ other ∈ commands,
      Text.asciiLower other.name = other.name ∧ Text.asciiLower helpName ≠ other.name := by
    decide +kernel
  obtain ⟨hlower, hhelp⟩ := hspelt command h
  rw [registry, addTo, Registry.find?_register, hlower]
  refine (if_neg hhelp).trans ?_
  exact Registry.find?_foldl_register h (by decide +kernel) hlower Registry.empty

/-- A standard command that only reports, that is given input, and that everybody may run. -/
structure IsReader (name : String) (run : List String → Context → Machine → Outcome)
    (command : Command) : Prop where
  known : registry.find? name = some command
  reports : command.handler = reporting run
  free : command.needsAdmin = false
  takesInput : command.takesInput = true
  stays : command.setsDirectory = false

theorem isReader_of_mem {command : Command} {name : String}
    {run : List String → Context → Machine → Outcome} (h : command ∈ commands)
    (hname : command.name = name) (hreports : command.handler = reporting run)
    (hflags : command.needsAdmin = false ∧ command.takesInput = true ∧
      command.setsDirectory = false) : IsReader name run command :=
  ⟨hname ▸ find?_of_mem h, hreports, hflags.1, hflags.2.1, hflags.2.2⟩

theorem isReader_cat : ∃ command, IsReader "cat" cat command :=
  ⟨commands[3],
    isReader_of_mem (List.getElem_mem _) (by decide +kernel) rfl ⟨rfl, rfl, rfl⟩⟩

theorem IsFilter.isReader {name : String} {run : List String → Context → Machine → Outcome}
    {words : List String} {selection : Selection}
    (h : IsFilter Pattern.search name run words selection) :
    ∃ command, IsReader name run command := by
  cases h with
  | grep hpattern =>
      exact ⟨commands[4],
        isReader_of_mem (List.getElem_mem _) (by decide +kernel) rfl ⟨rfl, rfl, rfl⟩⟩
  | sort =>
      exact ⟨commands[5],
        isReader_of_mem (List.getElem_mem _) (by decide +kernel) rfl ⟨rfl, rfl, rfl⟩⟩
  | unique =>
      exact ⟨commands[6],
        isReader_of_mem (List.getElem_mem _) (by decide +kernel) rfl ⟨rfl, rfl, rfl⟩⟩

/-! ## Pipelines of one command and of two -/

open Pipeline

section Stage

variable {stage : Line.Stage} {run : List String → Context → Machine → Outcome}
  {command : Command} {context : Context} {machine : Machine} {input : Option String}

/-- A stage with a command that only reports comes to what the command reports. -/
theorem runStage_of_reporting (hknown : registry.find? stage.name = some command)
    (hreports : command.handler = reporting run) (hfree : command.needsAdmin = false)
    (hlive : machine.isFired context.token = false) (houtput : stage.outputFile? = none)
    {index : Nat} {piped offered : Option String}
    (hoffers : Offers stage index piped context machine offered)
    (hinput : input = if command.takesInput then offered else none) :
    runStage registry stage index piped context machine =
      ⟨.returned (run stage.args { context with stdin := input } machine),
        adoptDirectory command (run stage.args { context with stdin := input } machine) context,
        machine, [⟨command.name, stage.args, input⟩]⟩ := by
  have hcalls : Calls registry stage index piped context machine command input
      (.returned (run stage.args { context with stdin := input } machine)) machine :=
    { admits := ⟨hlive, hknown, fun hadmin => absurd hadmin (by rw [hfree]; decide)⟩
      given := ⟨offered, hoffers, hinput⟩
      ends := by rw [hreports]; rfl }
  exact goes_iff.mp (.returned hcalls houtput)

/-- A command that reads is given what there is to read. -/
theorem IsReader.runStage_eq (h : IsReader stage.name run command) {index : Nat}
    {piped : Option String} (hlive : machine.isFired context.token = false)
    (houtput : stage.outputFile? = none)
    (hoffers : Offers stage index piped context machine input) :
    runStage registry stage index piped context machine =
      ⟨.returned (run stage.args { context with stdin := input } machine), context, machine,
        [⟨command.name, stage.args, input⟩]⟩ := by
  have hinput : input = if command.takesInput then input else none := by
    rw [h.takesInput, if_pos rfl]
  have hstays : ∀ outcome, adoptDirectory command outcome context = context := fun outcome => by
    simp [adoptDirectory, h.stays]
  rw [runStage_of_reporting h.known h.reports h.free hlive houtput hoffers hinput, hstays]

variable (hstdin : context.stdin = none) (hlive : machine.isFired context.token = false)

include hstdin hlive

theorem IsReader.ending_run (h : IsReader stage.name run command)
    (houtput : stage.outputFile? = none) (hoffers : Offers stage 0 none context machine input) :
    (Pipeline.run registry [stage] context machine).ending =
      .returned (run stage.args { context with stdin := input } machine) := by
  rw [run_singleton registry stage hstdin, h.runStage_eq hlive houtput hoffers]

/-- A command that reads the output of another one comes to what it reports on that output. -/
theorem IsReader.ending_run_piped {first : Line.Stage}
    {before : List String → Context → Machine → Outcome} {source : Command} {text : String}
    (h : IsReader stage.name run command) (hfirst : IsReader first.name before source)
    (hinherit : first.outputFile? = none) (houtput : stage.outputFile? = none)
    (hoffers : Offers first 0 none context machine input)
    (hanswer : before first.args { context with stdin := input } machine = Outcome.success text) :
    (Pipeline.run registry [first, stage] context machine).ending =
      .returned (run stage.args { context with stdin := some text } machine) := by
  have hsource := hfirst.runStage_eq hlive hinherit hoffers
  rw [hanswer] at hsource
  have hpiped : Offers stage 1 (some text) context machine (some text) :=
    .piped fun hzero => by cases hzero
  have hstage := h.runStage_eq hlive houtput hpiped
  -- a success leaves nothing in the log
  have hlog : gather [] (Outcome.success text) = [] := rfl
  rw [run_of_silent hstdin (by simp [Limits.stages]),
    runStages_of_success (congrArg Report.ending hsource) (List.cons_ne_nil _ _) rfl, hsource,
    hlog]
  simp only [Outcome.success, runStages_of_last (congrArg Report.ending hstage), finished_gather]

end Stage

end Conch.Builtin
