import Conch.Command.Pipeline

/-!
# The course of one stage

A stage can stop before its handler for four reasons, and after it for one; otherwise
its outcome is that of the handler, with the confirmation of a redirected output in the
place of the output.  `Goes` states these courses one by one, in the words of the
registry, the flags and the files, and without the two halves into which `runStage` is
cut.  `goes_iff` says that `runStage` follows exactly one of them.
-/

namespace Conch.Pipeline

/-- A stage gets as far as its command: its pipeline has not been asked to stop, the name
of the command is known, and the level suffices for it. -/
structure Admits (registry : Registry) (stage : Line.Stage) (context : Context)
    (machine : Machine) (command : Command) : Prop where
  live : machine.isFired context.token = false
  known : registry.find? stage.name = some command
  allowed : command.needsAdmin = true → context.level = .admin

/-- What there is to read for a stage: for the first one the text of the file it names,
otherwise what is piped to it. -/
inductive Offers (stage : Line.Stage) (index : Nat) (piped : Option String) (context : Context)
    (machine : Machine) : Option String → Prop
  | file (name text : String) (hindex : index = 0) (hname : stage.inputFile? = some name)
      (hread : context.readText machine name = .ok text) :
      Offers stage index piped context machine (some text)
  | piped (hname : index = 0 → stage.inputFile? = none) :
      Offers stage index piped context machine piped

/-- The handler of a stage is called with an input: what there is to read if its command
takes input, else nothing.  It ends in some way and leaves some machine behind. -/
structure Calls (registry : Registry) (stage : Line.Stage) (index : Nat) (piped : Option String)
    (context : Context) (machine : Machine) (command : Command) (input : Option String)
    (ending : Ending) (after : Machine) : Prop where
  admits : Admits registry stage context machine command
  given : ∃ offered, Offers stage index piped context machine offered ∧
    input = if command.takesInput then offered else none
  ends : command.handler stage.args { context with stdin := input } machine = (ending, after)

/-- The courses that a stage can take. -/
inductive Goes (registry : Registry) (stage : Line.Stage) (index : Nat) (piped : Option String)
    (context : Context) (machine : Machine) : Report → Prop
  /-- The pipeline has been asked to stop. -/
  | cancelled (hfired : machine.isFired context.token = true) :
      Goes registry stage index piped context machine
        ⟨.returned (Outcome.failure 1 "Operation aborted"), context, machine, []⟩
  /-- No command has the name. -/
  | unknown (hlive : machine.isFired context.token = false)
      (hname : registry.find? stage.name = none) :
      Goes registry stage index piped context machine
        ⟨.returned (Outcome.failure 127 ("Command not found: " ++ stage.name)), context, machine,
          []⟩
  /-- The command is for privileged pipelines. -/
  | refused {command : Command} (hlive : machine.isFired context.token = false)
      (hname : registry.find? stage.name = some command) (hadmin : command.needsAdmin = true)
      (hlevel : context.level = .standard) :
      Goes registry stage index piped context machine
        ⟨.returned (Outcome.failure 1 (stage.name ++ ": admin permission required")), context,
          machine, []⟩
  /-- The first stage names an input file that cannot be read. -/
  | unreadable {command : Command} {file : String} {fault : Fault}
      (hadmits : Admits registry stage context machine command) (hindex : index = 0)
      (hfile : stage.inputFile? = some file)
      (hread : context.readText machine file = .error fault) :
      Goes registry stage index piped context machine
        ⟨.returned (inputRefusal file fault), context, machine, []⟩
  /-- The handler crashes. -/
  | crashed {command : Command} {input : Option String} {message : String} {after : Machine}
      (hcalls : Calls registry stage index piped context machine command input
        (.crashed message) after) :
      Goes registry stage index piped context machine
        ⟨.crashed message, context, after, [⟨command.name, stage.args, input⟩]⟩
  /-- The handler returns, and its output is not redirected. -/
  | returned {command : Command} {input : Option String} {outcome : Outcome} {after : Machine}
      (hcalls : Calls registry stage index piped context machine command input
        (.returned outcome) after)
      (hfile : stage.outputFile? = none) :
      Goes registry stage index piped context machine
        ⟨.returned outcome, adoptDirectory command outcome context, after,
          [⟨command.name, stage.args, input⟩]⟩
  /-- The handler returns, and its output is written to a file. -/
  | written {command : Command} {input : Option String} {outcome : Outcome}
      {after final : Machine} {file : String}
      (hcalls : Calls registry stage index piped context machine command input
        (.returned outcome) after)
      (hfile : stage.outputFile? = some file)
      (hwrite : writeOutput (adoptDirectory command outcome context) after file outcome.stdout
        stage.appends = (.ok (), final)) :
      Goes registry stage index piped context machine
        ⟨.returned ⟨confirmation stage.appends file, outcome.stderr, outcome.exitCode⟩,
          adoptDirectory command outcome context, final, [⟨command.name, stage.args, input⟩]⟩
  /-- The handler returns, but its output cannot be written. -/
  | unwritten {command : Command} {input : Option String} {outcome : Outcome}
      {after final : Machine} {file : String} {fault : Fault}
      (hcalls : Calls registry stage index piped context machine command input
        (.returned outcome) after)
      (hfile : stage.outputFile? = some file)
      (hwrite : writeOutput (adoptDirectory command outcome context) after file outcome.stdout
        stage.appends = (.error fault, final)) :
      Goes registry stage index piped context machine
        ⟨.returned (outputRefusal file fault), adoptDirectory command outcome context, final,
          [⟨command.name, stage.args, input⟩]⟩

/-! ## The two halves -/

theorem stageInput_eq_ok_iff {stage : Line.Stage} {index : Nat} {piped : Option String}
    {context : Context} {machine : Machine} {offered : Option String} :
    stageInput stage index piped context machine = .ok offered ↔
      Offers stage index piped context machine offered := by
  unfold stageInput
  constructor
  · intro h
    split at h
    · next file hfile =>
        split at h
        · next hindex =>
            split at h
            · next text hread =>
                obtain rfl : some text = offered := by simpa using h
                exact .file file text hindex hfile hread
            · cases h
        · next hindex =>
            obtain rfl : piped = offered := by simpa using h
            exact .piped fun hzero => absurd hzero hindex
    · next hfile =>
        obtain rfl : piped = offered := by simpa using h
        exact .piped fun _ => hfile
  · intro h
    cases h with
    | file name text hindex hname hread => simp [hname, hindex, hread]
    | piped hname =>
        by_cases hindex : index = 0
        · simp [hname hindex]
        · cases stage.inputFile? <;> simp [hindex]

theorem stageInput_eq_error_iff {stage : Line.Stage} {index : Nat} {piped : Option String}
    {context : Context} {machine : Machine} {outcome : Outcome} :
    stageInput stage index piped context machine = .error outcome ↔
      index = 0 ∧ ∃ file fault, stage.inputFile? = some file ∧
        context.readText machine file = .error fault ∧ outcome = inputRefusal file fault := by
  unfold stageInput
  constructor
  · intro h
    split at h
    · next file hfile =>
        split at h
        · next hindex =>
            split at h
            · cases h
            · next fault hread =>
                exact ⟨hindex, file, fault, hfile, hread, by simpa using h.symm⟩
        · cases h
    · cases h
  · rintro ⟨hindex, file, fault, hfile, hread, rfl⟩
    simp [hfile, hindex, hread]

/-- Past its three checks a stage is left with its input. -/
theorem enter_of_admits {registry : Registry} {stage : Line.Stage} {context : Context}
    {machine : Machine} {command : Command} (index : Nat) (piped : Option String)
    (h : Admits registry stage context machine command) :
    enter registry stage index piped context machine =
      (stageInput stage index piped context machine).map fun offered =>
        (command, if command.takesInput then offered else none) := by
  obtain ⟨hlive, hknown, hallowed⟩ := h
  -- a command for privileged pipelines has been met in one
  have hlevel : (command.needsAdmin && !context.level.isAdmin) = false := by
    cases hadmin : command.needsAdmin with
    | false => rfl
    | true => simp [hallowed hadmin, Permission.isAdmin]
  simp only [enter, Context.check, Context.isCancelled, hlive, hknown, hlevel,
    Bool.false_eq_true, if_false]
  cases stageInput stage index piped context machine <;> rfl

/-- A stage calls its handler exactly if it gets as far as its command and what there is
to read can be read. -/
theorem enter_eq_ok_iff {registry : Registry} {stage : Line.Stage} {index : Nat}
    {piped : Option String} {context : Context} {machine : Machine} {command : Command}
    {input : Option String} :
    enter registry stage index piped context machine = .ok (command, input) ↔
      Admits registry stage context machine command ∧
        ∃ offered, Offers stage index piped context machine offered ∧
          input = if command.takesInput then offered else none := by
  constructor
  · intro h
    unfold enter Context.check Context.isCancelled at h
    split at h
    · cases h
    · next hcheck =>
        have hlive : machine.isFired context.token = false := by
          cases hfired : machine.isFired context.token with
          | false => rfl
          | true => simp [hfired] at hcheck
        split at h
        · cases h
        · next found hknown =>
            split at h
            · cases h
            · next hallowed =>
                split at h
                · cases h
                · next offered hoffered =>
                    obtain ⟨rfl, rfl⟩ : found = command ∧
                        (if found.takesInput then offered else none) = input := by
                      simpa using h
                    refine ⟨⟨hlive, hknown, fun hadmin => ?_⟩, offered,
                      stageInput_eq_ok_iff.mp hoffered, rfl⟩
                    simpa [hadmin, Permission.isAdmin] using hallowed
  · rintro ⟨hadmits, offered, hoffers, rfl⟩
    rw [enter_of_admits index piped hadmits, stageInput_eq_ok_iff.mpr hoffers]
    rfl

/-- What a stage comes to when its handler does not run. -/
theorem goes_of_enter_error {registry : Registry} {stage : Line.Stage} {index : Nat}
    {piped : Option String} {context : Context} {machine : Machine} {outcome : Outcome}
    (h : enter registry stage index piped context machine = .error outcome) :
    Goes registry stage index piped context machine
      ⟨.returned outcome, context, machine, []⟩ := by
  unfold enter Context.check Context.isCancelled at h
  cases hlive : machine.isFired context.token with
  | true =>
      obtain rfl : refusal .aborted = outcome := by simpa [hlive] using h
      exact .cancelled hlive
  | false =>
      simp only [hlive, Bool.false_eq_true, if_false] at h
      cases hknown : registry.find? stage.name with
      | none =>
          obtain rfl : refusal (.unknownCommand stage.name) = outcome := by simpa [hknown] using h
          exact .unknown hlive hknown
      | some command =>
          simp only [hknown] at h
          split at h
          · next hrefused =>
              obtain ⟨hadmin, hlevel⟩ :
                  command.needsAdmin = true ∧ context.level ≠ .admin := by
                simpa [Permission.isAdmin] using hrefused
              have hstandard : context.level = .standard := by
                cases hl : context.level with
                | admin => exact absurd hl hlevel
                | standard => rfl
              obtain rfl := Except.error.inj h
              exact .refused hlive hknown hadmin hstandard
          · next hallowed =>
              -- past the three checks only the input is left to fail
              have hadmits : Admits registry stage context machine command :=
                ⟨hlive, hknown, fun hadmin => by simpa [hadmin, Permission.isAdmin] using hallowed⟩
              split at h
              · next hinput =>
                  obtain ⟨hindex, file, fault, hfile, hread, rfl⟩ :=
                    stageInput_eq_error_iff.mp hinput
                  obtain rfl := Except.error.inj h
                  exact .unreadable hadmits hindex hfile hread
              · cases h

/-- `runStage` follows exactly one of the courses. -/
theorem goes_iff {registry : Registry} {stage : Line.Stage} {index : Nat}
    {piped : Option String} {context : Context} {machine : Machine} {report : Report} :
    Goes registry stage index piped context machine report ↔
      runStage registry stage index piped context machine = report := by
  constructor
  · intro h
    cases h with
    | cancelled hfired => simp [runStage, enter, Context.check, Context.isCancelled, hfired]; rfl
    | unknown hlive hname =>
        simp [runStage, enter, Context.check, Context.isCancelled, hlive, hname]; rfl
    | refused hlive hname hadmin hlevel =>
        simp [runStage, enter, Context.check, Context.isCancelled, hlive, hname, hadmin, hlevel,
          Permission.isAdmin]
    | @unreadable command file fault hadmits hindex hfile hread =>
        have hinput : stageInput stage index piped context machine =
            .error (inputRefusal file fault) :=
          stageInput_eq_error_iff.mpr ⟨hindex, file, fault, hfile, hread, rfl⟩
        simp [runStage, enter_of_admits index piped hadmits, hinput, Except.map]
    | crashed hcalls =>
        have henter := enter_eq_ok_iff.mpr ⟨hcalls.admits, hcalls.given⟩
        simp [runStage, henter, hcalls.ends]
    | returned hcalls hfile =>
        have henter := enter_eq_ok_iff.mpr ⟨hcalls.admits, hcalls.given⟩
        simp [runStage, henter, hcalls.ends, leave, hfile]
    | written hcalls hfile hwrite =>
        have henter := enter_eq_ok_iff.mpr ⟨hcalls.admits, hcalls.given⟩
        simp [runStage, henter, hcalls.ends, leave, hfile, hwrite]
    | unwritten hcalls hfile hwrite =>
        have henter := enter_eq_ok_iff.mpr ⟨hcalls.admits, hcalls.given⟩
        simp [runStage, henter, hcalls.ends, leave, hfile, hwrite]
  -- the case splits are those of `runStage`
  · rintro rfl
    unfold runStage
    cases henter : enter registry stage index piped context machine with
    | error outcome => exact goes_of_enter_error henter
    | ok entered =>
        obtain ⟨command, input⟩ := entered
        obtain ⟨hadmits, hgiven⟩ := enter_eq_ok_iff.mp henter
        cases hends : command.handler stage.args { context with stdin := input } machine with
        | mk ending after =>
            have hcalls :
                Calls registry stage index piped context machine command input ending after :=
              ⟨hadmits, hgiven, hends⟩
            cases ending with
            | crashed message => simpa [hends] using Goes.crashed hcalls
            | returned outcome =>
                simp only [hends, leave]
                cases hfile : stage.outputFile? with
                | none => exact .returned hcalls hfile
                | some file =>
                    cases hwrite : writeOutput (adoptDirectory command outcome context) after file
                        outcome.stdout stage.appends with
                    | mk result final =>
                        cases result with
                        | ok _ => simpa [hwrite] using Goes.written hcalls hfile hwrite
                        | error fault => simpa [hwrite] using Goes.unwritten hcalls hfile hwrite

end Conch.Pipeline
