import Conch.Proofs.Command.Registration
import Conch.Proofs.Pipeline.Fold

/-!
# Command names in any case

A stage finds its command by the lower case of the name, so the case in which the name is typed
shows in the messages that repeat it and nowhere else.  Two runs of a pipeline with its names
typed in different cases go side by side: every stage comes to the same in both, or both are
refused and end there.  `caseless` adds what registering commands under names of any case makes
of the registry.
-/

namespace Conch

/-- Two stages that differ at most in the case of the name of their command. -/
structure Line.Stage.Respells (stage other : Line.Stage) : Prop where
  name : Text.SameUpToCase other.name stage.name
  args : other.args = stage.args
  input : other.input = stage.input
  output : other.output = stage.output

namespace Pipeline

open Line (Stage)

/-- The messages that repeat the name of a command as it was typed, with two names for it. -/
inductive Echoes (name other : String) : String → String → Prop
  | unknown : Echoes name other ("Command not found: " ++ name) ("Command not found: " ++ other)
  | refused : Echoes name other (name ++ ": admin permission required")
      (other ++ ": admin permission required")
  | silent (number : Nat) : Echoes name other
      ("Pipeline failed at stage " ++ toString number ++ ": " ++ name)
      ("Pipeline failed at stage " ++ toString number ++ ": " ++ other)

theorem Echoes.ne_empty {name other message twin : String}
    (h : Echoes name other message twin) : message ≠ "" ∧ twin ≠ "" := by
  cases h <;> simp

/-- The same ending, but for a last message that repeats the name of one of the stages; it can
stand only at the end of a run that has failed without output. -/
inductive EndsAlike (stages others : List Stage) : Ending → Ending → Prop
  | same (ending : Ending) : EndsAlike stages others ending ending
  | echo {stage other : Stage} {message twin : String} {exitCode : Int}
      (hstage : (stage, other) ∈ stages.zip others)
      (hechoes : Echoes stage.name other.name message twin) (hfailed : exitCode ≠ 0)
      (log : List String) :
      EndsAlike stages others
        (.returned (Outcome.failure exitCode ("\n".intercalate (log ++ [message]))))
        (.returned (Outcome.failure exitCode ("\n".intercalate (log ++ [twin]))))

/-- Two runs that call the same handlers with the same arguments and inputs, and end in the same
directory, on the same machine and in the same way but for the names in a message. -/
structure RunsAlike (stages others : List Stage) (report other : Report) : Prop where
  calls : other.calls = report.calls
  context : other.context = report.context
  machine : other.machine = report.machine
  ending : EndsAlike stages others report.ending other.ending

theorem RunsAlike.refl (stages others : List Stage) (report : Report) :
    RunsAlike stages others report report :=
  ⟨rfl, rfl, rfl, .same _⟩

/-! ## One stage -/

section Stage

variable {stage other : Stage} (h : stage.Respells other)
include h

/-- The name of a stage is typed in another case: the stage is entered as before, or it is refused
in both cases with a message that repeats the name. -/
theorem enter_respells (registry : Registry) (index : Nat) (piped : Option String)
    (context : Context) (machine : Machine) :
    enter registry other index piped context machine =
        enter registry stage index piped context machine ∨
      ∃ exitCode message twin, exitCode ≠ 0 ∧ Echoes stage.name other.name message twin ∧
        enter registry stage index piped context machine =
          .error (Outcome.failure exitCode message) ∧
        enter registry other index piped context machine =
          .error (Outcome.failure exitCode twin) := by
  have hfind : registry.find? other.name = registry.find? stage.name := by
    have hlower : Text.asciiLower other.name = Text.asciiLower stage.name := h.name
    rw [Registry.find?, Registry.find?, hlower]
  have hinput : stageInput other index piped context machine =
      stageInput stage index piped context machine := by
    simp only [stageInput, Stage.inputFile?, h.input]
  simp only [enter, hfind, hinput]
  cases context.check machine with
  | error fault => exact .inl rfl
  | ok _ =>
      cases registry.find? stage.name with
      | none => exact .inr ⟨127, _, _, by decide, .unknown, rfl, rfl⟩
      | some command =>
          by_cases hrefused : (command.needsAdmin && !context.level.isAdmin) = true
          · simp only [hrefused, if_true]
            exact .inr ⟨1, _, _, by decide, .refused, rfl, rfl⟩
          · simp only [hrefused]
            exact .inl rfl

theorem runStage_respells (registry : Registry) (index : Nat) (piped : Option String)
    (context : Context) (machine : Machine) :
    runStage registry other index piped context machine =
        runStage registry stage index piped context machine ∨
      ∃ exitCode message twin, exitCode ≠ 0 ∧ Echoes stage.name other.name message twin ∧
        runStage registry stage index piped context machine =
          ⟨.returned (Outcome.failure exitCode message), context, machine, []⟩ ∧
        runStage registry other index piped context machine =
          ⟨.returned (Outcome.failure exitCode twin), context, machine, []⟩ := by
  have hleave : ∀ command outcome (after : Machine),
      leave command other outcome context after = leave command stage outcome context after := by
    intro command outcome after
    simp only [leave, Stage.outputFile?, Stage.appends, h.output]
  rcases enter_respells h registry index piped context machine with
    hsame | ⟨exitCode, message, twin, hfailed, hechoes, hstage, hother⟩
  · left
    simp only [runStage, hsame, h.args, hleave]
  · right
    refine ⟨exitCode, message, twin, hfailed, hechoes, ?_, ?_⟩
    · simp only [runStage, hstage]
    · simp only [runStage, hother]

end Stage

/-! ## Whole runs -/

theorem EndsAlike.cons {stages others : List Stage} {ending twin : Ending} (stage other : Stage)
    (h : EndsAlike stages others ending twin) :
    EndsAlike (stage :: stages) (other :: others) ending twin := by
  cases h with
  | same => exact .same _
  | echo hstage hechoes hfailed log =>
      exact .echo (List.mem_cons_of_mem _ hstage) hechoes hfailed log

/-- Two refusals that repeat a name end a run alike, whichever stages are left. -/
theorem runStages_of_refusals {registry : Registry} {stage other : Stage}
    {rest others : List Stage} {index : Nat} {piped : Option String} {context : Context}
    {machine : Machine} {exitCode : Int} {message twin : String} (hfailed : exitCode ≠ 0)
    (hechoes : Echoes stage.name other.name message twin) (log : List String)
    (hlength : rest.length = others.length)
    (hstage : runStage registry stage index piped context machine =
      ⟨.returned (Outcome.failure exitCode message), context, machine, []⟩)
    (hother : runStage registry other index piped context machine =
      ⟨.returned (Outcome.failure exitCode twin), context, machine, []⟩) :
    RunsAlike (stage :: rest) (other :: others)
      (runStages registry index piped log context machine (stage :: rest))
      (runStages registry index piped log context machine (other :: others)) := by
  have hgather : ∀ text : String, text ≠ "" →
      gather log (Outcome.failure exitCode text) = log ++ [text] := by
    intro text htext
    simp [gather, Outcome.failure, htext]
  have hmessage := hgather message hechoes.ne_empty.1
  have htwin := hgather twin hechoes.ne_empty.2
  have hfirst : (stage, other) ∈ (stage :: rest).zip (other :: others) := List.mem_cons_self ..
  by_cases hrest : rest = []
  · subst hrest
    obtain rfl : others = [] := List.eq_nil_of_length_eq_zero hlength.symm
    rw [runStages_of_last (congrArg Report.ending hstage),
      runStages_of_last (congrArg Report.ending hother), hstage, hother, hmessage, htwin]
    exact ⟨rfl, rfl, rfl, .echo hfirst hechoes hfailed log⟩
  · have hothers : others ≠ [] := by
      rintro rfl
      exact hrest (List.eq_nil_of_length_eq_zero hlength)
    rw [runStages_of_failure (congrArg Report.ending hstage) hrest hfailed,
      runStages_of_failure (congrArg Report.ending hother) hothers hfailed, hstage, hother,
      hmessage, htwin]
    -- the log is not empty, so nothing is added to it
    have hstopped : ∀ text stage, stopped (log ++ [text]) index stage exitCode =
        Outcome.failure exitCode ("\n".intercalate (log ++ [text])) := by
      intro text stage
      simp [stopped]
    refine ⟨rfl, rfl, rfl, ?_⟩
    simp only [Outcome.failure] at hstopped ⊢
    rw [hstopped, hstopped]
    exact .echo hfirst hechoes hfailed log

/-- A stage that comes to the same under both names leaves only the rest of the run to differ, or
the message for a failure without one. -/
theorem runStages_of_same {registry : Registry} {stage other : Stage} {rest others : List Stage}
    {index : Nat} {piped : Option String} {context : Context} {machine : Machine}
    (log : List String) (hlength : rest.length = others.length)
    (hsame : runStage registry other index piped context machine =
      runStage registry stage index piped context machine)
    (hrest : ∀ (index : Nat) (piped : Option String) (log : List String) (context : Context)
      (machine : Machine), RunsAlike rest others
        (runStages registry index piped log context machine rest)
        (runStages registry index piped log context machine others)) :
    RunsAlike (stage :: rest) (other :: others)
      (runStages registry index piped log context machine (stage :: rest))
      (runStages registry index piped log context machine (other :: others)) := by
  cases hending : (runStage registry stage index piped context machine).ending with
  | crashed message =>
      rw [runStages_of_crash hending, runStages_of_crash (by rw [hsame, hending]), hsame]
      exact .refl _ _ _
  | returned outcome =>
      have htwin : (runStage registry other index piped context machine).ending =
          .returned outcome := by rw [hsame, hending]
      by_cases hlast : rest = []
      · subst hlast
        obtain rfl : others = [] := List.eq_nil_of_length_eq_zero hlength.symm
        rw [runStages_of_last hending, runStages_of_last htwin, hsame]
        exact .refl _ _ _
      · have hothers : others ≠ [] := by
          rintro rfl
          exact hlast (List.eq_nil_of_length_eq_zero hlength)
        by_cases hzero : outcome.exitCode = 0
        · rw [runStages_of_success hending hlast hzero,
            runStages_of_success htwin hothers hzero, hsame]
          obtain ⟨hcalls, hcontext, hmachine, hends⟩ := hrest (index + 1) (some outcome.stdout)
            (gather log outcome)
            (runStage registry stage index piped context machine).context
            (runStage registry stage index piped context machine).machine
          exact ⟨by simp only [hcalls], hcontext, hmachine, hends.cons stage other⟩
        · rw [runStages_of_failure hending hlast hzero,
            runStages_of_failure htwin hothers hzero, hsame]
          refine ⟨rfl, rfl, rfl, ?_⟩
          cases hlog : gather log outcome with
          | nil =>
              -- nobody has said anything, so the stage is named
              have hfirst : (stage, other) ∈ (stage :: rest).zip (other :: others) :=
                List.mem_cons_self ..
              simpa [stopped, Nat.add_comm] using
                EndsAlike.echo hfirst (.silent (index + 1)) hzero []
          | cons text log => exact .same _

/-- The stages that are left run alike with their names typed in another case. -/
theorem runStages_respells (registry : Registry) {stages others : List Stage}
    (h : List.Forall₂ Stage.Respells stages others) (index : Nat) (piped : Option String)
    (log : List String) (context : Context) (machine : Machine) :
    RunsAlike stages others (runStages registry index piped log context machine stages)
      (runStages registry index piped log context machine others) := by
  induction h generalizing index piped log context machine with
  | nil => exact .refl _ _ _
  | cons hstage hrest ih =>
      have hlength := hrest.length_eq
      rcases runStage_respells hstage registry index piped context machine with
        hsame | ⟨exitCode, message, twin, hfailed, hechoes, hrefused, htwin⟩
      · exact runStages_of_same log hlength hsame ih
      · exact runStages_of_refusals hfailed hechoes log hlength hrefused htwin

theorem run_respells (registry : Registry) {stages others : List Stage}
    (h : List.Forall₂ Stage.Respells stages others) (context : Context) (machine : Machine) :
    RunsAlike stages others (run registry stages context machine)
      (run registry others context machine) := by
  have hempty : others.isEmpty = stages.isEmpty := by cases h <;> rfl
  simp only [run, hempty, ← h.length_eq]
  split
  · exact .refl _ _ _
  · split
    · exact .refl _ _ _
    · exact runStages_respells registry h 0 context.stdin [] _ machine

/-- Whatever commands are registered: a name finds the last one of those whose names are the same
up to their case, and the registry has one command for each of the names in lower case, in strictly
increasing order.  And whatever the registry and the pipeline: names typed in another case change
nothing but how the names are repeated in a message at the end. -/
theorem caseless (registrations : List Registration) :
    (∀ name, (Registry.ofRegistrations registrations).find? name =
      ((registrations.filter fun registration =>
        Text.SameUpToCase registration.name name).getLast?).map Registration.command) ∧
      Registry.InOrder (Registry.ofRegistrations registrations).commands ∧
      (∀ name, name ∈ (Registry.ofRegistrations registrations).commands.map Command.name ↔
        ∃ registration ∈ registrations, Text.asciiLower registration.name = name) ∧
      ∀ (registry : Registry) (stages others : List Stage) (context : Context)
        (machine : Machine), List.Forall₂ Stage.Respells stages others →
        RunsAlike stages others (run registry stages context machine)
          (run registry others context machine) :=
  ⟨Registry.find?_ofRegistrations registrations, Registry.inOrder_ofRegistrations registrations,
    fun _ => Registry.mem_names_ofRegistrations,
    fun registry _ _ context machine h => run_respells registry h context machine⟩

/-- A command that says which one it is. -/
def speaker (name text : String) : Registration :=
  ⟨name, "", false, false, false, fun _ _ machine => (.returned (Outcome.success text), machine)⟩

/-- A stage without arguments. -/
def bare (name : String) : Stage :=
  ⟨name, [], .inherit, .inherit⟩

/-- A pipeline in capitals over two commands whose names are the same up to their case. -/
theorem caseless_shouted :
    List.Forall₂ Stage.Respells [bare "hail", bare "nobody"] [bare "HAIL", bare "NoBody"] ∧
      (let registry := Registry.ofRegistrations [speaker "Hail" "first", speaker "hAIL" "second"]
        let context : Context := ⟨.standard, [Path.slash], none, .line 0⟩
        RunsAlike [bare "hail", bare "nobody"] [bare "HAIL", bare "NoBody"]
          (run registry [bare "hail", bare "nobody"] context .blank)
          (run registry [bare "HAIL", bare "NoBody"] context .blank)) ∧
      (Registry.ofRegistrations [speaker "Hail" "first", speaker "hAIL" "second"]).find? "HAIL" =
        some (speaker "hAIL" "second").command := by
  have hstages : List.Forall₂ Stage.Respells [bare "hail", bare "nobody"]
      [bare "HAIL", bare "NoBody"] :=
    .cons ⟨by decide, rfl, rfl, rfl⟩ (.cons ⟨by decide, rfl, rfl, rfl⟩ .nil)
  obtain ⟨hfind, -, -, hruns⟩ := caseless [speaker "Hail" "first", speaker "hAIL" "second"]
  refine ⟨hstages, hruns _ _ _ _ _ hstages, (hfind "HAIL").trans ?_⟩
  rfl

end Pipeline

end Conch
