import Conch.Proofs.Builtin.Outcomes
import Conch.Proofs.Pipeline.Alone

/-!
# The stage that decides a pipeline

A pipeline goes on from a stage to the next one after a success only, so one stage decides
what it comes to: the first that fails, or else the last.  `Course` follows a pipeline that
nobody asks to stop through its half stages, with the outcomes of the stages it has finished,
and leaves open what happens to the machine between them.  Over handlers that always answer,
the pipeline comes to the outcome of the stage that decides it, and exit code 127 tells that
no command has the name of that stage.
-/

namespace Conch.Pipeline

/-! ## The outcome of one stage -/

section Stage

variable {registry : Registry} {stage : Line.Stage} {index : Nat} {piped : Option String}
  {context : Context} {machine : Machine} {outcome : Outcome}

/-- A stage whose handler is not called fails, for want of its command or for another reason. -/
theorem classed_of_enter_error (hlive : machine.isFired context.token = false)
    (h : enter registry stage index piped context machine = .error outcome) :
    outcome.Classed (registry.find? stage.name = none) := by
  have hgoes := goes_of_enter_error h
  generalize hreport : (⟨.returned outcome, context, machine, []⟩ : Report) = report at hgoes
  have hother : ∀ {command : Command}, registry.find? stage.name = some command →
      (False ↔ registry.find? stage.name = none) := by
    intro command hknown
    simp [hknown]
  cases hgoes with
  | cancelled hfired =>
      rw [hlive] at hfired
      cases hfired
  | unknown _ hname =>
      obtain rfl := Ending.returned.inj (Report.mk.inj hreport).1
      exact ⟨⟨.inr (.inr rfl), by simp [Outcome.failure]⟩, by simp [Outcome.failure, hname]⟩
  | refused _ hname =>
      obtain rfl := Ending.returned.inj (Report.mk.inj hreport).1
      exact (Outcome.classed_failure (by simp)).congr (hother hname)
  | @unreadable _ file fault hadmits =>
      obtain rfl := Ending.returned.inj (Report.mk.inj hreport).1
      have hrefusal : (inputRefusal file fault).Classed False := by
        cases fault <;> exact Outcome.classed_failure (by simp)
      exact hrefusal.congr (hother hadmits.known)
  | crashed | returned | written | unwritten =>
      exact absurd (Report.mk.inj hreport).2.2.2 (List.cons_ne_nil _ _).symm

/-- A redirection that fails is a failure, and one that succeeds shows in the output only. -/
theorem classed_leave (h : outcome.Classed False) (command : Command) :
    (leave command stage outcome context machine).1.Classed False := by
  unfold leave
  cases stage.outputFile? with
  | none => exact h
  | some file =>
      simp only
      split
      · exact h.withStdout _
      · next fault _ _ => cases fault <;> exact Outcome.classed_failure (by simp)

end Stage

theorem stopped_gather {outcome : Outcome} (h : outcome.stderr ≠ "") (index : Nat)
    (stage : Line.Stage) (exitCode : Int) :
    stopped (gather [] outcome) index stage exitCode =
      Outcome.failure exitCode outcome.stderr := by
  simp [stopped, gather, h]

/-! ## The course of a pipeline -/

/-- The outcome of the stage that a half stage finishes, if it finishes one. -/
def Flight.finishes? (registry : Registry) (flight : Flight) (machine : Machine) :
    Option Outcome :=
  match flight.phase, flight.stages with
  | .entering, stage :: _ =>
      match enter registry stage flight.index flight.piped flight.context machine with
      | .error outcome => some outcome
      | .ok _ => none
  | .leaving command outcome, stage :: _ =>
      some (leave command stage outcome flight.context machine).1
  | _, _ => none

/-- What a pipeline can come to that nobody asks to stop, with the outcomes of the stages it
has finished.  Every half stage finds the machine as others have left it. -/
inductive Course (registry : Registry) (stages : List Line.Stage) (context : Context) :
    List Outcome → Flight → Prop
  | start : Course registry stages context [] (Flight.start stages context)
  | next {outcomes : List Outcome} {flight : Flight}
      (h : Course registry stages context outcomes flight) (machine : Machine)
      (hlive : machine.isFired context.token = false) :
      Course registry stages context
        (outcomes ++ (flight.finishes? registry machine).toList)
        (flight.advance registry machine).1

/-- The stage that decides, with its outcome: all stages before it have succeeded, and it
fails or is the last one. -/
def Decides (stages : List Line.Stage) (outcomes : List Outcome) (stage : Line.Stage)
    (last : Outcome) : Prop :=
  ∃ before behind earlier, stages = before ++ stage :: behind ∧
    outcomes = earlier ++ [last] ∧ earlier.length = before.length ∧
    (∀ outcome ∈ earlier, outcome.exitCode = 0) ∧ (behind = [] ∨ last.exitCode ≠ 0)

/-- What a pipeline comes to, given the outcomes of its stages and those that it has not
finished; the stage that decides it is where it stands then. -/
inductive Judged (registry : Registry) (stages : List Line.Stage) (outcomes : List Outcome)
    (left : List Line.Stage) : Outcome → Prop
  | idle (hnone : stages = []) : Judged registry stages outcomes left Outcome.empty
  | long (hlong : Limits.stages < stages.length) : Judged registry stages outcomes left tooLong
  | decided {stage : Line.Stage} {last outcome : Outcome} (hstands : left.head? = some stage)
      (hdecides : Decides stages outcomes stage last) (hcode : outcome.exitCode = last.exitCode)
      (hclassed : outcome.Classed (registry.find? stage.name = none)) :
      Judged registry stages outcomes left outcome

/-- A pipeline under way: the stages that it has finished have succeeded, without a word. -/
structure Underway (stages : List Line.Stage) (outcomes : List Outcome) (flight : Flight) :
    Prop where
  passed : ∃ before, stages = before ++ flight.stages ∧ outcomes.length = before.length
  succeeded : ∀ outcome ∈ outcomes, outcome.exitCode = 0
  silent : flight.log = []

/-- Where a pipeline stands in its course. -/
inductive Tells (registry : Registry) (stages : List Line.Stage) (outcomes : List Outcome)
    (flight : Flight) : Prop
  | entering (hphase : flight.phase = .entering) (hunderway : Underway stages outcomes flight)
      (hsome : flight.stages ≠ [])
  | leaving {command : Command} {returned : Outcome} {stage : Line.Stage}
      {rest : List Line.Stage} (hphase : flight.phase = .leaving command returned)
      (hunderway : Underway stages outcomes flight) (hstages : flight.stages = stage :: rest)
      (hknown : registry.find? stage.name = some command) (hclassed : returned.Classed False)
  | ended {outcome : Outcome} (hended : flight.ending? = some (.returned outcome))
      (hjudged : Judged registry stages outcomes flight.stages outcome)

section Course

variable {registry : Registry} {stages : List Line.Stage} {outcomes : List Outcome}
  {flight : Flight}

/-- After a stage a pipeline goes on, or comes to its end by the outcome of the stage. -/
theorem Underway.afterStage (h : Underway stages outcomes flight) {stage : Line.Stage}
    {rest : List Line.Stage} (hstages : flight.stages = stage :: rest) {outcome : Outcome}
    (hclassed : outcome.Classed (registry.find? stage.name = none)) :
    Tells registry stages (outcomes ++ [outcome]) (flight.afterStage stage rest outcome) := by
  obtain ⟨before, hline, hlength⟩ := h.passed
  rw [hstages] at hline
  have hdecides : rest = [] ∨ outcome.exitCode ≠ 0 →
      Decides stages (outcomes ++ [outcome]) stage outcome :=
    fun hend => ⟨before, rest, outcomes, hline, rfl, hlength, h.succeeded, hend⟩
  unfold Flight.afterStage
  rw [h.silent]
  by_cases hrest : rest = []
  · subst hrest
    have hjudged : Judged registry stages (outcomes ++ [outcome]) flight.stages outcome :=
      .decided (by simp [hstages]) (hdecides (.inl rfl)) rfl hclassed
    refine .ended ?_ hjudged
    simp [finished_gather, Flight.endAt, Flight.ending?]
  by_cases hzero : outcome.exitCode = 0
  · have hstderr : outcome.stderr = "" := hclassed.silent.mp hzero
    simp only [List.isEmpty_iff, hrest, if_false, Outcome.isSuccess, hzero, decide_true, if_true]
    refine .entering rfl ⟨⟨before ++ [stage], by simp [hline], by simp [hlength]⟩, ?_, ?_⟩ hrest
    · intro other hmem
      rcases List.mem_append.mp hmem with hearlier | hlast
      · exact h.succeeded other hearlier
      · obtain rfl := List.mem_singleton.mp hlast
        exact hzero
    · simp [gather, hstderr]
  · have hstderr : outcome.stderr ≠ "" := fun hempty => hzero (hclassed.silent.mpr hempty)
    have hjudged : Judged registry stages (outcomes ++ [outcome]) flight.stages
        (Outcome.failure outcome.exitCode outcome.stderr) :=
      .decided (by simp [hstages]) (hdecides (.inr hzero)) rfl
        ⟨⟨hclassed.code, hclassed.silent⟩, hclassed.unknown⟩
    simp only [List.isEmpty_iff, hrest, if_false, Outcome.isSuccess, hzero, decide_false,
      Bool.false_eq_true]
    refine .ended ?_ hjudged
    simp [stopped_gather hstderr, Flight.endAt, Flight.ending?]

/-- One half stage, on a machine where the flag of the pipeline is not fired. -/
theorem Tells.advance (hregistry : registry.Answers) (h : Tells registry stages outcomes flight)
    {machine : Machine} (hlive : machine.isFired flight.context.token = false) :
    Tells registry stages (outcomes ++ (flight.finishes? registry machine).toList)
      (flight.advance registry machine).1 := by
  cases h with
  | entering hphase hunderway hsome =>
      obtain ⟨stage, rest, hstages⟩ := List.exists_cons_of_ne_nil hsome
      rw [Flight.advance_of_entering registry machine hphase hstages, Flight.enterStage]
      cases henter : enter registry stage flight.index flight.piped flight.context machine with
      | error outcome =>
          have hfinishes : flight.finishes? registry machine = some outcome := by
            simp only [Flight.finishes?, hphase, hstages, henter]
          rw [hfinishes]
          exact hunderway.afterStage hstages (classed_of_enter_error hlive henter)
      | ok entered =>
          obtain ⟨command, input⟩ := entered
          have hfinishes : flight.finishes? registry machine = none := by
            simp only [Flight.finishes?, hphase, hstages, henter]
          have hknown := (enter_eq_ok_iff.mp henter).1.known
          -- the handler returns, and the stage is still to be left
          obtain ⟨outcome, after, hcall, hclassed⟩ :=
            hregistry command (Registry.mem_of_find? hknown) stage.args
              { flight.context with stdin := input } machine
          simp only [hfinishes, hcall, Option.toList_none, List.append_nil]
          exact .leaving rfl ⟨hunderway.passed, hunderway.succeeded, hunderway.silent⟩ hstages
            hknown hclassed
  | @leaving command returned stage rest hphase hunderway hstages hknown hclassed =>
      have hfinishes : flight.finishes? registry machine =
          some (leave command stage returned flight.context machine).1 := by
        simp only [Flight.finishes?, hphase, hstages]
      have hleft : (leave command stage returned flight.context machine).1.Classed False :=
        classed_leave hclassed command
      have hmissing : False ↔ registry.find? stage.name = none := by simp [hknown]
      rw [Flight.advance_of_leaving registry machine hphase hstages, hfinishes]
      let adopted : Flight :=
        { flight with context := (leave command stage returned flight.context machine).2.1 }
      have hadopted : Underway stages outcomes adopted :=
        ⟨hunderway.passed, hunderway.succeeded, hunderway.silent⟩
      exact hadopted.afterStage hstages (hleft.congr hmissing)
  | @ended outcome hended hjudged =>
      have hfinishes : flight.finishes? registry machine = none := by
        cases hphase : flight.phase with
        | ended => simp only [Flight.finishes?, hphase]
        | entering => simp [Flight.ending?, hphase] at hended
        | leaving => simp [Flight.ending?, hphase] at hended
      rw [Flight.advance_of_ended registry machine hended, hfinishes, Option.toList_none,
        List.append_nil]
      exact .ended hended hjudged

theorem tells_start (stages : List Line.Stage) (context : Context) :
    Tells registry stages [] (Flight.start stages context) := by
  by_cases hnone : stages = []
  · exact .ended (by simp [Flight.start, Flight.ending?, hnone]) (.idle hnone)
  by_cases hlong : Limits.stages < stages.length
  · exact .ended (by simp [Flight.start, Flight.ending?, hnone, hlong]) (.long hlong)
  · exact .entering (by simp [Flight.start, hnone, hlong]) ⟨⟨[], rfl, rfl⟩, by simp, rfl⟩ hnone

/-- Whatever happens beside a pipeline, it tells in its course what the outcomes of its stages
say. -/
theorem Course.tells {context : Context} (hregistry : registry.Answers)
    (h : Course registry stages context outcomes flight) :
    Tells registry stages outcomes flight ∧ flight.context.token = context.token := by
  induction h with
  | start => exact ⟨tells_start stages context, rfl⟩
  | next _ machine hlive ih =>
      obtain ⟨htells, htoken⟩ := ih
      refine ⟨htells.advance hregistry (by rwa [htoken]), ?_⟩
      rw [Flight.advance_token rfl, htoken]

/-- A pipeline that has come to its end has been judged. -/
theorem Course.judged {context : Context} (hregistry : registry.Answers)
    (h : Course registry stages context outcomes flight) {ending : Ending}
    (hended : flight.ending? = some ending) :
    ∃ outcome, ending = .returned outcome ∧
      Judged registry stages outcomes flight.stages outcome := by
  cases (h.tells hregistry).1 with
  | entering hphase => simp [Flight.ending?, hphase] at hended
  | leaving hphase => simp [Flight.ending?, hphase] at hended
  | @ended outcome hreturned hjudged =>
      exact ⟨outcome, Option.some.inj (hended.symm.trans hreturned), hjudged⟩

end Course

/-- Whatever a pipeline is judged to come to, its exit code tells what has happened. -/
theorem Judged.telling {registry : Registry} {stages left : List Line.Stage}
    {outcomes : List Outcome} {outcome : Outcome}
    (h : Judged registry stages outcomes left outcome) : outcome.Telling := by
  cases h with
  | idle => exact (Outcome.classed_success "").toTelling
  | long => exact (Outcome.classed_failure (by simp)).toTelling
  | decided _ _ _ hclassed => exact hclassed.toTelling

end Conch.Pipeline
