import Conch.Proofs.Pipeline.Stage
import Mathlib.Data.List.Chain

/-!
# A pipeline as the fold of its stages

The turns of a run are the stages that were tried, each with what it started from and
what it came to.  `IsRun` says, position by position, which lists of turns are runs: the
stages are taken in order, each turn follows the rules of one stage, hands its output,
context and machine over to the next one, and stages are left over only behind a crash or
a nonzero exit code.  Nothing in it mentions the recursion of `runStages`.

`run_folds` reads everything that a pipeline of a permitted length comes to off its
turns.
-/

namespace Conch.Pipeline

/-- One stage of a run, with what it started from and what it came to. -/
structure Turn where
  stage : Line.Stage
  piped : Option String
  context : Context
  machine : Machine
  report : Report

/-- The error text of a turn; a crash leaves none. -/
def Turn.stderr (turn : Turn) : String :=
  match turn.report.ending with
  | .returned outcome => outcome.stderr
  | .crashed _ => ""

/-- The error texts of turns in order, without the empty ones. -/
def errorTexts (turns : List Turn) : List String :=
  (turns.map Turn.stderr).filter fun text => !text.isEmpty

/-- A turn that succeeds pipes its output to the next one, which starts in the context and
on the machine that the first leaves behind. -/
def Turn.HandsOver (turn later : Turn) : Prop :=
  ∃ outcome, turn.report.ending = .returned outcome ∧ outcome.exitCode = 0 ∧
    later.piped = some outcome.stdout ∧ later.context = turn.report.context ∧
    later.machine = turn.report.machine

/-- The turns of a run of `stages`, the first of which has the index `index`. -/
structure IsRun (registry : Registry) (index : Nat) (piped : Option String) (context : Context)
    (machine : Machine) (stages : List Line.Stage) (turns : List Turn) : Prop where
  /-- The stages tried are the first ones, in order. -/
  inOrder : turns.map Turn.stage = stages.take turns.length
  /-- The first turn starts from what the run starts from. -/
  starts : ∀ turn, turns.head? = some turn →
    turn.piped = piped ∧ turn.context = context ∧ turn.machine = machine
  /-- Every turn follows the rules of one stage. -/
  goes : ∀ i turn, turns[i]? = some turn →
    Goes registry turn.stage (index + i) turn.piped turn.context turn.machine turn.report
  /-- There is a next turn only after a success. -/
  handsOver : turns.IsChain Turn.HandsOver
  /-- Stages are left over only after a failure. -/
  stops : ∀ last, turns.getLast? = some last → turns.length < stages.length →
    ∀ outcome, last.report.ending = .returned outcome → outcome.exitCode ≠ 0

/-- The turns of a whole pipeline have the numbers of their stages. -/
theorem IsRun.goes_at {registry : Registry} {piped : Option String} {context : Context}
    {machine : Machine} {stages : List Line.Stage} {turns : List Turn}
    (h : IsRun registry 0 piped context machine stages turns) {i : Nat} {turn : Turn}
    (hturn : turns[i]? = some turn) :
    Goes registry turn.stage i turn.piped turn.context turn.machine turn.report := by
  have hgoes := h.goes i turn hturn
  rwa [Nat.zero_add] at hgoes

section Building

variable {registry : Registry} {stage : Line.Stage} {rest : List Line.Stage} {index : Nat}
  {piped : Option String} {context : Context} {machine : Machine} {report : Report}

/-- A run that ends with its first turn. -/
theorem IsRun.single
    (hgoes : Goes registry stage index piped context machine report)
    (hstops : rest ≠ [] → ∀ outcome, report.ending = .returned outcome → outcome.exitCode ≠ 0) :
    IsRun registry index piped context machine (stage :: rest)
      [⟨stage, piped, context, machine, report⟩] where
  inOrder := by simp
  starts := by rintro turn ⟨⟩; exact ⟨rfl, rfl, rfl⟩
  goes := by
    intro i turn hturn
    cases i with
    | zero => obtain rfl := Option.some.inj hturn; exact hgoes
    | succ i => simp at hturn
  handsOver := List.isChain_singleton _
  stops := by
    rintro last ⟨⟩ hlength
    exact hstops (by rintro rfl; simp at hlength)

/-- A successful turn before a run. -/
theorem IsRun.cons {outcome : Outcome} {turns : List Turn}
    (hgoes : Goes registry stage index piped context machine report)
    (hending : report.ending = .returned outcome) (hzero : outcome.exitCode = 0)
    (hne : turns ≠ [])
    (h : IsRun registry (index + 1) (some outcome.stdout) report.context report.machine rest
      turns) :
    IsRun registry index piped context machine (stage :: rest)
      (⟨stage, piped, context, machine, report⟩ :: turns) where
  inOrder := by simp [h.inOrder]
  starts := by rintro turn ⟨⟩; exact ⟨rfl, rfl, rfl⟩
  goes := by
    intro i turn hturn
    cases i with
    | zero => obtain rfl := Option.some.inj hturn; exact hgoes
    | succ i =>
        have hlater := h.goes i turn (by simpa using hturn)
        -- the later turns count their stages from `index + 1`
        rwa [Nat.add_right_comm] at hlater
  handsOver := by
    obtain ⟨later, turns, rfl⟩ := List.exists_cons_of_ne_nil hne
    refine List.isChain_cons_cons.mpr ⟨?_, h.handsOver⟩
    exact ⟨outcome, hending, hzero, h.starts later rfl⟩
  stops := by
    intro last hlast hlength
    refine h.stops last ?_ (by simpa using hlength)
    obtain ⟨later, turns, rfl⟩ := List.exists_cons_of_ne_nil hne
    simpa using hlast

end Building

/-- What a run of `total` stages comes to, given its turns and the error texts gathered
before them. -/
def verdict (log : List String) (index total : Nat) (turns : List Turn) (last : Turn) : Ending :=
  let texts := log ++ errorTexts turns
  match last.report.ending with
  | .crashed message => .crashed message
  | .returned outcome =>
      if turns.length < total then
        .returned <| Outcome.failure outcome.exitCode <|
          if texts.isEmpty then
            "Pipeline failed at stage " ++ toString (index + turns.length) ++ ": " ++
              last.stage.name
          else "\n".intercalate texts
      else .returned ⟨outcome.stdout, "\n".intercalate texts, outcome.exitCode⟩

theorem gather_eq_append (log : List String) (turn : Turn) {outcome : Outcome}
    (h : turn.report.ending = .returned outcome) :
    gather log outcome = log ++ errorTexts [turn] := by
  unfold gather
  split
  · next hempty => simp [errorTexts, Turn.stderr, h, hempty]
  · next hsome => simp [errorTexts, Turn.stderr, h, hsome]

theorem errorTexts_cons (turn : Turn) (turns : List Turn) :
    errorTexts (turn :: turns) = errorTexts [turn] ++ errorTexts turns := by
  simp only [errorTexts, List.map_cons, List.map_nil, ← List.filter_append]
  rfl

/-- A first turn shifts the verdict on the later ones. -/
theorem verdict_cons (log : List String) (index total : Nat) (turn : Turn) (turns : List Turn)
    (last : Turn) :
    verdict log index (total + 1) (turn :: turns) last =
      verdict (log ++ errorTexts [turn]) (index + 1) total turns last := by
  have hlength : index + (turns.length + 1) = index + 1 + turns.length := by omega
  simp [verdict, errorTexts_cons turn turns, hlength]

section Running

variable {registry : Registry} {stage : Line.Stage} {rest : List Line.Stage} {index : Nat}
  {piped : Option String} {log : List String} {context : Context} {machine : Machine}
  {outcome : Outcome}

theorem runStages_of_crash {message : String}
    (h : (runStage registry stage index piped context machine).ending = .crashed message) :
    runStages registry index piped log context machine (stage :: rest) =
      runStage registry stage index piped context machine := by
  simp only [runStages, h]

theorem runStages_of_last
    (h : (runStage registry stage index piped context machine).ending = .returned outcome) :
    runStages registry index piped log context machine [stage] =
      { runStage registry stage index piped context machine with
        ending := .returned (finished (gather log outcome) outcome) } := by
  simp [runStages, h]

theorem runStages_of_success
    (h : (runStage registry stage index piped context machine).ending = .returned outcome)
    (hrest : rest ≠ []) (hzero : outcome.exitCode = 0) :
    runStages registry index piped log context machine (stage :: rest) =
      let report := runStage registry stage index piped context machine
      let later := runStages registry (index + 1) (some outcome.stdout) (gather log outcome)
        report.context report.machine rest
      { later with calls := report.calls ++ later.calls } := by
  simp [runStages, h, hrest, Outcome.isSuccess, hzero]

theorem runStages_of_failure
    (h : (runStage registry stage index piped context machine).ending = .returned outcome)
    (hrest : rest ≠ []) (hfailed : outcome.exitCode ≠ 0) :
    runStages registry index piped log context machine (stage :: rest) =
      { runStage registry stage index piped context machine with
        ending := .returned (stopped (gather log outcome) index stage outcome.exitCode) } := by
  simp [runStages, h, hrest, Outcome.isSuccess, hfailed]

end Running

/-- The stages that are left run as their turns say.  The induction is on the stages; what
is piped, the error texts, the context and the machine change from one to the next. -/
theorem runStages_isRun (registry : Registry) (stages : List Line.Stage) (hsome : stages ≠ [])
    (index : Nat) (piped : Option String) (log : List String) (context : Context)
    (machine : Machine) :
    ∃ turns last, turns.getLast? = some last ∧
      IsRun registry index piped context machine stages turns ∧
      runStages registry index piped log context machine stages =
        ⟨verdict log index stages.length turns last, last.report.context, last.report.machine,
          turns.flatMap (·.report.calls)⟩ := by
  induction stages generalizing index piped log context machine with
  | nil => exact absurd rfl hsome
  | cons stage rest ih =>
      let report := runStage registry stage index piped context machine
      let turn : Turn := ⟨stage, piped, context, machine, report⟩
      have hgoes : Goes registry stage index piped context machine report := goes_iff.mpr rfl
      cases hending : report.ending with
      | crashed message =>
          -- A crash leaves stages over without an exit code.
          refine ⟨[turn], turn, rfl, .single hgoes fun _ outcome h => ?_, ?_⟩
          · rw [hending] at h
            cases h
          · have hverdict : verdict log index (rest.length + 1) [turn] turn = report.ending := by
              simp [verdict, turn, hending]
            rw [runStages_of_crash hending, List.length_cons, hverdict]
            simp [turn, report]
      | returned outcome =>
          have hgather : gather log outcome = log ++ errorTexts [turn] :=
            gather_eq_append log turn hending
          -- The last stage decides; before it, success goes on and failure stops.
          by_cases hrest : rest = []
          · subst hrest
            refine ⟨[turn], turn, rfl, .single hgoes fun h => absurd rfl h, ?_⟩
            rw [runStages_of_last hending, hgather]
            simp [verdict, turn, report, hending, finished]
          by_cases hzero : outcome.exitCode = 0
          · obtain ⟨turns, last, hlast, hisRun, hlater⟩ :=
              ih hrest (index + 1) (some outcome.stdout) (gather log outcome) report.context
                report.machine
            have hne : turns ≠ [] := by
              rintro rfl
              cases hlast
            refine ⟨turn :: turns, last, ?_, hisRun.cons hgoes hending hzero hne, ?_⟩
            · rw [List.getLast?_cons, hlast]
              rfl
            · rw [runStages_of_success hending hrest hzero, List.length_cons, verdict_cons,
                ← hgather]
              simp only [report] at hlater
              simp only [hlater]
              rfl
          · refine ⟨[turn], turn, rfl, .single hgoes fun _ other h => ?_, ?_⟩
            · rw [hending] at h
              obtain rfl := Ending.returned.inj h
              exact hzero
            · have hleft : 0 < rest.length := List.length_pos_iff.mpr hrest
              rw [runStages_of_failure hending hrest hzero, hgather]
              simp [verdict, turn, report, hending, stopped, hleft]

/-! ## Whole pipelines -/

/-- A pipeline without an input of its own starts from its context as it is. -/
theorem run_of_silent {registry : Registry} {stage : Line.Stage} {rest : List Line.Stage}
    {context : Context} {machine : Machine} (hstdin : context.stdin = none)
    (hcount : (stage :: rest).length ≤ Limits.stages) :
    run registry (stage :: rest) context machine =
      runStages registry 0 none [] context machine (stage :: rest) := by
  have hcontext : { context with stdin := none } = context := by rw [← hstdin]
  simp only [run, List.isEmpty_cons, Bool.false_eq_true, if_false,
    if_neg (Nat.not_lt.mpr hcount), hstdin, hcontext]

/-- A single error text is gathered as it is. -/
theorem finished_gather (outcome : Outcome) : finished (gather [] outcome) outcome = outcome := by
  unfold gather
  split
  · next hempty =>
      have hstderr : outcome.stderr = "" := by simpa using hempty
      simp [finished, ← hstderr]
  · simp [finished]

/-- A pipeline of one stage comes to what the stage comes to. -/
theorem run_singleton (registry : Registry) (stage : Line.Stage) {context : Context}
    (hstdin : context.stdin = none) (machine : Machine) :
    run registry [stage] context machine = runStage registry stage 0 none context machine := by
  rw [run_of_silent hstdin (by simp [Limits.stages])]
  cases hreport : runStage registry stage 0 none context machine with
  | mk ending final after calls =>
      cases ending with
      | crashed message => simp [runStages, hreport]
      | returned outcome =>
          rw [runStages_of_last (congrArg Report.ending hreport), finished_gather, hreport]

/-- What a pipeline comes to, read off the turns of its run. -/
structure FoldsTo (registry : Registry) (stages : List Line.Stage) (context : Context)
    (machine : Machine) (report : Report) (turns : List Turn) (last : Turn) : Prop where
  /-- The first stage is offered the input of the context, which is used up. -/
  isRun : IsRun registry 0 context.stdin { context with stdin := none } machine stages turns
  isLast : turns.getLast? = some last
  /-- The handlers that ran are those of the turns, one after another. -/
  calls : report.calls = turns.flatMap (·.report.calls)
  /-- Every turn calls at most one handler, with the arguments of its stage. -/
  once : ∀ turn ∈ turns, turn.report.calls = [] ∨
    ∃ command input, registry.find? turn.stage.name = some command ∧
      turn.report.calls = [⟨command.name, turn.stage.args, input⟩]
  /-- The directory and the machine are left as the last turn leaves them. -/
  context : report.context = last.report.context
  machine : report.machine = last.report.machine
  /-- A crash is passed on. -/
  crash : ∀ message, last.report.ending = .crashed message → report.ending = .crashed message
  /-- A stage with a stage behind it stops the pipeline when it fails. -/
  stop : ∀ outcome, last.report.ending = .returned outcome → turns.length < stages.length →
    outcome.exitCode ≠ 0 ∧
      report.ending = .returned
        ⟨"",
          if errorTexts turns = [] then
            "Pipeline failed at stage " ++ toString turns.length ++ ": " ++ last.stage.name
          else "\n".intercalate (errorTexts turns),
          outcome.exitCode⟩
  /-- The last stage decides a pipeline that gets to it. -/
  finish : ∀ outcome, last.report.ending = .returned outcome → turns.length = stages.length →
    report.ending = .returned
      ⟨outcome.stdout, "\n".intercalate (errorTexts turns), outcome.exitCode⟩

/-- A stage calls at most one handler. -/
theorem Goes.calls_once {registry : Registry} {stage : Line.Stage} {index : Nat}
    {piped : Option String} {context : Context} {machine : Machine} {report : Report}
    (h : Goes registry stage index piped context machine report) :
    report.calls = [] ∨
      ∃ command input, registry.find? stage.name = some command ∧
        report.calls = [⟨command.name, stage.args, input⟩] := by
  cases h with
  | cancelled | unknown | refused | unreadable => exact .inl rfl
  | crashed hcalls | returned hcalls | written hcalls | unwritten hcalls =>
      exact .inr ⟨_, _, hcalls.admits.known, rfl⟩

/-- A pipeline of one to fifty stages is the fold of its stages from left to right. -/
theorem run_folds (registry : Registry) (stages : List Line.Stage) (context : Context)
    (machine : Machine) (hsome : stages ≠ []) (hcount : stages.length ≤ Limits.stages) :
    ∃ turns last,
      FoldsTo registry stages context machine (run registry stages context machine) turns last := by
  obtain ⟨turns, last, hlast, hisRun, hrun⟩ :=
    runStages_isRun registry stages hsome 0 context.stdin [] { context with stdin := none } machine
  have hstages : run registry stages context machine =
      runStages registry 0 context.stdin [] { context with stdin := none } machine stages := by
    simp [run, hsome, Nat.not_lt.mpr hcount]
  rw [hstages, hrun]
  refine ⟨turns, last, hisRun, hlast, rfl, ?_, rfl, rfl, ?_, ?_, ?_⟩
  · intro turn hturn
    obtain ⟨i, hi⟩ := List.getElem?_of_mem hturn
    exact (hisRun.goes i turn hi).calls_once
  · intro message hcrashed
    simp [verdict, hcrashed]
  · intro outcome hreturned hleft
    refine ⟨hisRun.stops last hlast hleft outcome hreturned, ?_⟩
    simp [verdict, hreturned, hleft, Outcome.failure]
  · intro outcome hreturned hall
    simp [verdict, hreturned, hall]

/-- Two commands to try pipelines with: `say` answers with its arguments, and `fail` fails
with them. -/
def stubs : Registry :=
  (Registry.empty.register
    (Command.named "say" "Say" fun args _ machine =>
      (.returned (Outcome.success (" ".intercalate args)), machine))).register
    (Command.named "fail" "Fail" fun args _ machine =>
      (.returned ⟨"", " ".intercalate args, 3⟩, machine))

/-- A pipeline that its second stage stops. -/
def stoppedStages : List Line.Stage :=
  [⟨"say", ["a"], .inherit, .inherit⟩, ⟨"fail", ["b"], .piped, .inherit⟩,
    ⟨"say", ["c"], .piped, .inherit⟩]

theorem run_folds_stopped :
    stoppedStages ≠ [] ∧ stoppedStages.length ≤ Limits.stages ∧
      ∃ turns last,
        FoldsTo stubs stoppedStages ⟨.standard, [Path.slash], none, .line 0⟩ Machine.blank
          (run stubs stoppedStages ⟨.standard, [Path.slash], none, .line 0⟩ Machine.blank) turns
          last :=
  ⟨by decide, by decide, run_folds _ _ _ _ (by decide) (by decide)⟩

end Conch.Pipeline
