import Conch.Proofs.Pipeline.Fold

/-!
# Pipelines one behind the other

The turns of a run determine what it comes to.  What stands behind a stage that fails makes
no difference to them, and the turns of two runs join where the first one hands over to the
second.  So running `first ++ later` is running `first` and, if that succeeds, running
`later` on what it leaves; `run_composes` says which texts and which exit code come out.
Nothing is said about pipelines that are too long.
-/

namespace Conch

/-- The stage without the file that it takes its input from. -/
def Line.Stage.withoutFile (stage : Stage) : Stage :=
  match stage.input with
  | .file _ => { stage with input := .inherit }
  | _ => stage

@[simp] theorem Line.Stage.inputFile?_withoutFile (stage : Stage) :
    stage.withoutFile.inputFile? = none := by
  obtain ⟨name, args, input, output⟩ := stage
  cases input <;> rfl

@[simp] theorem Line.Stage.name_withoutFile (stage : Stage) :
    stage.withoutFile.name = stage.name := by
  unfold withoutFile
  split <;> rfl

@[simp] theorem Line.Stage.args_withoutFile (stage : Stage) :
    stage.withoutFile.args = stage.args := by
  unfold withoutFile
  split <;> rfl

@[simp] theorem Line.Stage.output_withoutFile (stage : Stage) :
    stage.withoutFile.output = stage.output := by
  unfold withoutFile
  split <;> rfl

namespace Pipeline

/-- The stages of a pipeline, the first one without its input file. -/
def withoutFile : List Line.Stage → List Line.Stage
  | [] => []
  | stage :: rest => stage.withoutFile :: rest

@[simp] theorem length_withoutFile (stages : List Line.Stage) :
    (withoutFile stages).length = stages.length := by
  cases stages <;> rfl

/-! ## Where a stage stands -/

section Place

variable {registry : Registry} {stage : Line.Stage} {index other : Nat} {piped : Option String}
  {context : Context} {machine : Machine}

/-- A stage is given what is piped to it, unless it is the first one and names a file. -/
theorem stageInput_of_piped (h : index = 0 → stage.inputFile? = none) :
    stageInput stage index piped context machine = .ok piped :=
  stageInput_eq_ok_iff.mpr (.piped h)

/-- Two stages that differ in their input files alone run alike in places where neither of
them reads it. -/
theorem runStage_of_piped {twin : Line.Stage} (hname : twin.name = stage.name)
    (hargs : twin.args = stage.args) (houtput : twin.output = stage.output)
    (hstage : index = 0 → stage.inputFile? = none) (htwin : other = 0 → twin.inputFile? = none) :
    runStage registry twin other piped context machine =
      runStage registry stage index piped context machine := by
  have hfile : twin.outputFile? = stage.outputFile? := by
    simp only [Line.Stage.outputFile?, houtput]
  have happends : twin.appends = stage.appends := by
    simp only [Line.Stage.appends, houtput]
  have hleave : ∀ command outcome machine,
      leave command twin outcome context machine = leave command stage outcome context machine := by
    intro command outcome machine
    simp only [leave, hfile, happends]
  simp only [runStage, enter, stageInput_of_piped hstage, stageInput_of_piped htwin, hname, hargs,
    hleave]

/-- A stage that is not the first one pays no attention to its input file. -/
theorem runStage_withoutFile (hindex : index ≠ 0) :
    runStage registry stage.withoutFile index piped context machine =
      runStage registry stage index piped context machine :=
  runStage_of_piped (by simp) (by simp) (by simp) (fun h => absurd h hindex) (by simp)

end Place

/-- The first stage of a later part may as well name no input file. -/
theorem runStages_append_withoutFile (registry : Registry) (first later : List Line.Stage)
    (index : Nat) (hplace : first = [] → index ≠ 0) (piped : Option String) (log : List String)
    (context : Context) (machine : Machine) :
    runStages registry index piped log context machine (first ++ withoutFile later) =
      runStages registry index piped log context machine (first ++ later) := by
  induction first generalizing index piped log context machine with
  | nil =>
      cases later with
      | nil => rfl
      | cons stage rest =>
          simp only [withoutFile, List.nil_append, runStages, stopped,
            runStage_withoutFile (hplace rfl), Line.Stage.name_withoutFile]
  | cons stage rest ih =>
      have hempty : (rest ++ withoutFile later).isEmpty = (rest ++ later).isEmpty := by
        cases rest <;> cases later <;> rfl
      have hrest : ∀ piped log context machine,
          runStages registry (index + 1) piped log context machine (rest ++ withoutFile later) =
            runStages registry (index + 1) piped log context machine (rest ++ later) :=
        ih (index + 1) fun _ => Nat.succ_ne_zero index
      simp only [List.cons_append, runStages, hempty, hrest]

/-! ## What turns determine -/

section Turns

variable {registry : Registry} {stages later : List Line.Stage} {index : Nat}
  {piped : Option String} {context : Context} {machine : Machine} {turns : List Turn}
  {turn last : Turn}

/-- The turns behind a first one are those of a run of the stages behind. -/
theorem IsRun.tail {stage : Line.Stage} {outcome : Outcome}
    (h : IsRun registry index piped context machine (stage :: stages) (turn :: turns))
    (hne : turns ≠ []) (hending : turn.report.ending = .returned outcome) :
    outcome.exitCode = 0 ∧
      IsRun registry (index + 1) (some outcome.stdout) turn.report.context turn.report.machine
        stages turns := by
  obtain ⟨second, turns, rfl⟩ := List.exists_cons_of_ne_nil hne
  obtain ⟨⟨result, hresult, hzero, hpiped, hcontext, hmachine⟩, hchain⟩ :=
    List.isChain_cons_cons.mp h.handsOver
  obtain rfl := Ending.returned.inj (hending.symm.trans hresult)
  refine ⟨hzero, ?_, ?_, fun i later hlater => ?_, hchain, fun last hlast hlength => ?_⟩
  · exact (List.cons.inj h.inOrder).2
  · rintro later ⟨⟩
    exact ⟨hpiped, hcontext, hmachine⟩
  · have hgoes := h.goes (i + 1) later (by simpa using hlater)
    rwa [← Nat.add_assoc, Nat.add_right_comm] at hgoes
  · exact h.stops last (by simpa using hlast) (by simpa using hlength)

/-- What a run comes to can be read off any turns that are those of a run.  The induction is
on the stages. -/
theorem IsRun.runStages_eq (h : IsRun registry index piped context machine stages turns)
    (hlast : turns.getLast? = some last) (log : List String) :
    runStages registry index piped log context machine stages =
      ⟨verdict log index stages.length turns last, last.report.context, last.report.machine,
        turns.flatMap (·.report.calls)⟩ := by
  induction stages generalizing index piped context machine turns log with
  | nil =>
      obtain ⟨turn, turns, rfl⟩ : ∃ turn later, turns = turn :: later :=
        List.exists_cons_of_ne_nil (by rintro rfl; cases hlast)
      cases h.inOrder
  | cons stage rest ih =>
      obtain ⟨turn, turns, rfl⟩ : ∃ turn later, turns = turn :: later :=
        List.exists_cons_of_ne_nil (by rintro rfl; cases hlast)
      have hstage : turn.stage = stage := (List.cons.inj h.inOrder).1
      have hrun : runStage registry stage index piped context machine = turn.report := by
        have hgoes := goes_iff.mp (h.goes 0 turn rfl)
        obtain ⟨hpiped, hcontext, hmachine⟩ := h.starts turn rfl
        rwa [hstage, hpiped, hcontext, hmachine] at hgoes
      cases hending : turn.report.ending with
      | crashed message =>
          -- nothing is handed over by a crash, so there is no other turn
          obtain rfl : turns = [] := by
            cases turns with
            | nil => rfl
            | cons second turns =>
                obtain ⟨outcome, hreturned, -⟩ := (List.isChain_cons_cons.mp h.handsOver).1
                rw [hending] at hreturned
                cases hreturned
          obtain rfl : turn = last := by simpa using hlast
          have hverdict : verdict log index (rest.length + 1) [turn] turn = turn.report.ending := by
            simp [verdict, hending]
          rw [runStages_of_crash (by rw [hrun, hending]), hrun, List.length_cons, hverdict]
          simp
      | returned outcome =>
          have hreturned : (runStage registry stage index piped context machine).ending =
              .returned outcome := by rw [hrun, hending]
          have hgather : gather log outcome = log ++ errorTexts [turn] :=
            gather_eq_append log turn hending
          by_cases hne : turns = []
          · subst hne
            obtain rfl : turn = last := by simpa using hlast
            by_cases hrest : rest = []
            · subst hrest
              rw [runStages_of_last hreturned, hgather, hrun]
              simp [verdict, hending, finished]
            · have hleft : 0 < rest.length := List.length_pos_iff.mpr hrest
              have hfailed : outcome.exitCode ≠ 0 :=
                h.stops turn rfl (by simpa using hleft) _ hending
              rw [runStages_of_failure hreturned hrest hfailed, hgather, hrun]
              simp [verdict, hending, stopped, hleft, hstage]
          · obtain ⟨hzero, htail⟩ := h.tail hne hending
            have hrest : rest ≠ [] := by
              rintro rfl
              exact hne (by simpa using htail.inOrder)
            have hlater : turns.getLast? = some last := by
              obtain ⟨second, turns, rfl⟩ := List.exists_cons_of_ne_nil hne
              simpa using hlast
            rw [runStages_of_success hreturned hrest hzero, List.length_cons, verdict_cons,
              ← hgather]
            simp only [hrun]
            rw [ih htail hlater (gather log outcome)]
            simp

/-- Turns stay those of a run in any other place, if the first stage takes what is piped. -/
theorem IsRun.reindex (h : IsRun registry index piped context machine stages turns)
    (hfirst : ∀ stage, stages.head? = some stage → stage.inputFile? = none) (other : Nat) :
    IsRun registry other piped context machine stages turns where
  inOrder := h.inOrder
  starts := h.starts
  goes := by
    intro i turn hturn
    have hpiped : ∀ place, place + i = 0 → turn.stage.inputFile? = none := by
      intro place hzero
      obtain rfl : i = 0 := by omega
      cases stages with
      | nil =>
          have horder := h.inOrder
          cases turns with
          | nil => simp at hturn
          | cons => simp at horder
      | cons stage rest =>
          cases turns with
          | nil => simp at hturn
          | cons first later =>
              obtain rfl : first = turn := by simpa using hturn
              rw [(List.cons.inj h.inOrder).1]
              exact hfirst stage rfl
    refine goes_iff.mpr ?_
    rw [← goes_iff.mp (h.goes i turn hturn)]
    exact runStage_of_piped rfl rfl rfl (hpiped index) (hpiped other)
  handsOver := h.handsOver
  stops := h.stops

theorem IsRun.length_le (h : IsRun registry index piped context machine stages turns) :
    turns.length ≤ stages.length := by
  have hcount := congrArg List.length h.inOrder
  simp only [List.length_map, List.length_take] at hcount
  omega

/-- What stands behind stages that do not succeed makes no difference to the turns. -/
theorem IsRun.before (h : IsRun registry index piped context machine stages turns)
    (hlast : turns.getLast? = some last)
    (hfails : ∀ outcome, last.report.ending = .returned outcome → outcome.exitCode ≠ 0)
    (later : List Line.Stage) :
    IsRun registry index piped context machine (stages ++ later) turns where
  inOrder := by
    rw [List.take_append_of_le_length h.length_le]
    exact h.inOrder
  starts := h.starts
  goes := h.goes
  handsOver := h.handsOver
  stops := by
    intro other hother _
    obtain rfl := Option.some.inj (hlast.symm.trans hother)
    exact hfails

/-- The turns of two runs join where the first one has come to its end with a success. -/
theorem IsRun.append {outcome : Outcome} {more : List Turn}
    (h : IsRun registry index piped context machine stages turns)
    (hlast : turns.getLast? = some last) (hall : turns.length = stages.length)
    (hending : last.report.ending = .returned outcome) (hzero : outcome.exitCode = 0)
    (hlater : IsRun registry (index + stages.length) (some outcome.stdout) last.report.context
      last.report.machine later more) (hmore : more ≠ []) :
    IsRun registry index piped context machine (stages ++ later) (turns ++ more) where
  inOrder := by
    rw [List.map_append, h.inOrder, hlater.inOrder, hall, List.take_length, List.length_append,
      hall, List.take_length_add_append]
  starts := by
    intro turn hturn
    refine h.starts turn ?_
    obtain ⟨first, rest, rfl⟩ := List.exists_cons_of_ne_nil
      (show turns ≠ [] by rintro rfl; cases hlast)
    simpa using hturn
  goes := by
    intro i turn hturn
    rcases Nat.lt_or_ge i turns.length with hi | hi
    · rw [List.getElem?_append_left hi] at hturn
      exact h.goes i turn hturn
    · rw [List.getElem?_append_right hi] at hturn
      have hplace : index + stages.length + (i - turns.length) = index + i := by omega
      rw [← hplace]
      exact hlater.goes _ turn hturn
  handsOver := by
    refine List.isChain_append.mpr ⟨h.handsOver, hlater.handsOver, ?_⟩
    intro earlier hearlier turn hturn
    obtain rfl := Option.some.inj (hlast.symm.trans hearlier)
    exact ⟨outcome, hending, hzero, hlater.starts turn hturn⟩
  stops := by
    intro final hfinal hlength
    refine hlater.stops final ?_ (by simp at hlength; omega)
    rw [List.getLast?_append] at hfinal
    rwa [List.getLast?_eq_some_getLast hmore, Option.some_or,
      ← List.getLast?_eq_some_getLast hmore] at hfinal

end Turns

/-! ## Error texts -/

/-- Texts on lines of their own, without the empty ones. -/
def joined (texts : List String) : String :=
  "\n".intercalate (texts.filter fun text => !text.isEmpty)

theorem ne_empty_of_mem_errorTexts {turns : List Turn} {text : String}
    (h : text ∈ errorTexts turns) : text ≠ "" := by
  simpa using (List.mem_filter.mp h).2

theorem errorTexts_append (turns more : List Turn) :
    errorTexts (turns ++ more) = errorTexts turns ++ errorTexts more := by
  simp only [errorTexts, List.map_append, List.filter_append]

/-- Of texts that are not empty only none at all join to nothing. -/
theorem intercalate_eq_empty_iff {texts : List String} (h : ∀ text ∈ texts, text ≠ "") :
    "\n".intercalate texts = "" ↔ texts = [] := by
  cases texts with
  | nil => simp
  | cons text rest =>
      have htext : text ≠ "" := h text (List.mem_cons_self ..)
      by_cases hrest : rest = []
      · simp [hrest, htext]
      · simp [String.intercalate_cons_of_ne_nil hrest, htext]

/-- Joining in two parts is joining at once. -/
theorem joined_intercalate {texts more : List String} (htexts : ∀ text ∈ texts, text ≠ "")
    (hmore : ∀ text ∈ more, text ≠ "") :
    joined ["\n".intercalate texts, "\n".intercalate more] = "\n".intercalate (texts ++ more) := by
  by_cases hnone : texts = []
  · subst hnone
    by_cases hnil : more = []
    · simp [joined, hnil]
    · have hsome : "\n".intercalate more ≠ "" := fun h =>
        hnil ((intercalate_eq_empty_iff hmore).mp h)
      simp [joined, hsome]
  · have hsome : "\n".intercalate texts ≠ "" := fun h =>
      hnone ((intercalate_eq_empty_iff htexts).mp h)
    by_cases hnil : more = []
    · simp [joined, hnil, hsome]
    · have hother : "\n".intercalate more ≠ "" := fun h =>
        hnil ((intercalate_eq_empty_iff hmore).mp h)
      rw [String.intercalate_append_of_ne_nil hnone hnil]
      simp [joined, hsome, hother, String.intercalate_cons_cons]

/-! ## Whole pipelines -/

section Parts

variable {registry : Registry} {first later : List Line.Stage} {context : Context}
  {machine : Machine} {turns : List Turn} {last : Turn}

theorem run_eq_runStages (registry : Registry) {stages : List Line.Stage} (hsome : stages ≠ [])
    (hcount : stages.length ≤ Limits.stages) (context : Context) (machine : Machine) :
    run registry stages context machine =
      runStages registry 0 context.stdin [] { context with stdin := none } machine stages := by
  simp [run, hsome, Nat.not_lt.mpr hcount]

/-- Every pipeline has turns. -/
theorem exists_isRun (registry : Registry) {stages : List Line.Stage} (hsome : stages ≠ [])
    (context : Context) (machine : Machine) :
    ∃ turns last, turns.getLast? = some last ∧
      IsRun registry 0 context.stdin { context with stdin := none } machine stages turns := by
  obtain ⟨turns, last, hlast, hturns, -⟩ := runStages_isRun registry stages hsome 0 context.stdin
    [] { context with stdin := none } machine
  exact ⟨turns, last, hlast, hturns⟩

/-- What a pipeline comes to, read off its turns. -/
theorem IsRun.run_eq {stages : List Line.Stage}
    (h : IsRun registry 0 context.stdin { context with stdin := none } machine stages turns)
    (hlast : turns.getLast? = some last) (hcount : stages.length ≤ Limits.stages) :
    run registry stages context machine =
      ⟨verdict [] 0 stages.length turns last, last.report.context, last.report.machine,
        turns.flatMap (·.report.calls)⟩ := by
  have hsome : stages ≠ [] := by
    rintro rfl
    obtain rfl : turns = [] := by simpa using h.inOrder
    cases hlast
  rw [run_eq_runStages registry hsome hcount, h.runStages_eq hlast]

/-- No stage brings back the input of the context. -/
theorem runStages_stdin (registry : Registry) (stages : List Line.Stage) (index : Nat)
    (piped : Option String) (log : List String) (context : Context) (machine : Machine) :
    (runStages registry index piped log context machine stages).context.stdin = context.stdin := by
  induction stages generalizing index piped log context machine with
  | nil => rfl
  | cons stage rest ih =>
      have hstage : (runStage registry stage index piped context machine).context.stdin =
          context.stdin := by
        have hadopt : ∀ command outcome,
            (adoptDirectory command outcome context).stdin = context.stdin := by
          intro command outcome
          unfold adoptDirectory
          split <;> rfl
        generalize hreport : runStage registry stage index piped context machine = report
        cases goes_iff.mpr hreport with
        | cancelled | unknown | refused | unreadable | crashed => rfl
        | returned | written | unwritten => exact hadopt _ _
      simp only [runStages]
      split
      · exact hstage
      · split
        · exact hstage
        · split
          · rw [ih]
            exact hstage
          · exact hstage

/-- A run whose verdict is a success has come to its end, and its last turn has succeeded. -/
theorem IsRun.of_success {index : Nat} {piped : Option String} {log : List String}
    {stages : List Line.Stage} {outcome : Outcome}
    (h : IsRun registry index piped context machine stages turns)
    (hlast : turns.getLast? = some last)
    (hverdict : verdict log index stages.length turns last = .returned outcome)
    (hzero : outcome.exitCode = 0) :
    turns.length = stages.length ∧
      ∃ result, last.report.ending = .returned result ∧ result.exitCode = 0 ∧
        outcome = ⟨result.stdout, "\n".intercalate (log ++ errorTexts turns), 0⟩ := by
  cases hending : last.report.ending with
  | crashed message => simp [verdict, hending] at hverdict
  | returned result =>
      simp only [verdict, hending] at hverdict
      split at hverdict
      · next hleft =>
          obtain rfl := Ending.returned.inj hverdict
          exact absurd hzero (h.stops last hlast hleft result hending)
      · next hall =>
          obtain rfl := Ending.returned.inj hverdict
          have hresult : result.exitCode = 0 := hzero
          exact ⟨Nat.le_antisymm h.length_le (Nat.not_lt.mp hall), result, rfl, hresult,
            by rw [hresult]⟩

/-- A stage before the last one stops the pipeline, and no stage has had an error text. -/
def AbortsSilently (registry : Registry) (stages : List Line.Stage) (context : Context)
    (machine : Machine) : Prop :=
  ∃ turns, turns ≠ [] ∧
    IsRun registry 0 context.stdin { context with stdin := none } machine stages turns ∧
    turns.length < stages.length ∧ errorTexts turns = []

/-- A pipeline has turns that show whether it aborts silently. -/
theorem exists_turns (registry : Registry) {stages : List Line.Stage} (hsome : stages ≠ [])
    (context : Context) (machine : Machine) :
    ∃ turns last, turns.getLast? = some last ∧
      IsRun registry 0 context.stdin { context with stdin := none } machine stages turns ∧
      (AbortsSilently registry stages context machine ↔
        turns.length < stages.length ∧ errorTexts turns = []) := by
  by_cases hsilent : AbortsSilently registry stages context machine
  · obtain ⟨turns, hne, hturns, habort⟩ := id hsilent
    exact ⟨turns, _, List.getLast?_eq_some_getLast hne, hturns, iff_of_true hsilent habort⟩
  · obtain ⟨turns, last, hlast, hturns⟩ := exists_isRun registry hsome context machine
    have hne : turns ≠ [] := by
      rintro rfl
      cases hlast
    exact ⟨turns, last, hlast, hturns,
      iff_of_false hsilent fun habort => hsilent ⟨turns, hne, hturns, habort⟩⟩

/-- What the later part of a pipeline comes to when it is run by itself, with the output of
the first part as the input of the context that the first part leaves. -/
def continued (registry : Registry) (later : List Line.Stage) (before : Report)
    (outcome : Outcome) : Report :=
  run registry (withoutFile later) { before.context with stdin := some outcome.stdout }
    before.machine

/-- The whole of a pipeline whose first part has succeeded. -/
structure GoesOn (registry : Registry) (later : List Line.Stage) (before : Report)
    (outcome : Outcome) (whole : Report) : Prop where
  /-- The handlers of the first part are called, and then those of the later part. -/
  calls : whole.calls = before.calls ++ (continued registry later before outcome).calls
  context : whole.context = (continued registry later before outcome).context
  machine : whole.machine = (continued registry later before outcome).machine
  crash : ∀ message, (continued registry later before outcome).ending = .crashed message →
    whole.ending = .crashed message
  /-- The error texts are those of both parts, unless the later part has none to show but the
  place of the stage that stopped it. -/
  returned : ∀ result, (continued registry later before outcome).ending = .returned result →
    ∃ stderr, whole.ending = .returned ⟨result.stdout, stderr, result.exitCode⟩ ∧
      (¬ AbortsSilently registry (withoutFile later)
          { before.context with stdin := some outcome.stdout } before.machine →
        stderr = joined [outcome.stderr, result.stderr]) ∧
      (AbortsSilently registry (withoutFile later)
          { before.context with stdin := some outcome.stdout } before.machine →
        outcome.stderr ≠ "" → stderr = outcome.stderr)

/-- The whole of a pipeline whose first part has failed. -/
structure BreaksOff (before : Report) (outcome : Outcome) (whole : Report) : Prop where
  /-- No handler of the later part is called. -/
  calls : whole.calls = before.calls
  context : whole.context = before.context
  machine : whole.machine = before.machine
  ending : ∃ stderr, whole.ending = .returned ⟨"", stderr, outcome.exitCode⟩ ∧
    (outcome.stderr ≠ "" → stderr = outcome.stderr)

theorem verdict_eq_crashed_iff {log : List String} {index total : Nat} {message : String} :
    verdict log index total turns last = .crashed message ↔
      last.report.ending = .crashed message := by
  cases hending : last.report.ending with
  | crashed other => simp [verdict, hending]
  | returned outcome =>
      simp only [verdict, hending]
      split <;> simp

/-- Turns that have come to the end of a first part shift the verdict on later ones. -/
theorem verdict_append {count : Nat} (hall : turns.length = count) (total : Nat)
    (more : List Turn) (final : Turn) :
    verdict [] 0 (count + total) (turns ++ more) final =
      verdict (errorTexts turns) count total more final := by
  subst hall
  simp [verdict, errorTexts_append]

/-- How the verdict on some turns is changed by error texts from before. -/
theorem verdict_of_log {log : List String} (hlog : ∀ text ∈ log, text ≠ "") (count total : Nat)
    {more : List Turn} {final : Turn} {result : Outcome}
    (h : verdict [] 0 total more final = .returned result) :
    ∃ stderr, verdict log count total more final =
        .returned ⟨result.stdout, stderr, result.exitCode⟩ ∧
      (¬ (more.length < total ∧ errorTexts more = []) →
        stderr = joined ["\n".intercalate log, result.stderr]) ∧
      (errorTexts more = [] → "\n".intercalate log ≠ "" → stderr = "\n".intercalate log) := by
  have hmore : ∀ text ∈ errorTexts more, text ≠ "" := fun text => ne_empty_of_mem_errorTexts
  cases hending : final.report.ending with
  | crashed message => simp [verdict, hending] at h
  | returned outcome =>
      simp only [verdict, hending] at h ⊢
      by_cases hleft : more.length < total
      · simp only [hleft, if_true] at h ⊢
        obtain rfl := Ending.returned.inj h
        refine ⟨_, rfl, fun hloud => ?_, fun hsilent hsome => ?_⟩
        · have hsome : errorTexts more ≠ [] := fun hnone => hloud ⟨trivial, hnone⟩
          simp [Outcome.failure, hsome, joined_intercalate hlog hmore]
        · have hne : log ≠ [] := by
            rintro rfl
            exact hsome rfl
          simp [hsilent, hne]
      · simp only [hleft, if_false] at h ⊢
        obtain rfl := Ending.returned.inj h
        refine ⟨_, rfl, fun _ => ?_, fun hsilent _ => ?_⟩
        · rw [List.nil_append, joined_intercalate hlog hmore]
        · rw [hsilent, List.append_nil]

/-- The whole of a pipeline, read off the turns of a first part that succeeds and of a later
part that goes on from there. -/
theorem IsRun.run_append {result : Outcome} {more : List Turn} {final : Turn}
    (h : IsRun registry 0 context.stdin { context with stdin := none } machine first turns)
    (hlast : turns.getLast? = some last) (hall : turns.length = first.length)
    (hresult : last.report.ending = .returned result) (hzero : result.exitCode = 0)
    (hmore : IsRun registry 0 (some result.stdout) last.report.context last.report.machine
      (withoutFile later) more)
    (hfinal : more.getLast? = some final)
    (hcount : first.length + later.length ≤ Limits.stages) :
    run registry (first ++ later) context machine =
      ⟨verdict (errorTexts turns) first.length later.length more final, final.report.context,
        final.report.machine, (turns ++ more).flatMap (·.report.calls)⟩ := by
  have hfirst : first ≠ [] := by
    rintro rfl
    obtain rfl : turns = [] := by simpa using hall
    cases hlast
  have hnames : ∀ stage, (withoutFile later).head? = some stage → stage.inputFile? = none := by
    intro stage hstage
    cases later with
    | nil => cases hstage
    | cons head rest =>
        obtain rfl : head.withoutFile = stage := by simpa [withoutFile] using hstage
        exact Line.Stage.inputFile?_withoutFile head
  have hne : more ≠ [] := by
    rintro rfl
    cases hfinal
  have hjoined := h.append hlast hall hresult hzero (hmore.reindex hnames (0 + first.length)) hne
  have hlastOfAll : (turns ++ more).getLast? = some final := by
    rw [List.getLast?_append, hfinal, Option.some_or]
  rw [run_eq_runStages registry (by simp [hfirst]) (by rw [List.length_append]; omega),
    ← runStages_append_withoutFile registry first later 0 (fun h => absurd h hfirst),
    hjoined.runStages_eq hlastOfAll, List.length_append, length_withoutFile, verdict_append hall]

theorem goesOn_of_success (hfirst : first ≠ []) (hlater : later ≠ [])
    (hcount : first.length + later.length ≤ Limits.stages) {outcome : Outcome}
    (hending : (run registry first context machine).ending = .returned outcome)
    (hzero : outcome.exitCode = 0) :
    GoesOn registry later (run registry first context machine) outcome
      (run registry (first ++ later) context machine) := by
  obtain ⟨turns, last, hlast, hturns⟩ := exists_isRun registry hfirst context machine
  have hbefore := hturns.run_eq hlast (by omega)
  have hstdin : last.report.context.stdin = none := by
    have h := runStages_stdin registry first 0 context.stdin [] { context with stdin := none }
      machine
    rwa [hturns.runStages_eq hlast []] at h
  rw [hbefore] at hending ⊢
  obtain ⟨hall, result, hresult, hresultZero, rfl⟩ := hturns.of_success hlast hending hzero
  let handed : Context := { last.report.context with stdin := some result.stdout }
  -- without the input that it takes, the later part starts in the context of the last turn
  have hcontext : { handed with stdin := none } = last.report.context := by
    simp only [handed, ← hstdin]
  have hsome : withoutFile later ≠ [] := by
    rw [← List.length_pos_iff, length_withoutFile]
    exact List.length_pos_iff.mpr hlater
  obtain ⟨more, final, hfinal, hmore, hsilent⟩ :=
    exists_turns registry hsome handed last.report.machine
  have hcontinued : run registry (withoutFile later) handed last.report.machine =
      ⟨verdict [] 0 later.length more final, final.report.context, final.report.machine,
        more.flatMap (·.report.calls)⟩ := by
    rw [hmore.run_eq hfinal (by rw [length_withoutFile]; omega), length_withoutFile]
  rw [hcontext] at hmore
  rw [length_withoutFile] at hsilent
  rw [hturns.run_append hlast hall hresult hresultZero hmore hfinal hcount]
  constructor <;> simp only [continued] <;> rw [hcontinued]
  · exact List.flatMap_append
  · intro message hcrashed
    exact verdict_eq_crashed_iff.mpr (verdict_eq_crashed_iff.mp hcrashed)
  · intro answer hreturned
    obtain ⟨stderr, hverdict, hloud, hquiet⟩ := verdict_of_log
      (fun text => ne_empty_of_mem_errorTexts) first.length later.length hreturned
    refine ⟨stderr, hverdict, fun h => ?_, fun h => ?_⟩
    · exact hloud (mt hsilent.mpr h)
    · exact hquiet (hsilent.mp h).2

/-- The turns of a first part that does not succeed are those of the whole. -/
theorem run_of_failure (hfirst : first ≠ [])
    (hcount : first.length + later.length ≤ Limits.stages)
    (hfails : ∀ outcome, (run registry first context machine).ending = .returned outcome →
      outcome.exitCode ≠ 0) :
    ∃ turns last, turns.length ≤ first.length ∧
      run registry first context machine =
        ⟨verdict [] 0 first.length turns last, last.report.context, last.report.machine,
          turns.flatMap (·.report.calls)⟩ ∧
      run registry (first ++ later) context machine =
        ⟨verdict [] 0 (first.length + later.length) turns last, last.report.context,
          last.report.machine, turns.flatMap (·.report.calls)⟩ := by
  obtain ⟨turns, last, hlast, hturns⟩ := exists_isRun registry hfirst context machine
  have hbefore := hturns.run_eq hlast (by omega)
  have hlastFails : ∀ outcome, last.report.ending = .returned outcome → outcome.exitCode ≠ 0 := by
    intro outcome hreturned
    rw [hbefore] at hfails
    -- the verdict keeps the exit code, wherever the run has stopped
    by_cases hleft : turns.length < first.length
    · exact hturns.stops last hlast hleft outcome hreturned
    · refine hfails ⟨outcome.stdout, "\n".intercalate (errorTexts turns), outcome.exitCode⟩ ?_
      simp [verdict, hreturned, hleft]
  refine ⟨turns, last, hturns.length_le, hbefore, ?_⟩
  rw [(hturns.before hlast hlastFails later).run_eq hlast (by rw [List.length_append]; omega),
    List.length_append]

theorem breaksOff_of_failure (hfirst : first ≠ []) (hlater : later ≠ [])
    (hcount : first.length + later.length ≤ Limits.stages) {outcome : Outcome}
    (hending : (run registry first context machine).ending = .returned outcome)
    (hfailed : outcome.exitCode ≠ 0) :
    BreaksOff (run registry first context machine) outcome
      (run registry (first ++ later) context machine) := by
  obtain ⟨turns, last, hlength, hbefore, hwhole⟩ := run_of_failure hfirst hcount (by
    intro other hother
    obtain rfl := Ending.returned.inj (hending.symm.trans hother)
    exact hfailed)
  have hleft : turns.length < first.length + later.length :=
    Nat.lt_of_le_of_lt hlength (Nat.lt_add_of_pos_right (List.length_pos_iff.mpr hlater))
  rw [hbefore] at hending ⊢
  rw [hwhole]
  refine ⟨rfl, rfl, rfl, ?_⟩
  cases hreturned : last.report.ending with
  | crashed message => simp [verdict, hreturned] at hending
  | returned result =>
      simp only [verdict, hreturned] at hending
      simp only [verdict, hreturned, hleft, if_true]
      split at hending
      · obtain rfl := Ending.returned.inj hending
        exact ⟨_, rfl, fun _ => rfl⟩
      · obtain rfl := Ending.returned.inj hending
        refine ⟨_, rfl, fun hsome => ?_⟩
        have htexts : ¬ errorTexts turns = [] := by
          intro hnone
          exact hsome (by simp [hnone])
        simp [htexts]

end Parts

/-- Running two pipelines as one is running the first and then, on what it leaves and with
its output for input, the second.  If the first does not succeed, nothing of the second is
run. -/
theorem run_composes (registry : Registry) (first later : List Line.Stage) (context : Context)
    (machine : Machine) (hfirst : first ≠ []) (hlater : later ≠ [])
    (hcount : first.length + later.length ≤ Limits.stages) :
    let before := run registry first context machine
    let whole := run registry (first ++ later) context machine
    (∀ outcome, before.ending = .returned outcome → outcome.exitCode = 0 →
      GoesOn registry later before outcome whole) ∧
    (∀ outcome, before.ending = .returned outcome → outcome.exitCode ≠ 0 →
      BreaksOff before outcome whole) ∧
    (∀ message, before.ending = .crashed message → whole = before) := by
  refine ⟨fun outcome hending hzero => goesOn_of_success hfirst hlater hcount hending hzero,
    fun outcome hending hfailed => breaksOff_of_failure hfirst hlater hcount hending hfailed,
    fun message hcrashed => ?_⟩
  have hfails : ∀ outcome, (run registry first context machine).ending = .returned outcome →
      outcome.exitCode ≠ 0 := by
    intro outcome hreturned
    rw [hcrashed] at hreturned
    cases hreturned
  obtain ⟨turns, last, -, hbefore, hwhole⟩ := run_of_failure hfirst hcount hfails
  rw [hbefore] at hcrashed ⊢
  rw [hwhole]
  have hlast := verdict_eq_crashed_iff.mp hcrashed
  rw [verdict_eq_crashed_iff.mpr hlast, verdict_eq_crashed_iff.mpr hlast]

/-- A part that succeeds. -/
def firstStages : List Line.Stage :=
  [⟨"say", ["a"], .inherit, .inherit⟩, ⟨"say", ["b"], .piped, .inherit⟩]

/-- A part that names an input file and that its first stage stops without a text. -/
def laterStages : List Line.Stage :=
  [⟨"fail", [], .file "notes", .inherit⟩, ⟨"say", ["c"], .piped, .inherit⟩]

theorem run_composes_silent :
    let context : Context := ⟨.standard, [Path.slash], none, .line 0⟩
    let before := run stubs firstStages context Machine.blank
    firstStages ≠ [] ∧ laterStages ≠ [] ∧
      firstStages.length + laterStages.length ≤ Limits.stages ∧
      before.ending = .returned ⟨"b", "", 0⟩ ∧
      GoesOn stubs laterStages before ⟨"b", "", 0⟩
        (run stubs (firstStages ++ laterStages) context Machine.blank) := by
  intro context before
  have hending : before.ending = .returned ⟨"b", "", 0⟩ := by decide
  exact ⟨by decide, by decide, by decide, hending,
    (run_composes stubs firstStages laterStages context Machine.blank (by decide) (by decide)
      (by decide)).1 _ hending rfl⟩

end Pipeline
end Conch
