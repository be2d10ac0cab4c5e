import Conch.Proofs.Pipeline.Composition
import Conch.Proofs.Pipeline.Flight

/-!
# Pipelines that are asked to stop

A pipeline looks at its flag before a stage begins and before an output is written to a
file.  So a pipeline that is asked to stop before it begins does nothing at all.  One that
is asked to stop while a handler runs leaves the machine as that handler leaves it: it
writes no output and calls no other handler, and it cannot come to a success with stages
left over.  In flight the same holds half stage by half stage.  What the handlers do to
files themselves is not restricted here.
-/

namespace Conch.Pipeline

/-! ## One stage -/

section Stage

variable {registry : Registry} {stage : Line.Stage} {index : Nat} {piped : Option String}
  {context : Context} {machine : Machine}

theorem enter_of_fired (h : machine.isFired context.token = true) :
    enter registry stage index piped context machine = .error (refusal .aborted) := by
  simp [enter, Context.check, Context.isCancelled, h]

theorem writeOutput_of_fired (h : machine.isFired context.token = true) (target output : String)
    (append : Bool) :
    writeOutput context machine target output append = (.error .aborted, machine) := by
  simp [writeOutput, Context.check, Context.isCancelled, h]

/-- A stage that has been asked to stop writes nothing when it is left. -/
theorem leave_of_fired (h : machine.isFired context.token = true) (command : Command)
    (stage : Line.Stage) (outcome : Outcome) :
    ∃ result, leave command stage outcome context machine =
      (result, adoptDirectory command outcome context, machine) := by
  have hadopted : machine.isFired (adoptDirectory command outcome context).token = true := by
    rwa [adoptDirectory_token]
  cases hfile : stage.outputFile? with
  | none => exact ⟨outcome, by simp [leave, hfile]⟩
  | some file =>
      exact ⟨outputRefusal file .aborted, by simp [leave, hfile, writeOutput_of_fired hadopted]⟩

/-- A stage that begins after its pipeline has been asked to stop takes one course only. -/
theorem Goes.of_fired {report : Report}
    (h : Goes registry stage index piped context machine report)
    (hfired : machine.isFired context.token = true) :
    report = ⟨.returned ⟨"", "Operation aborted", 1⟩, context, machine, []⟩ := by
  exact (goes_iff.mp h).symm.trans (goes_iff.mp (Goes.cancelled hfired))

/-- What a stage comes to that is asked to stop while its handler runs: the machine stays
as the handler leaves it, and a crash is passed on. -/
theorem Goes.of_calls_of_fired {report : Report} {command : Command} {input : Option String}
    {ending : Ending} {after : Machine}
    (h : Goes registry stage index piped context machine report)
    (hcalls : Calls registry stage index piped context machine command input ending after)
    (hfired : after.isFired context.token = true) :
    report.machine = after ∧
      ∀ message, ending = .crashed message → report.ending = .crashed message := by
  have henter := enter_eq_ok_iff.mpr ⟨hcalls.admits, hcalls.given⟩
  rw [← goes_iff.mp h]
  cases ending with
  | crashed message => simp [runStage, henter, hcalls.ends]
  | returned outcome =>
      obtain ⟨result, hleave⟩ := leave_of_fired hfired command stage outcome
      simp [runStage, henter, hcalls.ends, hleave]

/-- A stage keeps the flag of its pipeline. -/
theorem Goes.token_eq {report : Report}
    (h : Goes registry stage index piped context machine report) :
    report.context.token = context.token := by
  cases h with
  | cancelled | unknown | refused | unreadable | crashed => rfl
  | returned | written | unwritten => exact adoptDirectory_token _ _ _

end Stage

/-! ## Whole pipelines -/

/-- What a pipeline comes to that is asked to stop while the handler of the turn at `place`
runs, which ends in some way and leaves the machine `after` behind. -/
structure StopsAt (stages : List Line.Stage) (turns : List Turn) (place : Nat) (turn : Turn)
    (ending : Ending) (after : Machine) (report : Report) : Prop where
  /-- The handler has found the machine as the stage before has left it. -/
  kept : ∀ before earlier, before + 1 = place → turns[before]? = some earlier →
    turn.machine = earlier.report.machine
  /-- No handler is called after this one. -/
  calls : report.calls = (turns.take (place + 1)).flatMap (·.report.calls)
  /-- Nothing is written after the handler has ended. -/
  machine : report.machine = after
  crash : ∀ message, ending = .crashed message → report.ending = .crashed message
  /-- A pipeline with stages left over does not succeed. -/
  fails : place + 1 < stages.length → ∀ outcome, report.ending = .returned outcome →
    outcome.exitCode ≠ 0

section Turns

variable {registry : Registry} {stages : List Line.Stage} {index : Nat} {piped : Option String}
  {context : Context} {machine : Machine} {turns : List Turn} {turn last : Turn} {place : Nat}

/-- What a turn hands over to the turn behind it. -/
theorem IsRun.handsOver_at (h : IsRun registry index piped context machine stages turns)
    {later : Turn} (hturn : turns[place]? = some turn) (hlater : turns[place + 1]? = some later) :
    turn.HandsOver later := by
  obtain ⟨hplace, rfl⟩ := List.getElem?_eq_some_iff.mp hturn
  obtain ⟨hnext, rfl⟩ := List.getElem?_eq_some_iff.mp hlater
  exact List.isChain_iff_getElem.mp h.handsOver place hnext

/-- All turns have the flag that the run starts with. -/
theorem IsRun.token_eq (h : IsRun registry index piped context machine stages turns)
    (hturn : turns[place]? = some turn) : turn.context.token = context.token := by
  induction place generalizing turn with
  | zero =>
      rw [(h.starts turn (by rwa [List.head?_eq_getElem?])).2.1]
  | succ place ih =>
      obtain ⟨hplace, -⟩ := List.getElem?_eq_some_iff.mp hturn
      have hbefore : turns[place]? = some turns[place] :=
        List.getElem?_eq_getElem (Nat.lt_of_succ_lt hplace)
      obtain ⟨_, _, _, _, hcontext, _⟩ := h.handsOver_at hbefore hturn
      rw [hcontext, (h.goes place _ hbefore).token_eq, ih hbefore]

/-- If the pipeline is asked to stop while a handler runs, the next turn is the last one and
fails, or there is none. -/
theorem IsRun.after_of_fired (h : IsRun registry index piped context machine stages turns)
    (hturn : turns[place]? = some turn)
    (hfired : turn.report.machine.isFired context.token = true) :
    turns = turns.take (place + 1) ∨
      ∃ final : Turn, turns = turns.take (place + 1) ++ [final] ∧
        final.report =
          ⟨.returned ⟨"", "Operation aborted", 1⟩, final.context, turn.report.machine, []⟩ := by
  rcases Nat.lt_or_ge (place + 1) turns.length with hnext | hnone
  · right
    have hfinal : turns[place + 1]? = some turns[place + 1] := List.getElem?_eq_getElem hnext
    obtain ⟨_, _, _, _, _, hmachine⟩ := h.handsOver_at hturn hfinal
    have hreport := (h.goes _ _ hfinal).of_fired (by rwa [hmachine, h.token_eq hfinal])
    -- a stage that has been asked to stop fails, so it hands nothing over
    have hlength : turns.length ≤ place + 2 := by
      by_contra hmore
      obtain ⟨outcome, hending, hzero, -⟩ :=
        h.handsOver_at hfinal (List.getElem?_eq_getElem (Nat.not_le.mp hmore))
      rw [hreport] at hending
      obtain rfl := Ending.returned.inj hending
      exact absurd hzero (by decide)
    refine ⟨turns[place + 1], ?_, by rw [hreport, hmachine]⟩
    rw [List.take_append_getElem, List.take_of_length_le hlength]
  · exact .inl (List.take_of_length_le hnone).symm

/-- The exit code of a pipeline that returns is that of the last turn. -/
theorem exitCode_of_verdict {log : List String} {total : Nat} {outcome : Outcome}
    (h : verdict log index total turns last = .returned outcome) :
    ∃ result, last.report.ending = .returned result ∧ outcome.exitCode = result.exitCode := by
  cases hending : last.report.ending with
  | crashed message => simp [verdict, hending] at h
  | returned result =>
      refine ⟨result, rfl, ?_⟩
      simp only [verdict, hending] at h
      split at h
      · rw [← Ending.returned.inj h]
        rfl
      · rw [← Ending.returned.inj h]

theorem IsRun.stopsAt
    (h : IsRun registry 0 context.stdin { context with stdin := none } machine stages turns)
    (hcount : stages.length ≤ Limits.stages) (hturn : turns[place]? = some turn)
    {command : Command} {input : Option String} {ending : Ending} {after : Machine}
    (hcalls : Calls registry turn.stage place turn.piped turn.context turn.machine command input
      ending after)
    (hfired : after.isFired context.token = true) :
    StopsAt stages turns place turn ending after (run registry stages context machine) := by
  have hgoes := h.goes_at hturn
  obtain ⟨hmachine, hcrash⟩ := hgoes.of_calls_of_fired hcalls (by rwa [h.token_eq hturn])
  have hkept : ∀ before earlier, before + 1 = place → turns[before]? = some earlier →
      turn.machine = earlier.report.machine := by
    rintro before earlier rfl hbefore
    obtain ⟨_, _, _, _, _, hsame⟩ := h.handsOver_at hbefore hturn
    exact hsame
  have htake : (turns.take (place + 1)).getLast? = some turn := by
    rw [List.take_add_one, hturn, Option.toList_some, List.getLast?_concat]
  rcases h.after_of_fired hturn (by rwa [hmachine]) with hall | ⟨final, hall, hreport⟩
  · -- the turn is the last one, and stages are left over only if it fails
    have hlast : turns.getLast? = some turn := by rwa [← hall] at htake
    have hlength : turns.length ≤ place + 1 := by
      rw [hall]
      exact List.length_take_le _ _
    rw [h.run_eq hlast hcount]
    refine ⟨hkept, by rw [← hall], hmachine, fun message hcrashed =>
      verdict_eq_crashed_iff.mpr (hcrash message hcrashed), fun hleft outcome hending => ?_⟩
    obtain ⟨result, hresult, hcode⟩ := exitCode_of_verdict hending
    rw [hcode]
    exact h.stops turn hlast (Nat.lt_of_le_of_lt hlength hleft) result hresult
  · -- the next stage is the last one to be tried, and does nothing
    have hlast : turns.getLast? = some final := by rw [hall, List.getLast?_concat]
    rw [h.run_eq hlast hcount]
    refine ⟨hkept, ?_, by rw [hreport, hmachine], fun message hcrashed => ?_,
      fun _ outcome hending => ?_⟩
    · conv_lhs => rw [hall]
      simp [hreport]
    · -- a crash would have handed nothing over
      obtain ⟨outcome, hreturned, -⟩ := (List.isChain_append.mp (hall ▸ h.handsOver)).2.2
        turn htake final rfl
      rw [hcrash message hcrashed] at hreturned
      cases hreturned
    · obtain ⟨result, hresult, hcode⟩ := exitCode_of_verdict hending
      rw [hreport] at hresult
      rw [hcode, ← Ending.returned.inj hresult]
      decide

end Turns

/-- A pipeline that is asked to stop before it begins does nothing, whatever the files. -/
theorem run_of_fired (registry : Registry) {stages : List Line.Stage} (hsome : stages ≠ [])
    (hcount : stages.length ≤ Limits.stages) {context : Context} {machine : Machine}
    (hfired : machine.isFired context.token = true) (files : Files.Store) :
    run registry stages context { machine with files := files } =
      ⟨.returned ⟨"", "Operation aborted", 1⟩, { context with stdin := none },
        { machine with files := files }, []⟩ := by
  obtain ⟨stage, rest, rfl⟩ := List.exists_cons_of_ne_nil hsome
  have hstage : runStage registry stage 0 context.stdin { context with stdin := none }
      { machine with files := files } =
        ⟨.returned ⟨"", "Operation aborted", 1⟩, { context with stdin := none },
          { machine with files := files }, []⟩ :=
    (goes_iff.mpr rfl).of_fired hfired
  rw [run_eq_runStages registry hsome hcount]
  by_cases hrest : rest = []
  · subst hrest
    rw [runStages_of_last (by rw [hstage]), hstage]
    rfl
  · rw [runStages_of_failure (by rw [hstage]) hrest (by decide), hstage]
    rfl

/-! ## Half stages -/

namespace Flight

/-- The stages whose handlers have not been called. -/
def untried (flight : Flight) : List Line.Stage :=
  match flight.phase with
  | .entering => flight.stages
  | .leaving .. => flight.stages.tail
  | .ended _ => []

/-- How many half stages a pipeline that has been asked to stop has left, at most. -/
def halvesLeft (flight : Flight) : Nat :=
  match flight.phase with
  | .entering => 1
  | .leaving .. => 2
  | .ended _ => 0

/-- A pipeline that cannot come to a success any more once it has been asked to stop: it has
stages left over, or it has failed. -/
def Fails (flight : Flight) : Prop :=
  flight.untried ≠ [] ∨
    ∃ ending, flight.ending? = some ending ∧
      ∀ outcome, ending = .returned outcome → outcome.exitCode ≠ 0

theorem halvesLeft_eq_zero_iff {flight : Flight} :
    flight.halvesLeft = 0 ↔ ∃ ending, flight.ending? = some ending := by
  cases hphase : flight.phase <;> simp [halvesLeft, ending?, hphase]

theorem halvesLeft_le_two (flight : Flight) : flight.halvesLeft ≤ 2 := by
  cases hphase : flight.phase <;> simp [halvesLeft, hphase]

/-- A pipeline that fails comes to its end with a nonzero exit code. -/
theorem Fails.exitCode_ne_zero {flight : Flight} {outcome : Outcome} (h : flight.Fails)
    (hended : flight.ending? = some (.returned outcome)) : outcome.exitCode ≠ 0 := by
  rcases h with huntried | ⟨ending, hending, hfails⟩
  · cases hphase : flight.phase with
    | entering | leaving => simp [ending?, hphase] at hended
    | ended => simp [untried, hphase] at huntried
  · obtain rfl := Option.some.inj (hending.symm.trans hended)
    exact hfails outcome rfl

/-- After a stage a pipeline is before the next one, or at its end. -/
theorem halvesLeft_afterStage (flight : Flight) (stage : Line.Stage) (rest : List Line.Stage)
    (outcome : Outcome) : (flight.afterStage stage rest outcome).halvesLeft ≤ 1 := by
  simp only [afterStage]
  split
  · exact Nat.zero_le 1
  · split
    · exact Nat.le_refl 1
    · exact Nat.zero_le 1

theorem halvesLeft_afterStage_of_failure (flight : Flight) (stage : Line.Stage)
    (rest : List Line.Stage) {outcome : Outcome} (hfailed : outcome.exitCode ≠ 0) :
    (flight.afterStage stage rest outcome).halvesLeft = 0 := by
  simp only [afterStage, Outcome.isSuccess, hfailed]
  split <;> rfl

/-- A failure, or a stage left over, lets no pipeline come to a success. -/
theorem fails_afterStage (flight : Flight) (stage : Line.Stage) {rest : List Line.Stage}
    {outcome : Outcome} (h : rest ≠ [] ∨ outcome.exitCode ≠ 0) :
    (flight.afterStage stage rest outcome).Fails := by
  by_cases hzero : outcome.exitCode = 0
  · have hrest : rest ≠ [] := h.resolve_right (not_not_intro hzero)
    exact .inl (by simp [afterStage, hrest, Outcome.isSuccess, hzero, untried])
  · refine .inr ?_
    by_cases hrest : rest = []
    · refine ⟨.returned (finished (gather flight.log outcome) outcome),
        by simp [afterStage, hrest, endAt, ending?], ?_⟩
      rintro _ ⟨⟩
      exact hzero
    · refine ⟨.returned (stopped (gather flight.log outcome) flight.index stage outcome.exitCode),
        by simp [afterStage, hrest, Outcome.isSuccess, hzero, endAt, ending?], ?_⟩
      rintro _ ⟨⟩
      exact hzero

/-- A half stage of a pipeline that has been asked to stop leaves the machine as it is and
calls nothing.  It brings the pipeline nearer to its end, and not to a success if stages are
left over. -/
theorem advance_of_fired (registry : Registry) {flight : Flight} {machine : Machine}
    (hfired : machine.isFired flight.context.token = true) :
    ∃ next, flight.advance registry machine = (next, machine, none) ∧
      next.halvesLeft ≤ flight.halvesLeft - 1 ∧ (flight.Fails → next.Fails) := by
  generalize hresult : flight.advance registry machine = result
  cases moves hresult with
  | rests hended =>
      have hzero : flight.halvesLeft = 0 := halvesLeft_eq_zero_iff.mpr ⟨_, hended⟩
      exact ⟨flight, rfl, by rw [hzero], id⟩
  | runsOut hopen hstages =>
      refine ⟨_, rfl, Nat.zero_le _, fun hfails => ?_⟩
      -- without stages, and before its end, there is nothing that could have failed
      rcases hfails with huntried | ⟨ending, hended, -⟩
      · cases hphase : flight.phase <;> simp [untried, hphase, hstages] at huntried
      · rw [hopen] at hended
        cases hended
  | @refused stage rest outcome hphase hstages henter =>
      obtain rfl : refusal .aborted = outcome :=
        Except.error.inj ((enter_of_fired hfired).symm.trans henter)
      have hcode : (refusal .aborted).exitCode ≠ 0 := by decide
      refine ⟨_, rfl, ?_, fun _ => fails_afterStage flight stage (.inr hcode)⟩
      rw [halvesLeft_afterStage_of_failure flight stage rest hcode]
      exact Nat.zero_le _
  | crashed _ _ henter | called _ _ henter =>
      rw [enter_of_fired hfired] at henter
      cases henter
  | @left stage rest command outcome _ context after hphase hstages hleave =>
      obtain ⟨kept, hkept⟩ := leave_of_fired hfired command stage outcome
      obtain ⟨rfl, rfl, rfl⟩ : kept = _ ∧ adoptDirectory command outcome flight.context = context ∧
          machine = after := by simpa using hkept.symm.trans hleave
      refine ⟨_, rfl, ?_, fun hfails => fails_afterStage _ stage (.inl ?_)⟩
      · have htwo : flight.halvesLeft = 2 := by simp [halvesLeft, hphase]
        rw [htwo]
        exact halvesLeft_afterStage _ stage rest kept
      · rcases hfails with huntried | ⟨ending, hended, -⟩
        · simpa only [untried, hphase, hstages, List.tail_cons] using huntried
        · simp [ending?, hphase] at hended

end Flight
end Conch.Pipeline
