import Conch.Proofs.Pipeline.Flight
import Conch.Proofs.Pipeline.Fold
import Mathlib.Data.Nat.Find

/-!
# A pipeline left to itself

Half stage after half stage, with nothing in between, a pipeline in flight comes to the
end that `run` gives, with the same calls and on the same machine, in at most two half
stages for each stage.
-/

namespace Conch.Pipeline.Flight

/-- A pipeline left to itself for some half stages: where it stands then, the machine, and
the calls of handlers. -/
def runFor (registry : Registry) : Nat → Flight → Machine → Flight × Machine × List Call
  | 0, flight, machine => (flight, machine, [])
  | count + 1, flight, machine =>
      let (flight, machine, calls) := runFor registry count flight machine
      let (flight, machine, call) := flight.advance registry machine
      (flight, machine, calls ++ call.toList)

theorem runFor_succ (registry : Registry) (count : Nat) (flight : Flight) (machine : Machine) :
    runFor registry (count + 1) flight machine =
      let before := runFor registry count flight machine
      let result := before.1.advance registry before.2.1
      (result.1, result.2.1, before.2.2 ++ result.2.2.toList) :=
  rfl

theorem runFor_add (registry : Registry) (first later : Nat) (flight : Flight)
    (machine : Machine) :
    runFor registry (first + later) flight machine =
      let before := runFor registry first flight machine
      let result := runFor registry later before.1 before.2.1
      (result.1, result.2.1, before.2.2 ++ result.2.2) := by
  induction later with
  | zero => simp [runFor]
  | succ later ih =>
      rw [← Nat.add_assoc, runFor_succ, ih]
      simp only [runFor_succ, List.append_assoc]

/-- At its end a pipeline stays as it is. -/
theorem runFor_of_ended {flight : Flight} {ending : Ending} (h : flight.ending? = some ending)
    (registry : Registry) (count : Nat) (machine : Machine) :
    runFor registry count flight machine = (flight, machine, []) := by
  induction count with
  | zero => rfl
  | succ count ih => simp [runFor_succ, ih, advance_of_ended registry machine h]

/-- Among the counts after which a pipeline is at its end there is a first one. -/
theorem exists_first_end {registry : Registry} {flight : Flight} {machine : Machine} {count : Nat}
    {ending : Ending} (h : (runFor registry count flight machine).1.ending? = some ending) :
    ∃ first ≤ count,
      (∀ earlier < first, (runFor registry earlier flight machine).1.ending? = none) ∧
      runFor registry first flight machine = runFor registry count flight machine := by
  -- `Nat.find` needs a decidable property, so the ending itself is left open
  have hsome : ∃ n, (runFor registry n flight machine).1.ending?.isSome = true :=
    ⟨count, by rw [h]; rfl⟩
  have hle : Nat.find hsome ≤ count := Nat.find_min' hsome (by rw [h]; rfl)
  refine ⟨Nat.find hsome, hle, fun earlier hearlier => ?_, ?_⟩
  · simpa using Nat.find_min hsome hearlier
  · obtain ⟨later, hcount⟩ := Nat.exists_eq_add_of_le hle
    obtain ⟨found, hfound⟩ := Option.isSome_iff_exists.mp (Nat.find_spec hsome)
    rw [hcount, runFor_add]
    simp only [runFor_of_ended hfound, List.append_nil]

/-- Left to itself, a pipeline comes to the end that a report gives within some half
stages. -/
def EndsAs (registry : Registry) (flight : Flight) (machine : Machine) (limit : Nat)
    (report : Report) : Prop :=
  ∃ count ≤ limit, ∃ last,
    runFor registry count flight machine = (last, report.machine, report.calls) ∧
    last.ending? = some report.ending ∧ last.context = report.context

/-! ## One stage -/

/-- The pipeline after a stage has ended. -/
def settle (flight : Flight) (stage : Line.Stage) (rest : List Line.Stage) : Ending → Flight
  | .crashed message => flight.endAt (.crashed message)
  | .returned outcome => flight.afterStage stage rest outcome

/-- The half stages of a stage do what `runStage` does. -/
theorem runFor_stage (registry : Registry) {flight : Flight} {stage : Line.Stage}
    {rest : List Line.Stage} (machine : Machine) (hphase : flight.phase = .entering)
    (hstages : flight.stages = stage :: rest) :
    ∃ count ≤ 2,
      let report := runStage registry stage flight.index flight.piped flight.context machine
      runFor registry count flight machine =
        ({ flight with context := report.context }.settle stage rest report.ending,
          report.machine, report.calls) := by
  have hfirst := advance_of_entering registry machine hphase hstages
  cases henter : enter registry stage flight.index flight.piped flight.context machine with
  | error outcome =>
      -- No handler is called: there is nothing to leave.
      refine ⟨1, by decide, ?_⟩
      simp [runFor, hfirst, enterStage, henter, runStage, settle]
  | ok entered =>
      obtain ⟨command, input⟩ := entered
      cases hcall : command.handler stage.args { flight.context with stdin := input } machine with
      | mk ending after =>
          cases ending with
          | crashed message =>
              refine ⟨1, by decide, ?_⟩
              simp [runFor, hfirst, enterStage, henter, hcall, runStage, settle]
          | returned outcome =>
              -- The first half calls the handler, and the second disposes of what it returned.
              let called : Flight := { flight with phase := .leaving command outcome }
              have hsecond : called.advance registry after =
                  ((called.leaveStage command outcome stage rest after).1,
                    (called.leaveStage command outcome stage rest after).2, none) :=
                advance_of_leaving registry after rfl hstages
              refine ⟨2, by decide, ?_⟩
              simp only [called] at hsecond
              simp [runFor, hfirst, enterStage, henter, hcall, hsecond, leaveStage, runStage,
                settle, afterStage, endAt]

/-! ## The stages that are left -/

section Stages

variable {registry : Registry} {flight : Flight} {machine : Machine} {report : Report}

/-- What comes before an end is added to it. -/
theorem EndsAs.prepend {between : Flight} {middle : Machine} {calls : List Call}
    {first limit : Nat} (h : EndsAs registry between middle limit report)
    (hrun : runFor registry first flight machine = (between, middle, calls)) :
    EndsAs registry flight machine (first + limit)
      { report with calls := calls ++ report.calls } := by
  obtain ⟨count, hcount, last, hlater, hended, hcontext⟩ := h
  refine ⟨first + count, Nat.add_le_add_left hcount first, last, ?_, hended, hcontext⟩
  rw [runFor_add, hrun]
  simp [hlater]

theorem EndsAs.mono {limit more : Nat} (h : EndsAs registry flight machine limit report)
    (hle : limit ≤ more) : EndsAs registry flight machine more report := by
  obtain ⟨count, hcount, hrest⟩ := h
  exact ⟨count, Nat.le_trans hcount hle, hrest⟩

end Stages

/-- From a stage on, the half stages do what `runStages` does.  The induction is on the
stages that are left. -/
theorem endsAs_runStages (registry : Registry) (stages : List Line.Stage) (hsome : stages ≠ [])
    (index : Nat) (piped : Option String) (log : List String) (context : Context)
    (machine : Machine) :
    EndsAs registry ⟨stages, index, piped, log, context, .entering⟩ machine (2 * stages.length)
      (runStages registry index piped log context machine stages) := by
  induction stages generalizing index piped log context machine with
  | nil => exact absurd rfl hsome
  | cons stage rest ih =>
      have hlimit : 2 * (stage :: rest).length = 2 + 2 * rest.length := by
        rw [List.length_cons]
        omega
      obtain ⟨count, hcount, hstage⟩ := runFor_stage registry machine
        (rfl : (⟨stage :: rest, index, piped, log, context, .entering⟩ : Flight).phase = _) rfl
      simp only at hstage
      cases hending : (runStage registry stage index piped context machine).ending with
      | crashed message =>
          rw [hending] at hstage
          rw [runStages_of_crash hending]
          exact ⟨count, by omega, _, hstage, by rw [hending]; rfl, rfl⟩
      | returned outcome =>
          rw [hending] at hstage
          -- Only a success with stages behind it hands on; all else is the end.
          by_cases hrest : rest = []
          · subst hrest
            rw [runStages_of_last hending]
            exact ⟨count, by omega, _, hstage, rfl, rfl⟩
          by_cases hzero : outcome.exitCode = 0
          · rw [runStages_of_success hending hrest hzero, hlimit]
            refine (EndsAs.prepend (ih hrest _ _ _ _ _) ?_).mono (Nat.add_le_add_right hcount _)
            rw [hstage]
            simp [settle, afterStage, hrest, Outcome.isSuccess, hzero]
          · rw [runStages_of_failure hending hrest hzero]
            refine ⟨count, by omega, _, hstage, ?_, ?_⟩
            · simp [settle, afterStage, hrest, Outcome.isSuccess, hzero, endAt, ending?]
            · simp [settle]

/-- Left to itself, a pipeline does what `run` does, but that it keeps the input that no
stage has taken. -/
theorem runFor_start (registry : Registry) (stages : List Line.Stage) (context : Context)
    (machine : Machine) :
    let report := Pipeline.run registry stages context machine
    ∃ count ≤ 2 * stages.length, ∃ last,
      runFor registry count (start stages context) machine =
        (last, report.machine, report.calls) ∧
      last.ending? = some report.ending ∧
      last.context.directory = report.context.directory := by
  by_cases hsome : stages = []
  · subst hsome
    exact ⟨0, by simp, _, rfl, rfl, rfl⟩
  by_cases hlong : Limits.stages < stages.length
  · have hrun : Pipeline.run registry stages context machine =
        ⟨.returned tooLong, context, machine, []⟩ := by
      simp [Pipeline.run, hsome, hlong]
    rw [hrun]
    exact ⟨0, Nat.zero_le _, start stages context, rfl, by simp [start, hsome, hlong, ending?], rfl⟩
  · have hstart : start stages context =
        ⟨stages, 0, context.stdin, [], { context with stdin := none }, .entering⟩ := by
      simp [start, hsome, hlong]
    have hrun : Pipeline.run registry stages context machine =
        runStages registry 0 context.stdin [] { context with stdin := none } machine stages := by
      simp [Pipeline.run, hsome, hlong]
    obtain ⟨count, hcount, last, hlast, hended, hcontext⟩ :=
      endsAs_runStages registry stages hsome 0 context.stdin [] { context with stdin := none }
        machine
    rw [hstart, hrun]
    exact ⟨count, hcount, last, hlast, hended, by rw [hcontext]⟩

/-- What a whole pipeline does to the job table are operations of the kind that the handlers
keep to. -/
theorem run_operates {registry : Registry} {kind : Job.Table.Op → Prop}
    (hkind : registry.Operates kind) (stages : List Line.Stage) (context : Context)
    (machine : Machine) :
    ∃ ops : List Job.Table.Op, (∀ op ∈ ops, kind op) ∧
      (Pipeline.run registry stages context machine).machine.jobs =
        ops.foldl Job.Table.apply machine.jobs := by
  have hfor : ∀ count flight, ∃ ops : List Job.Table.Op, (∀ op ∈ ops, kind op) ∧
      (runFor registry count flight machine).2.1.jobs =
        ops.foldl Job.Table.apply machine.jobs := by
    intro count flight
    induction count with
    | zero => exact ⟨[], by simp, rfl⟩
    | succ count ih =>
        obtain ⟨ops, hops, hbefore⟩ := ih
        let before := runFor registry count flight machine
        obtain ⟨more, hmore, hafter⟩ :=
          advance_operates hkind (Eq.refl (before.1.advance registry before.2.1))
        refine ⟨ops ++ more, ?_, ?_⟩
        · intro op hop
          exact (List.mem_append.mp hop).elim (hops op) (hmore op)
        · rw [runFor_succ, List.foldl_append, ← hbefore]
          exact hafter
  obtain ⟨count, -, last, hrun, -⟩ := runFor_start registry stages context machine
  obtain ⟨ops, hops, hjobs⟩ := hfor count (start stages context)
  rw [hrun] at hjobs
  exact ⟨ops, hops, hjobs⟩

end Conch.Pipeline.Flight
