import Conch.Proofs.Pipeline.Writing
import Conch.Proofs.Program.Serving
import Conch.Proofs.Session.Directory
import Conch.Proofs.Session.Foreground

/-!
# What fails leaves the session as it was

A request can fail at six places: its text, its channel, its payload, the reading of its line,
the number of its stages, and a handler that crashes.  At the first four the session does not
change at all.  A line with too many stages is counted, and nothing else happens.  A handler that
crashes may have changed the machine before, and so may the stages before it; but the session
itself neither moves nor starts a job.
-/

namespace Conch

namespace Pipeline

/-! ## A crash in a run -/

section Crash

variable {registry : Registry} {index : Nat} {piped : Option String} {context : Context}
  {machine : Machine} {stages : List Line.Stage} {turns : List Turn}

/-- The handler that is called in a turn crashes. -/
def Turn.CrashesAt (registry : Registry) (turn : Turn) (index : Nat) (message : String) : Prop :=
  ∃ command input after, Calls registry turn.stage index turn.piped turn.context turn.machine
    command input (.crashed message) after

theorem Turn.CrashesAt.ending {turn : Turn} {message : String}
    (h : turn.CrashesAt registry index message)
    (hgoes : Goes registry turn.stage index turn.piped turn.context turn.machine turn.report) :
    turn.report.ending = .crashed message := by
  obtain ⟨command, input, after, hcalls⟩ := h
  rw [← goes_iff.mp hgoes, goes_iff.mp (.crashed hcalls)]

/-- No turn follows a crash. -/
theorem IsRun.getLast?_of_crashed
    (h : IsRun registry index piped context machine stages turns) {i : Nat} {turn : Turn}
    (hturn : turns[i]? = some turn) {message : String}
    (hcrashed : turn.report.ending = .crashed message) : turns.getLast? = some turn := by
  obtain ⟨hi, rfl⟩ := List.getElem?_eq_some_iff.mp hturn
  by_cases hlater : i + 1 < turns.length
  · obtain ⟨outcome, hreturned, -⟩ := List.isChain_iff_getElem.mp h.handsOver i hlater
    rw [hcrashed] at hreturned
    cases hreturned
  · have hlast : i = turns.length - 1 := by omega
    rw [List.getLast?_eq_getElem?, ← hlast, hturn]

/-- What happens to the job table in a turn, its handler does. -/
theorem jobs_of_goes {stage : Line.Stage} {report : Report}
    (h : Goes registry stage index piped context machine report) :
    report.machine.jobs = machine.jobs ∨
      ∃ command input ending after,
        Calls registry stage index piped context machine command input ending after ∧
          report.machine.jobs = after.jobs := by
  cases h with
  | cancelled | unknown | refused | unreadable => exact .inl rfl
  | crashed hcalls | returned hcalls => exact .inr ⟨_, _, _, _, hcalls, rfl⟩
  | @written command _ outcome after final file hcalls _ hwrite
  | @unwritten command _ outcome after final file _ hcalls _ hwrite =>
      obtain ⟨files, rfl⟩ : ∃ files, final = { after with files := files } := by
        have hfiles := writeOutput_machine (adoptDirectory command outcome context) after file
          outcome.stdout stage.appends
        rwa [hwrite] at hfiles
      exact .inr ⟨_, _, _, _, hcalls, rfl⟩

end Crash

end Pipeline

namespace Line

/-- A line that is blank, or that holds `&` alone, asks for nothing. -/
theorem read?_of_idle {source : String}
    (h : Text.trim source.toList = [] ∨ Text.trim source.toList = ['&']) :
    ∃ background, read? source = some ⟨[], background, source⟩ := by
  rcases h with hblank | hbare
  · exact ⟨false, by simp only [read?, commandPart, hblank]; rfl⟩
  · exact ⟨true, by simp only [read?, commandPart, hbare]; rfl⟩

end Line

namespace Session

/-- Nothing has happened but that a line has been counted. -/
structure Untouched (before after : Session) : Prop where
  directory : after.directory = before.directory
  slots : after.machine.jobs.slots = before.machine.jobs.slots
  lastId : after.machine.jobs.lastId = before.machine.jobs.lastId
  files : after.machine.files = before.machine.files
  calls : after.calls = before.calls
  workers : after.workers = before.workers

/-- The turns of the next foreground line if it asks for some stages. -/
def NextTurns (session : Session) (stages : List Line.Stage) (turns : List Pipeline.Turn) : Prop :=
  Pipeline.IsRun session.registry 0 session.nextContext.stdin
    { session.nextContext with stdin := none } session.nextMachine stages turns

/-- A session that a crash has not moved, on the machine that the last turn has left. -/
structure Contains (session : Session) (turns : List Pipeline.Turn) (message : String)
    (answer : Outcome × Session) : Prop where
  outcome : answer.1 = ⟨"", "Internal error: " ++ message, 1⟩
  directory : answer.2.directory = session.directory
  workers : answer.2.workers = session.workers
  calls : answer.2.calls = session.calls ++ turns.flatMap (·.report.calls)
  machine : (turns.getLast?.map (·.report.machine)) = some answer.2.machine
  /-- From turn to turn, only handlers change the job table. -/
  handled : ∀ i turn, turns[i]? = some turn →
    turn.report.machine.jobs = turn.machine.jobs ∨
      ∃ command input ending after,
        Pipeline.Calls session.registry turn.stage i turn.piped turn.context turn.machine command
          input ending after ∧ turn.report.machine.jobs = after.jobs
  /-- Unless they start a job, none is started. -/
  started : session.registry.Operates (fun op => op.isCreate = false) →
    answer.2.machine.jobs.lastId = session.machine.jobs.lastId

section Failures

variable {session : Session} {source : String} {stages : List Line.Stage}

theorem execute_of_tooLong (hasks : Line.Asks source stages)
    (hlong : Limits.stages < stages.length) :
    (session.execute source).1 = Pipeline.tooLong ∧
      session.Untouched (session.execute source).2 := by
  have hsome : stages ≠ [] := by
    rintro rfl
    cases hlong
  have hreport : session.nextReport stages =
      ⟨.returned Pipeline.tooLong, session.nextContext, session.nextMachine, []⟩ := by
    simp only [nextReport, Pipeline.run, List.isEmpty_iff, hsome, if_false, hlong, if_true]
  rw [execute_of_asks hasks hsome, hreport]
  -- a pipeline that has not moved does not move the session
  have hstays : (session.having ⟨.returned Pipeline.tooLong, session.nextContext,
      session.nextMachine, []⟩).moveTo session.directory session.nextContext.directory =
        session.having ⟨.returned Pipeline.tooLong, session.nextContext, session.nextMachine,
          []⟩ := by
    simp only [moveTo, nextContext, context, Path.same_refl, if_true]
  simp only [conclude, hstays]
  exact ⟨trivial, rfl, rfl, rfl, rfl, List.append_nil _, rfl⟩

theorem contains_of_crash (hasks : Line.Asks source stages)
    (hcount : stages.length ≤ Limits.stages) {turns : List Pipeline.Turn}
    (hturns : session.NextTurns stages turns) {i : Nat} {turn : Pipeline.Turn}
    (hturn : turns[i]? = some turn) {message : String}
    (hcrashes : turn.CrashesAt session.registry i message) :
    session.Contains turns message (session.execute source) := by
  have hcrashed := hcrashes.ending (hturns.goes_at hturn)
  have hlast := hturns.getLast?_of_crashed hturn hcrashed
  have hsome : stages ≠ [] := by
    rintro rfl
    obtain rfl : turns = [] := by simpa using hturns.inOrder
    cases hturn
  have hreport : session.nextReport stages =
      ⟨.crashed message, turn.report.context, turn.report.machine,
        turns.flatMap (·.report.calls)⟩ := by
    have hrun := hturns.run_eq hlast hcount
    rw [Pipeline.verdict, hcrashed] at hrun
    exact hrun
  rw [execute_of_asks hasks hsome, hreport]
  refine ⟨rfl, rfl, rfl, rfl, by rw [hlast]; rfl,
    fun _ _ hother => Pipeline.jobs_of_goes (hturns.goes_at hother), fun hcreates => ?_⟩
  obtain ⟨ops, hops, hafter⟩ := Pipeline.Flight.run_operates hcreates stages session.nextContext
    session.nextMachine
  have hnone : ops.countP Job.Table.Op.isCreate = 0 :=
    List.countP_eq_zero.mpr fun op hop => by rw [hops op hop]; decide
  rw [← nextReport, hreport] at hafter
  exact (congrArg Job.Table.lastId hafter).trans (by rw [Job.Table.lastId_foldl, hnone]; rfl)

end Failures

/-- How a session takes requests that fail. -/
structure Withstands (session : Session) : Prop where
  /-- Whatever is wrong with the text, the channel or the payload of a request. -/
  requests : ∀ line, (∀ request, Request.read line = .ok request → ¬ request.IsProper) →
    ∃ detail, session.answer line =
      ((Outcome.failure 1 ("IPC error: " ++ detail)).toJson, session)
  payloads : ∀ payload cause, Request.inputOf payload = .error cause →
    session.executePayload payload =
      (Outcome.failure 1 ("IPC error: " ++ (Fault.payload cause).message), session)
  /-- A line with `<<`. -/
  unreadable : ∀ source, Line.read? source = none →
    session.execute source =
      (Outcome.failure 1 "parse error: unsupported operator '<<'", session)
  /-- A line that asks for nothing. -/
  idle : ∀ source, Text.trim source.toList = [] ∨ Text.trim source.toList = ['&'] →
    session.execute source = (Outcome.empty, session)
  long : ∀ source stages, Line.Asks source stages → Limits.stages < stages.length →
    (session.execute source).1 = Pipeline.tooLong ∧ session.Untouched (session.execute source).2
  /-- A crash in any stage, wherever the stages before it have been. -/
  crashes : ∀ source stages, Line.Asks source stages → stages.length ≤ Limits.stages →
    ∀ turns, session.NextTurns stages turns →
      ∀ i (turn : Pipeline.Turn) message, turns[i]? = some turn →
      turn.CrashesAt session.registry i message →
      session.Contains turns message (session.execute source)

/-- Requests that fail leave every session as it was, over any commands. -/
theorem withstands (session : Session) : session.Withstands where
  requests _ himproper := session.answer_of_improper himproper
  payloads payload cause hinput := by
    simp only [executePayload, hinput, requestRefusal]
  unreadable source hread := by
    simp only [execute, hread]
    rfl
  idle source hidle := by
    obtain ⟨background, hread⟩ := Line.read?_of_idle hidle
    simp only [execute, hread, Line.isEmpty, List.isEmpty_nil, if_true]
  long _ _ hasks hlong := execute_of_tooLong hasks hlong
  crashes _ _ hasks hcount _ hturns _ _ _ hturn hcrashes :=
    contains_of_crash hasks hcount hturns hturn hcrashes

/-- A session over the standard commands and one that crashes, beside a directory `a`. -/
def onEdge : Session :=
  let boom := Command.named "boom" "Crash" fun _ _ machine => (.crashed "exploded", machine)
  start (Builtin.registry.register boom) .standard [Path.slash]
    { Machine.blank with files := ⟨[([Path.ofText "a"], .directory)], [], []⟩ }

example :
    (onEdge.execute "cd a | pwd").2.directory = Path.ofText "/a" ∧
      (onEdge.execute "cd a | boom").1 = ⟨"", "Internal error: exploded", 1⟩ ∧
      (onEdge.execute "cd a | boom").2.directory = [Path.slash] := by
  decide +kernel

end Session

end Conch
