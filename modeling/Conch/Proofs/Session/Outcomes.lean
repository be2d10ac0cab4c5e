import Conch.Proofs.Pipeline.Course
import Conch.Proofs.Session.Background
import Conch.Proofs.Session.Invocations
import Conch.Proofs.Session.Privilege

/-!
# What a session answers

In a session over the standard commands every line is answered with an exit code that tells
what has happened, and failures are told from successes by their error text.  Nobody can ask a
foreground line to stop: only flags of jobs are ever fired.  So exit code 127 tells exactly
that the stage that decided the line has no command, at one go as well as with anything else
going on beside the line.
-/

namespace Conch

open Job (Table)

/-! ## Flags of lines -/

/-- The records of a table have the flags of jobs. -/
def Job.Table.BearsJobs (table : Table) : Prop :=
  ∀ id record, table.get? id = some record → ∃ job, record.token = .job job

namespace Job.Table

section BearsJobs

variable {table : Table} {op : Op}

theorem BearsJobs.apply (h : table.BearsJobs)
    (hop : ∀ record, op = .update record → ∃ job, record.token = .job job) :
    (table.apply op).BearsJobs := by
  intro id record hget
  rcases of_get?_apply hget with hbefore | ⟨command, now, -, -, rfl⟩ | ⟨rfl, -, -⟩
  · exact h id record hbefore
  · exact ⟨id, rfl⟩
  · exact hop record rfl

theorem BearsJobs.line_notMem_fired (h : table.BearsJobs) {number : Nat}
    (hmem : .line number ∈ (table.apply op).fired) : .line number ∈ table.fired := by
  rcases mem_fired_apply_iff.mp hmem with hbefore | ⟨id, record, -, hget, -, htoken⟩
  · exact hbefore
  · obtain ⟨job, hjob⟩ := h id record hget
    rw [hjob] at htoken
    cases htoken

end BearsJobs

end Job.Table

/-- Of the flags of lines none is fired that was not, as long as jobs have the flags of jobs. -/
def Machine.Spares (before after : Machine) : Prop :=
  before.jobs.BearsJobs →
    after.jobs.BearsJobs ∧
      ∀ number, after.isFired (.line number) = true → before.isFired (.line number) = true

namespace Machine

theorem Spares.refl (machine : Machine) : machine.Spares machine :=
  fun h => ⟨h, fun _ hfired => hfired⟩

theorem Spares.trans {first second third : Machine} (h : first.Spares second)
    (hlater : second.Spares third) : first.Spares third := by
  intro hjobs
  obtain ⟨hsecond, hspared⟩ := h hjobs
  obtain ⟨hthird, hsparedToo⟩ := hlater hsecond
  exact ⟨hthird, fun number hfired => hspared number (hsparedToo number hfired)⟩

/-- What is no matter of jobs and flags. -/
theorem Spares.of_same {before after : Machine} (hjobs : after.jobs = before.jobs)
    (hfired : after.fired = before.fired) : before.Spares after := by
  intro h
  refine ⟨by rwa [hjobs], fun number => ?_⟩
  rw [isFired, isFired, hjobs, hfired]
  exact id

theorem spares_apply (machine : Machine) (op : Table.Op)
    (hop : ∀ record, op = .update record → ∃ job, record.token = .job job) :
    machine.Spares { machine with jobs := machine.jobs.apply op } := by
  intro h
  refine ⟨h.apply hop, fun number hfired => ?_⟩
  simp only [isFired, Bool.or_eq_true, List.contains_iff_mem] at hfired ⊢
  exact hfired.imp_right fun hmem => h.line_notMem_fired hmem

/-- A flag that is made afresh is not fired, and the others are left alone. -/
theorem spares_makeFlag (machine : Machine) (token : Token) :
    machine.Spares (machine.makeFlag token) := by
  intro h
  refine ⟨h, fun number hfired => ?_⟩
  simp only [isFired, makeFlag, Bool.or_eq_true, List.contains_iff_mem, List.mem_filter]
    at hfired ⊢
  exact hfired.imp And.left And.left

end Machine

/-- Handlers that spare the flags of lines. -/
def Registry.Spares (registry : Registry) : Prop :=
  ∀ command ∈ registry.commands, ∀ args context (machine : Machine),
    machine.Spares (command.handler args context machine).2

/-- The standard commands can do nothing to flags but kill a job. -/
theorem Builtin.registry_spares : Builtin.registry.Spares := by
  intro command hmem args context machine
  rcases handler_of_mem hmem with hhandler | ⟨run, hhandler⟩
  · rw [hhandler]
    unfold killjobs
    split
    · exact .refl machine
    · split
      · exact .refl machine
      · next id _ =>
          have hkills := machine.spares_apply (.kill id) (by simp)
          cases hkill : machine.jobs.kill id with
          | none => exact .refl machine
          | some table => simpa [Table.apply, hkill] using hkills
  · rw [hhandler]
    exact .refl machine

namespace Pipeline.Flight

variable {registry : Registry}

theorem spares_advance (h : registry.Spares) (flight : Flight) (machine : Machine) :
    machine.Spares (flight.advance registry machine).2.1 := by
  generalize hresult : flight.advance registry machine = result
  cases moves hresult with
  | rests | runsOut | refused => exact .refl machine
  | @crashed stage _ command input _ after _ _ henter hcall
  | @called stage _ command input _ after _ _ henter hcall =>
      have hmem := Registry.mem_of_find? (enter_eq_ok_iff.mp henter).1.known
      have hspares := h command hmem stage.args { flight.context with stdin := input } machine
      rwa [hcall] at hspares
  | @left stage _ command outcome _ _ _ _ _ hleave =>
      obtain ⟨files, hmachine⟩ := leave_machine command stage outcome flight.context machine
      rw [hleave] at hmachine
      subst hmachine
      exact .of_same rfl rfl

theorem spares_runFor (h : registry.Spares) (count : Nat) (flight : Flight)
    (machine : Machine) : machine.Spares (runFor registry count flight machine).2.1 := by
  induction count with
  | zero => exact .refl machine
  | succ count ih => exact ih.trans (spares_advance h _ _)

/-- A foreground line that is left to itself is on a course of its own. -/
theorem course_runFor (h : registry.Spares) (stages : List Line.Stage) {context : Context}
    {number : Nat} (htoken : context.token = .line number) {machine : Machine}
    (hjobs : machine.jobs.BearsJobs) (hlive : machine.isFired (.line number) = false)
    (count : Nat) :
    ∃ outcomes, Course registry stages context outcomes
      (runFor registry count (start stages context) machine).1 := by
  induction count with
  | zero => exact ⟨[], .start⟩
  | succ count ih =>
      obtain ⟨outcomes, hcourse⟩ := ih
      let before := runFor registry count (start stages context) machine
      have hstill : before.2.1.isFired context.token = false := by
        have hspared := (spares_runFor h count (start stages context) machine hjobs).2 number
        rw [hlive] at hspared
        rw [htoken]
        exact Bool.eq_false_iff.mpr fun hfired => by simpa using hspared hfired
      exact ⟨_, hcourse.next before.2.1 hstill⟩

end Pipeline.Flight

open Pipeline (Course Decides Flight Judged)

/-- The pipeline of a foreground line has come to an outcome by its course.  The stage in which
it stands has decided it, and exit code 127 tells that no command has the name of that stage. -/
structure Resolves (registry : Registry) (stages : List Line.Stage) (context : Context)
    (flight : Flight) (stage : Line.Stage) (outcome : Outcome) : Prop where
  course : ∃ outcomes last, Course registry stages context outcomes flight ∧
    Decides stages outcomes stage last ∧ outcome.exitCode = last.exitCode
  ended : flight.ending? = some (.returned outcome)
  stands : flight.stages.head? = some stage
  unknown : outcome.exitCode = 127 ↔ registry.contains stage.name = false

/-- What a pipeline of a permitted length has been judged to come to, some stage has decided. -/
theorem exists_resolves {registry : Registry} {stages : List Line.Stage} {context : Context}
    {outcomes : List Outcome} {flight : Flight} {outcome : Outcome} (hsome : stages ≠ [])
    (hcount : stages.length ≤ Limits.stages)
    (hcourse : Course registry stages context outcomes flight)
    (hended : flight.ending? = some (.returned outcome))
    (hjudged : Judged registry stages outcomes flight.stages outcome) :
    ∃ stage, Resolves registry stages context flight stage outcome := by
  cases hjudged with
  | idle hnone => exact absurd hnone hsome
  | long hlong => omega
  | @decided stage last _ hstands hdecides hcode hclassed =>
      refine ⟨stage, ⟨outcomes, last, hcourse, hdecides, hcode⟩, hended, hstands, ?_⟩
      rw [hclassed.unknown]
      simp [Registry.contains]

namespace Session

variable {session : Session}

theorem machine_conclude (session : Session) (before after : Path) (ending : Ending) :
    (session.conclude before after ending).2.machine = session.machine := by
  obtain ⟨directory, hsession⟩ := session.conclude_session before after ending
  rw [hsession]

theorem spares_startJob (session : Session) (line : Line) :
    session.machine.Spares (session.startJob line).2.machine := by
  have hcreates := session.machine.spares_apply
    (.create line.label session.machine.clock) (by simp)
  have hcreated : session.machine.Spares (session.createJob line).2.machine :=
    hcreates.trans (Machine.spares_makeFlag _ _)
  cases hfault : session.machine.host.workerFault (session.machine.jobs.lastId + 1) with
  | none =>
      rw [startJob_of_granted hfault]
      exact hcreated
  | some error =>
      rw [startJob_of_refused hfault]
      refine hcreated.trans (Machine.spares_apply _ (.update _) ?_)
      rintro record ⟨⟩
      exact ⟨_, rfl⟩

/-- The answer to a line that starts a job says whether it could be started. -/
theorem classed_startJob (session : Session) (line : Line) :
    (session.startJob line).1.Classed False := by
  cases hfault : session.machine.host.workerFault (session.machine.jobs.lastId + 1) with
  | none =>
      rw [startJob_of_granted hfault]
      exact Outcome.classed_success _
  | some error =>
      rw [startJob_of_refused hfault]
      exact Outcome.classed_failure (by simp)

/-- Executing a line at one go spares the flags of lines. -/
theorem spares_execute (hregistry : session.registry.Spares) (source : String) :
    session.machine.Spares (session.execute source).2.machine := by
  unfold execute
  split
  · exact .refl _
  · next line _ =>
      split
      · exact .refl _
      · split
        · exact session.spares_startJob line
        · let context := session.context (.line session.lines)
          obtain ⟨count, -, last, hrun, -⟩ := Flight.runFor_start session.registry line.stages
            context (session.machine.makeFlag context.token)
          have hspares := Flight.spares_runFor hregistry count (.start line.stages context)
            (session.machine.makeFlag context.token)
          rw [hrun] at hspares
          rw [runForeground, machine_conclude]
          exact (Machine.spares_makeFlag _ _).trans hspares

theorem workers_execute (session : Session) (source : String) :
    ∀ worker ∈ (session.execute source).2.workers,
      worker ∈ session.workers ∨ ∃ job, worker.record.token = .job job := by
  intro worker hmem
  unfold execute at hmem
  split at hmem
  · exact .inl hmem
  · split at hmem
    · exact .inl hmem
    · split at hmem
      · obtain ⟨machine, more, hsession, -, hmore⟩ := session.startJob_session _
        rw [hsession] at hmem
        rcases List.mem_append.mp hmem with hbefore | hnew
        · exact .inl hbefore
        · obtain ⟨job, htoken, -⟩ := hmore worker hnew
          exact .inr ⟨job, htoken⟩
      · obtain ⟨_, _, _, _, hsession⟩ := session.runForeground_session (Line.stages _)
        rw [hsession] at hmem
        exact .inl hmem

/-- The pipeline of a foreground line that is executed at one go, after some half stages. -/
def alone (session : Session) (stages : List Line.Stage) (count : Nat) : Flight :=
  let context := session.context (.line session.lines)
  (Flight.runFor session.registry count (.start stages context)
    (session.machine.makeFlag context.token)).1

/-- A foreground line that is executed at one go comes to what its stages say. -/
theorem judged_runForeground (hanswers : session.registry.Answers)
    (hspares : session.registry.Spares) (hjobs : session.machine.jobs.BearsJobs)
    (stages : List Line.Stage) :
    ∃ count outcomes,
      Course session.registry stages (session.context (.line session.lines)) outcomes
        (session.alone stages count) ∧
      (session.alone stages count).ending? = some (.returned (session.runForeground stages).1) ∧
      Judged session.registry stages outcomes (session.alone stages count).stages
        (session.runForeground stages).1 := by
  let context := session.context (.line session.lines)
  obtain ⟨count, -, last, hrun, hended, -⟩ := Flight.runFor_start session.registry stages context
    (session.machine.makeFlag context.token)
  have hfresh := (Machine.spares_makeFlag session.machine context.token hjobs).1
  have hlive := session.machine.isFired_makeFlag context.token
  obtain ⟨outcomes, hcourse⟩ :=
    Flight.course_runFor hspares stages (rfl : context.token = _) hfresh hlive count
  have hlast : session.alone stages count = last := by
    simp only [alone, context] at hrun ⊢
    rw [hrun]
  rw [hrun] at hcourse
  obtain ⟨outcome, hreturned, hjudged⟩ := hcourse.judged hanswers hended
  have houtcome : (session.runForeground stages).1 = outcome := by
    simp only [runForeground]
    rw [hreturned]
    rfl
  rw [houtcome]
  refine ⟨count, outcomes, ?_⟩
  rw [hlast]
  exact ⟨hcourse, by rw [hended, hreturned], hjudged⟩

end Session

namespace Traffic

/-- A foreground line under way is on its course, and nobody has asked it to stop. -/
structure OnCourse (traffic : Traffic) (invocation : Invocation) : Prop where
  line : ∃ line outcomes, Line.read? invocation.source = some line ∧ line.stages ≠ [] ∧
    line.background = false ∧
    Course traffic.session.registry line.stages
      ⟨traffic.session.level, invocation.before, none, .line invocation.number⟩ outcomes
      invocation.flight
  live : traffic.machine.isFired (.line invocation.number) = false

/-- Commands always answer and spare the flags of lines; jobs have flags of their own, and all
lines so far have been answered with an exit code that tells what has happened. -/
structure Candid (traffic : Traffic) : Prop where
  answers : traffic.session.registry.Answers
  spares : traffic.session.registry.Spares
  records : traffic.jobs.BearsJobs
  workers : ∀ worker ∈ traffic.session.workers, ∃ job, worker.record.token = .job job
  underway : ∀ number invocation, traffic.invocation? number = some invocation →
    traffic.OnCourse invocation
  answered : ∀ answer ∈ traffic.answers, answer.2.Telling

section Candid

variable {traffic : Traffic}

/-- Lines are answered when they are executed at one go, or when their pipeline has ended. -/
theorem answers_step (traffic : Traffic) (event : Event) :
    (traffic.step event).answers = traffic.answers ∨
      (∃ source, (traffic.step event).answers =
        traffic.answers ++ [(source, (traffic.session.execute source).1)]) ∨
      ∃ number invocation ending, traffic.invocation? number = some invocation ∧
        invocation.flight.ending? = some ending ∧
        (traffic.step event).answers = traffic.answers ++ [(invocation.source,
          (traffic.session.conclude invocation.before invocation.flight.context.directory
            ending).1)] := by
  cases event with
  | line source =>
      simp only [step, takeLine]
      split
      · exact .inr (.inl ⟨source, rfl⟩)
      · split
        · exact .inr (.inl ⟨source, rfl⟩)
        · exact .inl rfl
  | proceed number =>
      rw [step]
      cases hfound : traffic.invocation? number with
      | none => exact .inl (by rw [proceed_of_none hfound])
      | some invocation =>
          cases hended : invocation.flight.ending? with
          | none => exact .inl (by rw [proceed_of_open hfound hended]; rfl)
          | some ending =>
              refine .inr (.inr ⟨number, invocation, ending, hfound, hended, ?_⟩)
              rw [proceed_of_ended hfound hended]
              rfl
  | advance | kill | world => exact .inl rfl

theorem Candid.telling_execute (h : traffic.Candid) (source : String) :
    (traffic.session.execute source).1.Telling := by
  unfold Session.execute
  split
  · exact (Outcome.classed_failure (by simp)).toTelling
  · split
    · exact (Outcome.classed_success "").toTelling
    · split
      · exact (traffic.session.classed_startJob _).toTelling
      · obtain ⟨_, _, -, -, hjudged⟩ :=
          Session.judged_runForeground h.answers h.spares h.records (Line.stages _)
        exact hjudged.telling

/-- A foreground line whose pipeline has ended is answered with what it has been judged to
come to. -/
theorem Candid.exists_judged (h : traffic.Candid) {number : Nat} {invocation : Invocation}
    (hfound : traffic.invocation? number = some invocation) {ending : Ending}
    (hended : invocation.flight.ending? = some ending) :
    ∃ line outcomes outcome, Line.read? invocation.source = some line ∧ line.stages ≠ [] ∧
      ending = .returned outcome ∧
      Course traffic.session.registry line.stages
        ⟨traffic.session.level, invocation.before, none, .line invocation.number⟩ outcomes
        invocation.flight ∧
      Judged traffic.session.registry line.stages outcomes invocation.flight.stages outcome := by
  obtain ⟨line, outcomes, hread, hstages, -, hcourse⟩ := (h.underway number invocation hfound).line
  obtain ⟨outcome, hreturned, hjudged⟩ := hcourse.judged h.answers hended
  exact ⟨line, outcomes, outcome, hread, hstages, hreturned, hcourse, hjudged⟩

theorem Candid.answered_act (h : traffic.Candid) (action : Action) :
    ∀ answer ∈ (traffic.act action).answers, answer.2.Telling := by
  have hmore : ∀ {more : String × Outcome}, more.2.Telling →
      ∀ answer ∈ traffic.answers ++ [more], answer.2.Telling := by
    intro more htelling answer hmem
    rcases List.mem_append.mp hmem with hbefore | hnew
    · exact h.answered answer hbefore
    · obtain rfl := List.mem_singleton.mp hnew
      exact htelling
  cases action with
  | executes source => exact hmore (h.telling_execute source)
  | meets event =>
      rw [act]
      rcases traffic.answers_step event with hsame | ⟨source, hexecuted⟩ |
        ⟨number, invocation, ending, hfound, hended, hanswered⟩
      · rw [hsame]
        exact h.answered
      · rw [hexecuted]
        exact hmore (h.telling_execute source)
      · obtain ⟨_, _, outcome, -, -, rfl, -, hjudged⟩ := h.exists_judged hfound hended
        rw [hanswered]
        exact hmore hjudged.telling

/-- What an event does to the flags and to the workers. -/
theorem Candid.spares_step (h : traffic.Candid) (event : Event) :
    traffic.machine.Spares (traffic.step event).machine ∧
      ∀ worker ∈ (traffic.step event).session.workers, ∃ job, worker.record.token = .job job := by
  rw [machine, machine]
  generalize hafter : (traffic.step event).session = after
  cases moves hafter with
  | idles | answers | stays => exact ⟨.refl _, h.workers⟩
  | begins => exact ⟨Machine.spares_makeFlag _ _, h.workers⟩
  | @starts source line _ _ _ hgranted =>
      rw [← Session.startJob_of_granted hgranted]
      refine ⟨traffic.session.spares_startJob line, fun worker hmem => ?_⟩
      rw [Session.startJob_of_granted hgranted] at hmem
      rcases List.mem_append.mp hmem with hbefore | hnew
      · exact h.workers worker hbefore
      · obtain rfl := List.mem_singleton.mp hnew
        exact ⟨_, rfl⟩
  | @refuses source line error _ _ _ hrefused =>
      rw [← Session.startJob_of_refused hrefused]
      refine ⟨traffic.session.spares_startJob line, fun worker hmem => ?_⟩
      rw [Session.startJob_of_refused hrefused] at hmem
      exact h.workers worker hmem
  | proceeds flight => exact ⟨Flight.spares_advance h.spares flight _, h.workers⟩
  | @advances id worker hworker hopen =>
      refine ⟨Flight.spares_advance h.spares worker.flight _, fun other hmem => ?_⟩
      obtain ⟨before, hbefore, rfl⟩ := List.mem_map.mp hmem
      split
      · exact h.workers before hbefore
      · exact h.workers before hbefore
  | @handsIn id worker ending hworker hended =>
      have htoken := h.workers worker (List.mem_of_find?_eq_some hworker)
      have hupdates := traffic.session.machine.spares_apply
        (.update (Session.finalRecord worker.record ending traffic.machine.clock))
        (by rintro record ⟨⟩; rwa [Job.token_finalRecord])
      refine ⟨hupdates, fun other hmem => ?_⟩
      exact h.workers other (List.mem_of_mem_filter hmem)
  | @kills id => exact ⟨Machine.spares_apply _ (.kill id) (by simp), h.workers⟩
  | turns => exact ⟨.of_same rfl rfl, h.workers⟩

theorem Candid.spares_act (h : traffic.Candid) (action : Action) :
    traffic.machine.Spares (traffic.act action).machine ∧
      ∀ worker ∈ (traffic.act action).session.workers, ∃ job, worker.record.token = .job job := by
  cases action with
  | executes source =>
      refine ⟨Session.spares_execute h.spares source, fun worker hmem => ?_⟩
      rcases traffic.session.workers_execute source worker hmem with hbefore | hnew
      · exact h.workers worker hbefore
      · exact hnew
  | meets event => exact h.spares_step event

/-- A foreground line stays on its course, whatever is done beside it. -/
theorem Candid.underway_act (h : traffic.Candid) (action : Action) {number : Nat}
    {invocation : Invocation}
    (hfound : (traffic.act action).invocation? number = some invocation) :
    (traffic.act action).OnCourse invocation := by
  have hregistry := (traffic.follows_act action).registry
  have hlevel := (traffic.follows_act action).level
  obtain ⟨-, hspared⟩ := (h.spares_act action).1 h.records
  -- no action fires the flag of a line
  have hstill : ∀ other : Nat, traffic.machine.isFired (.line other) = false →
      (traffic.act action).machine.isFired (.line other) = false := by
    intro other hlive
    refine Bool.eq_false_iff.mpr fun hfired => ?_
    rw [hspared other hfired] at hlive
    cases hlive
  cases hbefore : traffic.invocation? number with
  | some old =>
      obtain ⟨⟨line, outcomes, hread, hstages, hforeground, hcourse⟩, hlive⟩ :=
        h.underway number old hbefore
      have hsame : invocation = old → (traffic.act action).OnCourse invocation := by
        rintro rfl
        refine ⟨⟨line, outcomes, hread, hstages, hforeground, ?_⟩, hstill _ hlive⟩
        rw [hregistry, hlevel]
        exact hcourse
      cases action with
      | executes source => exact hsame (Option.some.inj (hfound.symm.trans hbefore))
      | meets event =>
          simp only [act] at hfound
          rw [invocation?_step_of_some hbefore] at hfound
          split at hfound
          · split at hfound
            · obtain rfl := Option.some.inj hfound
              -- its own half stage adds the outcome of a stage that it finishes
              let more := (old.flight.finishes? traffic.session.registry traffic.machine).toList
              refine ⟨⟨line, outcomes ++ more, hread, hstages, hforeground, ?_⟩, hstill _ hlive⟩
              rw [hregistry, hlevel]
              exact hcourse.next traffic.machine hlive
            · cases hfound
          · exact hsame (Option.some.inj hfound).symm
  | none =>
      cases action with
      | executes source =>
          have hnone : traffic.invocation? number = some invocation := hfound
          rw [hbefore] at hnone
          cases hnone
      | meets event =>
          obtain ⟨source, line, rfl, hread, hstages, hforeground, rfl, rfl⟩ :=
            invocation?_step_of_none hbefore hfound
          have hstep := takeLine_of_foreground traffic hread hstages hforeground
          refine ⟨⟨line, [], hread, hstages, hforeground, ?_⟩, ?_⟩
          · rw [hregistry, hlevel]
            exact .start
          · simp only [act, step, hstep]
            exact Machine.isFired_makeFlag _ _

theorem Candid.act (h : traffic.Candid) (action : Action) : (traffic.act action).Candid := by
  have hregistry := (traffic.follows_act action).registry
  obtain ⟨hspares, hworkers⟩ := h.spares_act action
  exact {
    answers := by rw [hregistry]; exact h.answers
    spares := by rw [hregistry]; exact h.spares
    records := (hspares h.records).1
    workers := hworkers
    underway := fun _ _ => h.underway_act action
    answered := h.answered_act action }

theorem Candid.perform (h : traffic.Candid) (actions : List Action) :
    (traffic.perform actions).Candid := by
  induction actions generalizing traffic with
  | nil => exact h
  | cons action later ih => exact ih (h.act action)

theorem level_perform (traffic : Traffic) (actions : List Action) :
    (traffic.perform actions).session.level = traffic.session.level := by
  induction actions generalizing traffic with
  | nil => rfl
  | cons action later ih => exact (ih _).trans (traffic.follows_act action).level

theorem candid_start {registry : Registry} (hanswers : registry.Answers)
    (hspares : registry.Spares) (level : Permission) (directory : Path) (machine : Machine) :
    (start registry level directory machine).Candid where
  answers := hanswers
  spares := hspares
  records := by
    intro id record hget
    simp [jobs, start, Session.start, Table.get?, Table.empty] at hget
  workers := by simp [start, Session.start]
  underway := by simp [start, invocation?]
  answered := by simp [start]

end Candid

/-- In a session over the standard commands, whatever has been done in it: every line is
answered with exit code 0, 1 or 127, and with an error text unless the code is 0.  For a
foreground line of at most fifty stages the code is 127 exactly if the stage that decides it
has the name of no command, whether it is executed at one go or answered after anything else
has happened beside it.  A line without stages has nothing to decide. -/
theorem classed_perform (level : Permission) (directory : Path) (machine : Machine)
    (actions : List Action) :
    let traffic := (start Builtin.registry level directory machine).perform actions
    (∀ answer ∈ traffic.answers, answer.2.Telling) ∧
    (∀ source, (traffic.session.execute source).1.Telling ∧
      ∀ line, Line.read? source = some line → line.background = false →
        (line.stages = [] → (traffic.session.execute source).1.exitCode = 0) ∧
        (line.stages ≠ [] → line.stages.length ≤ Limits.stages →
          ∃ count stage, Resolves Builtin.registry line.stages
            (traffic.session.context (.line traffic.session.lines))
            (traffic.session.alone line.stages count) stage
            (traffic.session.execute source).1)) ∧
    ∀ number invocation ending, traffic.invocation? number = some invocation →
      invocation.flight.ending? = some ending →
      ∃ line outcome, Line.read? invocation.source = some line ∧
        (traffic.step (.proceed number)).answers =
          traffic.answers ++ [(invocation.source, outcome)] ∧
        (line.stages.length ≤ Limits.stages →
          ∃ stage, Resolves Builtin.registry line.stages
            ⟨level, invocation.before, none, .line number⟩ invocation.flight stage outcome) := by
  intro traffic
  have hcandid : traffic.Candid :=
    (candid_start Builtin.registry_answers Builtin.registry_spares level directory
      machine).perform actions
  have hregistry : traffic.session.registry = Builtin.registry := registry_perform _ actions
  refine ⟨hcandid.answered, fun source => ⟨hcandid.telling_execute source,
    fun line hread hforeground => ⟨?_, ?_⟩⟩, ?_⟩
  · intro hnone
    simp [Session.execute, hread, Line.isEmpty, hnone, Outcome.empty]
  · intro hsome hcount
    obtain ⟨count, outcomes, hcourse, hended, hjudged⟩ :=
      Session.judged_runForeground hcandid.answers hcandid.spares hcandid.records line.stages
    have hexecute : traffic.session.execute source = traffic.session.runForeground line.stages := by
      simp [Session.execute, hread, Line.isEmpty, hsome, hforeground]
    obtain ⟨stage, hresolves⟩ := exists_resolves hsome hcount hcourse hended hjudged
    rw [hexecute, ← hregistry]
    exact ⟨count, stage, hresolves⟩
  · intro number invocation ending hfound hended
    obtain ⟨line, outcomes, outcome, hread, hstages, rfl, hcourse, hjudged⟩ :=
      hcandid.exists_judged hfound hended
    have hlevel : traffic.session.level = level := level_perform _ actions
    refine ⟨line, outcome, hread, ?_, fun hcount => ?_⟩
    · rw [step, proceed_of_ended hfound hended]
      rfl
    · rw [hregistry, hlevel, number_of_invocation? hfound] at hcourse
      rw [hregistry] at hjudged
      exact exists_resolves hstages hcount hcourse hended hjudged

/-- The second stage decides, and no command has its name. -/
example :
    let session := Session.start Builtin.registry .standard [Path.slash] .blank
    (session.execute "pwd | nosuch | cat").1 = ⟨"", "Command not found: nosuch", 127⟩ := by
  decide +kernel

end Traffic

end Conch
