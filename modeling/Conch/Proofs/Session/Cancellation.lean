import Conch.Proofs.Pipeline.Cancellation
import Conch.Proofs.Session.Race

/-!
# Jobs that are asked to stop

A job that has been killed goes on until its worker notices.  `WindsDown` says what that
comes to beside whatever else happens in the session: the worker's own half stages call no
handler and change no file, after three events of its own it is gone, and a pipeline with
stages left over does not come to a success.  `cancellation_stops` puts this beside what a
pipeline comes to that runs at once.  Nothing is said about when a worker gets its turn.
-/

namespace Conch.Traffic

open Job (Table)
open Pipeline

/-- Whenever the worker of a job gets its turn, the flag of the job is fired. -/
def AskedToStop (traffic : Traffic) (id : Nat) (events : List Event) : Prop :=
  ∀ before after, events = before ++ .advance id :: after →
    (traffic.run before).machine.isFired (.job id) = true

/-- What becomes of a worker that has been asked to stop. -/
structure WindsDown (traffic : Traffic) (id : Nat) (worker : Worker) (events : List Event) :
    Prop where
  /-- Its own events call no handler. -/
  calls : ∀ before after, events = before ++ .advance id :: after →
    ((traffic.run before).step (.advance id)).session.calls = (traffic.run before).session.calls
  /-- Its own events change no file. -/
  files : ∀ before after, events = before ++ .advance id :: after →
    ((traffic.run before).step (.advance id)).machine.files = (traffic.run before).machine.files
  /-- After three of them it is gone. -/
  gone : 3 ≤ events.count (.advance id) → (traffic.run events).session.worker? id = none
  /-- With stages left over it does not come to a success. -/
  fails : worker.flight.untried ≠ [] → ∀ last outcome,
    (traffic.run events).session.worker? id = some last →
    last.flight.ending? = some (.returned outcome) → outcome.exitCode ≠ 0

/-! ## Flags that stay fired -/

section Flags

variable {kind : Table.Op → Prop} {traffic : Traffic} {id : Nat}

/-- No operation takes back a flag. -/
theorem mem_fired_foldl {table : Table} {token : Token} (h : token ∈ table.fired)
    (ops : List Table.Op) : token ∈ (ops.foldl Table.apply table).fired := by
  induction ops generalizing table with
  | nil => exact h
  | cons op ops ih => exact ih (Table.mem_fired_apply_iff.mpr (.inl h))

theorem lastId_step (hkind : traffic.session.registry.Operates kind) (event : Event) :
    traffic.jobs.lastId ≤ (traffic.step event).jobs.lastId := by
  obtain ⟨ops, hdoes⟩ := exists_does hkind event
  rcases jobs_of_does hdoes with hjobs | ⟨_, -, -, hjobs⟩
  · rw [hjobs]
    exact lastId_foldl _ _
  · rw [hjobs]
    exact lastId_foldl _ _

/-- The flag of a job that has been started stays fired. -/
theorem mem_fired_step (hkind : traffic.session.registry.Operates kind)
    (hknown : id ≤ traffic.jobs.lastId) (hfired : .job id ∈ traffic.jobs.fired) (event : Event) :
    .job id ∈ (traffic.step event).jobs.fired := by
  obtain ⟨ops, hdoes⟩ := exists_does hkind event
  rcases jobs_of_does hdoes with hjobs | ⟨token, hnew, -, hjobs⟩
  · rw [hjobs]
    exact mem_fired_foldl hfired ops
  · -- flags are made afresh for ids that have not been given out only
    have hother : Token.job id ≠ token := fun h => absurd (hnew id h.symm) (Nat.not_lt.mpr hknown)
    rw [hjobs]
    exact List.mem_filter.mpr ⟨hfired, by simpa using hother⟩

theorem mem_fired_run (hkind : traffic.session.registry.Operates kind)
    (hknown : id ≤ traffic.jobs.lastId) (hfired : .job id ∈ traffic.jobs.fired)
    (events : List Event) : .job id ∈ (traffic.run events).jobs.fired := by
  induction events generalizing traffic with
  | nil => exact hfired
  | cons event later ih =>
      rw [run_cons]
      exact ih (by rwa [registry_step]) (Nat.le_trans hknown (lastId_step hkind event))
        (mem_fired_step hkind hknown hfired event)

/-- A job whose flag has been fired is asked to stop once and for all. -/
theorem askedToStop_of_mem_fired (hkind : traffic.session.registry.Operates kind)
    (hknown : id ≤ traffic.jobs.lastId) (hfired : .job id ∈ traffic.jobs.fired)
    (events : List Event) : AskedToStop traffic id events := by
  intro before _ _
  have hlater : .job id ∈ (traffic.run before).machine.jobs.fired :=
    mem_fired_run hkind hknown hfired before
  simp [Machine.isFired, hlater]

/-- A kill fires the flag of a job that has a worker. -/
theorem Coherent.mem_fired_kill {ops : List Table.Op} (h : Coherent traffic ops) {worker : Worker}
    (hworker : traffic.session.worker? id = some worker) :
    .job id ∈ (traffic.step (.kill id)).jobs.fired := by
  have hafter : Coherent (traffic.step (.kill id)) (ops ++ [.kill id]) := h.next .kills
  obtain ⟨hpos, hle⟩ := h.orderly.known id worker hworker
  have hstays : (traffic.step (.kill id)).session.worker? id = some worker := by
    rw [worker?_step_of_some hworker, if_neg (by simp)]
  -- with a worker the job would be running, if its flag were not fired
  by_contra hunfired
  rw [hafter.table] at hunfired
  have hrunning := (hafter.running id).mpr ⟨by simp [hstays], hunfired⟩
  rw [Table.phase_after_kill ⟨[], List.append_nil _⟩ ⟨hpos, by rwa [← h.table]⟩] at hrunning
  cases hrunning

end Flags

/-! ## Workers that wind down -/

section Winding

variable {kind : Table.Op → Prop} {traffic : Traffic} {id : Nat} {worker : Worker}

theorem AskedToStop.tail {event : Event} {later : List Event}
    (h : AskedToStop traffic id (event :: later)) : AskedToStop (traffic.step event) id later := by
  intro before after hlater
  rw [← run_cons]
  exact h (event :: before) after (by rw [hlater, List.cons_append])

/-- Without a worker nothing happens at the events of a job, and none comes in if its id has
been given out. -/
theorem worker?_run_of_none (hkind : traffic.session.registry.Operates kind)
    (hknown : id ≤ traffic.jobs.lastId) (hnone : traffic.session.worker? id = none)
    (events : List Event) : (traffic.run events).session.worker? id = none := by
  induction events generalizing traffic with
  | nil => exact hnone
  | cons event later ih =>
      rw [run_cons]
      refine ih (by rwa [registry_step]) (Nat.le_trans hknown (lastId_step hkind event)) ?_
      by_contra hsome
      obtain ⟨found, hfound⟩ := Option.ne_none_iff_exists'.mp hsome
      obtain ⟨_, _, -, -, -, -, -, hnew, -⟩ := worker?_step_of_none hnone hfound
      omega

/-- An own event of a job without a worker does nothing. -/
theorem step_of_noWorker (hnone : traffic.session.worker? id = none) :
    traffic.step (.advance id) = traffic := by
  simp only [step, Session.advance_of_none hnone]

/-- What an own event does to a job that has been asked to stop: no handler is called, no file
is changed, and the worker comes nearer to its end or, from there, leaves. -/
theorem step_of_fired (hworker : traffic.session.worker? id = some worker)
    (hfired : traffic.machine.isFired worker.flight.context.token = true) :
    (traffic.step (.advance id)).session.calls = traffic.session.calls ∧
      (traffic.step (.advance id)).machine.files = traffic.machine.files ∧
      ((traffic.step (.advance id)).session.worker? id = none ∨
        ∃ next : Flight,
          (traffic.step (.advance id)).session.worker? id =
            some { worker with flight := next } ∧
          next.halvesLeft < worker.flight.halvesLeft ∧
          (worker.flight.Fails → next.Fails)) := by
  have hafter := worker?_step_of_some hworker (.advance id)
  rw [if_pos rfl] at hafter
  cases hending : worker.flight.ending? with
  | some ending =>
      simp only [hending, reduceCtorEq, if_false] at hafter
      refine ⟨?_, ?_, .inl hafter⟩ <;>
        simp only [step, machine, Session.advance_of_ended hworker hending] <;> rfl
  | none =>
      rw [if_pos hending] at hafter
      obtain ⟨next, hnext, hhalves, hfails⟩ :=
        Flight.advance_of_fired traffic.session.registry hfired
      have hopen : worker.flight.halvesLeft ≠ 0 := by
        rw [Ne, Flight.halvesLeft_eq_zero_iff, hending]
        simp
      rw [hnext] at hafter
      have hmachine : worker.flight.advance traffic.session.registry traffic.session.machine =
          (next, traffic.session.machine, none) := hnext
      refine ⟨?_, ?_, .inr ⟨next, hafter, by omega, hfails⟩⟩ <;>
        simp [step, machine, Session.advance_of_open hworker hending, Session.advanceFlight,
          hmachine]

/-- A worker that has been asked to stop uses up one of its half stages with every event of
its own. -/
theorem AskedToStop.winds (hkind : traffic.session.registry.Operates kind)
    (horderly : traffic.session.Orderly) (hworker : traffic.session.worker? id = some worker)
    {events : List Event} (h : AskedToStop traffic id events) :
    (traffic.run events).session.worker? id = none ∨
      ∃ last, (traffic.run events).session.worker? id = some last ∧
        last.flight.halvesLeft + events.count (.advance id) ≤ worker.flight.halvesLeft ∧
        (worker.flight.Fails → last.flight.Fails) := by
  induction events generalizing traffic worker with
  | nil => exact .inr ⟨worker, hworker, by simp, fun hfails => hfails⟩
  | cons event later ih =>
      obtain ⟨ops, hdoes⟩ := exists_does hkind event
      have horderlyAfter := orderly_step horderly hdoes
      have hkindAfter : (traffic.step event).session.registry.Operates kind := by
        rwa [registry_step]
      by_cases hown : event = .advance id
      · subst hown
        have hfired : traffic.machine.isFired worker.flight.context.token = true := by
          rw [(horderly.token id worker hworker).2]
          exact h [] later rfl
        obtain ⟨-, -, hgone | ⟨next, hnext, hnearer, hfails⟩⟩ := step_of_fired hworker hfired
        · refine .inl (worker?_run_of_none hkindAfter ?_ hgone later)
          exact Nat.le_trans (horderly.known id worker hworker).2 (lastId_step hkind _)
        · rcases ih hkindAfter horderlyAfter hnext h.tail with hnone | ⟨last, hlast, hle, hlater⟩
          · exact .inl hnone
          · refine .inr ⟨last, hlast, ?_, fun hstart => hlater (hfails hstart)⟩
            rw [List.count_cons_self]
            simp only at hle
            omega
      · -- what is not its own event leaves the worker as it is
        have hsame : (traffic.step event).session.worker? id = some worker := by
          rw [worker?_step_of_some hworker, if_neg hown]
        rw [run_cons, List.count_cons_of_ne hown]
        exact ih hkindAfter horderlyAfter hsame h.tail

theorem AskedToStop.windsDown (hkind : traffic.session.registry.Operates kind)
    (horderly : traffic.session.Orderly) (hworker : traffic.session.worker? id = some worker)
    {events : List Event} (h : AskedToStop traffic id events) :
    WindsDown traffic id worker events := by
  have hidle : ∀ before after, events = before ++ .advance id :: after →
      ((traffic.run before).step (.advance id)).session.calls =
          (traffic.run before).session.calls ∧
        ((traffic.run before).step (.advance id)).machine.files =
          (traffic.run before).machine.files := by
    intro before after hevents
    cases hthen : (traffic.run before).session.worker? id with
    | none =>
        rw [step_of_noWorker hthen]
        exact ⟨rfl, rfl⟩
    | some found =>
        have htoken := ((orderly_run hkind horderly before).token id found hthen).2
        obtain ⟨hcalls, hfiles, -⟩ :=
          step_of_fired hthen (by rw [htoken]; exact h before after hevents)
        exact ⟨hcalls, hfiles⟩
  refine ⟨fun before after hevents => (hidle before after hevents).1,
    fun before after hevents => (hidle before after hevents).2, fun hcount => ?_,
    fun huntried last outcome hlast hended => ?_⟩
  · rcases h.winds hkind horderly hworker with hnone | ⟨last, -, hle, -⟩
    · exact hnone
    · have htwo := worker.flight.halvesLeft_le_two
      omega
  · rcases h.winds hkind horderly hworker with hnone | ⟨found, hfound, -, hfails⟩
    · rw [hnone] at hlast
      cases hlast
    · obtain rfl := Option.some.inj (hfound.symm.trans hlast)
      exact (hfails (.inl huntried)).exitCode_ne_zero hended

end Winding

/-- A pipeline stops for good when it is asked to.  Asked before it begins, it does nothing
at all.  Asked while a handler runs, by that handler or by anybody else, it writes nothing,
calls no other handler, and fails if stages are left over.  So does the pipeline of a job,
whatever happens beside it; once a kill has fired its flag, it is asked at every turn. -/
theorem cancellation_stops (registry : Registry) (stages : List Line.Stage) (context : Context)
    (machine : Machine) (hsome : stages ≠ []) (hcount : stages.length ≤ Limits.stages) :
    let report := Pipeline.run registry stages context machine
    (machine.isFired context.token = true → ∀ files,
      Pipeline.run registry stages context { machine with files := files } =
        ⟨.returned ⟨"", "Operation aborted", 1⟩, { context with stdin := none },
          { machine with files := files }, []⟩) ∧
    (∃ turns,
      IsRun registry 0 context.stdin { context with stdin := none } machine stages turns ∧
      report.calls = turns.flatMap (·.report.calls) ∧
      ∀ place turn command input ending after, turns[place]? = some turn →
        Calls registry turn.stage place turn.piped turn.context turn.machine command input ending
          after →
        after.isFired context.token = true →
        StopsAt stages turns place turn ending after report) ∧
    ∀ level directory machine earlier id worker,
      let traffic := (start registry level directory machine).run earlier
      traffic.session.worker? id = some worker →
        (registry.Operates (fun _ => True) → ∀ events,
          (AskedToStop traffic id events → WindsDown traffic id worker events) ∧
          (.job id ∈ traffic.jobs.fired → AskedToStop traffic id events)) ∧
        (registry.Operates (fun op => op.isKill = true) →
          .job id ∈ (traffic.step (.kill id)).jobs.fired) := by
  intro report
  refine ⟨fun hfired files => run_of_fired registry hsome hcount hfired files, ?_, ?_⟩
  · obtain ⟨turns, last, hlast, hturns⟩ := exists_isRun registry hsome context machine
    refine ⟨turns, hturns, congrArg Report.calls (hturns.run_eq hlast hcount), ?_⟩
    intro place turn command input ending after hturn hcalls hfired
    exact hturns.stopsAt hcount hturn hcalls hfired
  · intro level directory machine earlier id worker traffic hworker
    have hregistry : traffic.session.registry = registry := registry_run _ earlier
    constructor
    · intro hkind events
      have horderly : traffic.session.Orderly :=
        orderly_run hkind (orderly_start registry level directory machine) earlier
      rw [← hregistry] at hkind
      exact ⟨fun hasked => hasked.windsDown hkind horderly hworker, fun hfired =>
        askedToStop_of_mem_fired hkind (horderly.known id worker hworker).2 hfired events⟩
    · intro hkills
      have hstart := coherent_start registry level directory machine
      obtain ⟨ops, hpast⟩ : ∃ ops, Past (start registry level directory machine) earlier ops :=
        exists_past hkills earlier
      exact (hpast.coherent hstart).mem_fired_kill hworker

/-- A command that asks its own pipeline to stop, and succeeds. -/
def quitter : Command :=
  Command.named "quit" "Quit" fun _ context machine =>
    (.returned (Outcome.success "bye"), machine.fire context.token)

/-- A pipeline that its first stage asks to stop. -/
def quitting : List Line.Stage :=
  [⟨"quit", [], .inherit, .replace "out"⟩, ⟨"quit", [], .piped, .inherit⟩]

theorem cancellation_stops_quitting :
    let registry := Registry.empty.register quitter
    let report := Pipeline.run registry quitting ⟨.standard, [Path.slash], none, .line 0⟩ .blank
    quitting ≠ [] ∧ quitting.length ≤ Limits.stages ∧
      ∃ turns turn, turns[0]? = some turn ∧ (Machine.blank.fire (.line 0)).isFired (.line 0) ∧
        StopsAt quitting turns 0 turn (.returned ⟨"bye", "", 0⟩) (Machine.blank.fire (.line 0))
          report := by
  intro registry report
  obtain ⟨-, ⟨turns, hturns, hcalls, hstops⟩, -⟩ := cancellation_stops registry quitting
    ⟨.standard, [Path.slash], none, .line 0⟩ .blank (by decide) (by decide)
  have hcall : report.calls = [⟨"quit", [], none⟩] := by decide
  obtain ⟨turn, later, rfl⟩ : ∃ turn later, turns = turn :: later :=
    List.exists_cons_of_ne_nil (by rintro rfl; rw [hcalls] at hcall; cases hcall)
  obtain ⟨hpiped, hcontext, hmachine⟩ := hturns.starts turn rfl
  have hstage : turn.stage = ⟨"quit", [], .inherit, .replace "out"⟩ :=
    (List.cons.inj hturns.inOrder).1
  have hquits : Calls registry turn.stage 0 turn.piped turn.context turn.machine quitter none
      (.returned ⟨"bye", "", 0⟩) (Machine.blank.fire (.line 0)) := by
    rw [hpiped, hcontext, hmachine, hstage]
    exact ⟨⟨by decide, rfl, by decide⟩, ⟨none, .piped (by decide), rfl⟩, rfl⟩
  exact ⟨by decide, by decide, _, turn, rfl, by decide,
    hstops 0 turn quitter none _ _ rfl hquits (by decide)⟩

end Conch.Traffic
