import Conch.Proofs.Job.Flags
import Conch.Proofs.Session.Orderly

/-!
# The past of a job table

`Past` pairs the events of a run with the operations on the job table that they come down
to, in the order in which these are applied; handlers may kill jobs, their own included,
and do nothing else to the table.  `Coherent` is what carries over from event to event: the
table is what its operations make of it, and the jobs that run are those that have a worker
and that nobody has killed.
-/

namespace Conch

namespace Job

/-- A record tells how a pipeline ended. -/
inductive Record.Tells (record : Record) : Ending → Prop
  | completed {outcome : Outcome} (hstatus : record.status = .completed)
      (hstdout : record.stdout = some outcome.stdout)
      (hstderr : record.stderr = some outcome.stderr)
      (hexitCode : record.exitCode = some outcome.exitCode) : Tells record (.returned outcome)
  | failed {message : String} (hstatus : record.status = .failed) (hstdout : record.stdout = none)
      (hstderr : record.stderr = some ("Internal error: " ++ message))
      (hexitCode : record.exitCode = some 1) : Tells record (.crashed message)

theorem tells_finalRecord {record : Record} (h : record.stdout = none) (ending : Ending)
    (now : Nat) : (Session.finalRecord record ending now).Tells ending := by
  cases ending with
  | returned outcome => exact .completed rfl rfl rfl rfl
  | crashed message => exact .failed rfl h rfl rfl

theorem status_finalRecord (record : Record) (ending : Ending) (now : Nat) :
    (Session.finalRecord record ending now).status ≠ .running := by
  cases ending <;> simp [Session.finalRecord, Record.complete, Record.fail]

theorem status_fail (record : Record) (message : String) (now : Nat) :
    (record.fail message now).status ≠ .running := by
  simp [Record.fail]

theorem id_finalRecord (record : Record) (ending : Ending) (now : Nat) :
    (Session.finalRecord record ending now).id = record.id := by
  cases ending <;> rfl

theorem token_finalRecord (record : Record) (ending : Ending) (now : Nat) :
    (Session.finalRecord record ending now).token = record.token := by
  cases ending <;> rfl

end Job

namespace Traffic

open Job (Table)

/-- A run with the operations on the job table that its events come down to.  Handlers do
nothing to the table but kill jobs. -/
inductive Past (first : Traffic) : List Event → List Table.Op → Prop
  | start : Past first [] []
  | next {events : List Event} {ops more : List Table.Op} {event : Event}
      (h : Past first events ops)
      (hdoes : Does (fun op => op.isKill = true) (first.run events) event more) :
      Past first (events ++ [event]) (ops ++ more)

theorem exists_past {first : Traffic}
    (hkills : first.session.registry.Operates fun op => op.isKill = true)
    (events : List Event) : ∃ ops, Past first events ops := by
  induction events using List.reverseRecOn with
  | nil => exact ⟨[], .start⟩
  | append_singleton events event ih =>
      obtain ⟨ops, hpast⟩ := ih
      rw [← registry_run first events] at hkills
      obtain ⟨more, hdoes⟩ := exists_does hkills event
      exact ⟨ops ++ more, hpast.next hdoes⟩

/-- What ties the workers of a session to the operations on its job table. -/
structure Coherent (traffic : Traffic) (ops : List Table.Op) : Prop where
  orderly : traffic.session.Orderly
  table : traffic.jobs = Table.run ops
  ownFlags : Table.OwnFlags ops
  running : Table.RunsWhile ops fun id => (traffic.session.worker? id).isSome = true
  once : (Table.handedIn ops).Nodup
  returned : ∀ id ∈ Table.handedIn ops,
    id ≤ traffic.jobs.lastId ∧ traffic.session.worker? id = none

theorem coherent_start (registry : Registry) (level : Permission) (directory : Path)
    (machine : Machine) : Coherent (start registry level directory machine) [] where
  orderly := orderly_start registry level directory machine
  table := rfl
  ownFlags := by simp [Table.OwnFlags]
  running := by
    intro id
    simp [Table.phase_eq_running_iff, Table.run, Table.get?, Table.empty, start, Session.start,
      Session.worker?]
  once := List.nodup_nil
  returned := by simp [Table.handedIn]

/-- Workers come and go with the start of a job and the end of its pipeline only. -/
theorem isSome_worker?_step {traffic : Traffic} {event : Event}
    (hstart : ∀ source line, event = .line source → Line.read? source = some line →
      line.stages ≠ [] → line.background = false)
    (hopen : ∀ id worker, event = .advance id → traffic.session.worker? id = some worker →
      worker.flight.ending? = none) (id : Nat) :
    ((traffic.step event).session.worker? id).isSome = (traffic.session.worker? id).isSome := by
  cases hbefore : traffic.session.worker? id with
  | some worker =>
      rw [worker?_step_of_some hbefore]
      split
      · next hown => rw [if_pos (hopen id worker hown hbefore)]; rfl
      · rfl
  | none =>
      cases hafter : (traffic.step event).session.worker? id with
      | none => rfl
      | some worker =>
          obtain ⟨source, line, hevent, hread, hstages, hbackground, -⟩ :=
            worker?_step_of_none hbefore hafter
          rw [hstart source line hevent hread hstages] at hbackground
          cases hbackground

section Coherent

variable {traffic later : Traffic} {ops more : List Table.Op}

theorem Coherent.fired_known (h : Coherent traffic ops) :
    ∀ token ∈ traffic.jobs.fired, ∃ id, token = .job id ∧ id ≤ traffic.jobs.lastId := by
  rw [h.table]
  intro token hfired
  obtain ⟨id, htoken, -, hle⟩ := h.ownFlags.known_of_mem_fired hfired
  exact ⟨id, htoken, hle⟩

/-- Kills leave the workers at work. -/
theorem Coherent.kills (h : Coherent traffic ops) (horderly : later.session.Orderly)
    (hmore : ∀ op ∈ more, op.isKill = true) (htable : later.jobs = Table.run (ops ++ more))
    (hworkers : ∀ id, (later.session.worker? id).isSome =
      (traffic.session.worker? id).isSome) : Coherent later (ops ++ more) := by
  -- a kill moves jobs from running to gone, but their workers do not notice
  obtain ⟨hrunning, hown⟩ := h.running.kills h.ownFlags hmore
  have hhanded : Table.handedIn (ops ++ more) = Table.handedIn ops := by
    rw [Table.handedIn_append, Table.handedIn_kills hmore, List.append_nil]
  have hlast : traffic.jobs.lastId ≤ later.jobs.lastId := by
    rw [htable, h.table, Table.run_append]
    exact lastId_foldl _ _
  refine ⟨horderly, htable, hown, ?_, by rw [hhanded]; exact h.once, fun id hid => ?_⟩
  · simpa only [hworkers] using hrunning
  · rw [hhanded] at hid
    obtain ⟨hle, hnone⟩ := h.returned id hid
    refine ⟨Nat.le_trans hle hlast, ?_⟩
    rw [← Option.isNone_iff_eq_none, ← Option.not_isSome, hworkers, hnone]
    rfl

/-- A background line brings in a worker for the job that it starts. -/
theorem Coherent.starts (h : Coherent traffic ops) {source : String} {line : Line}
    (hread : Line.read? source = some line) (hstages : line.stages ≠ [])
    (hbackground : line.background = true)
    (hgranted : traffic.machine.host.workerFault (traffic.jobs.lastId + 1) = none)
    (horderly : (traffic.step (.line source)).session.Orderly)
    (htable : (traffic.step (.line source)).jobs =
      Table.run (ops ++ [.create line.label traffic.machine.clock])) :
    Coherent (traffic.step (.line source))
      (ops ++ [.create line.label traffic.machine.clock]) := by
  have hstep := session_step_of_granted hread hstages hbackground hgranted
  have hlast : (traffic.step (.line source)).jobs.lastId = traffic.jobs.lastId + 1 := by
    rw [jobs, hstep]
    rfl
  have hworkers : ∀ id, (traffic.step (.line source)).session.worker? id =
      (traffic.session.worker? id).or _ := fun id => by
    rw [hstep]
    exact Session.worker?_employ _ _ _
  refine ⟨horderly, htable, ?_, ?_, by simpa [Table.handedIn] using h.once, fun id hid => ?_⟩
  · intro record hmem
    exact h.ownFlags record (by simpa using hmem)
  · intro id
    rw [(h.running.create h.ownFlags line.label traffic.machine.clock) id]
    refine and_congr_left fun _ => ?_
    show ((traffic.session.worker? id).isSome = true ∨ id = (Table.run ops).lastId + 1) ↔
      ((traffic.step (.line source)).session.worker? id).isSome = true
    rw [hworkers, ← h.table]
    by_cases hid : id = traffic.jobs.lastId + 1
    · simp [hid, jobs]
    · have hother : ¬ id = traffic.session.machine.jobs.lastId + 1 := hid
      simp [hid, hother]
  · obtain ⟨hle, hnone⟩ := h.returned id (by simpa [Table.handedIn] using hid)
    -- an id that has been handed in for was given out, so it is not the next one
    have hother : ¬ id = traffic.session.machine.jobs.lastId + 1 :=
      Nat.ne_of_lt (Nat.lt_succ_of_le hle)
    exact ⟨by omega, by rw [hworkers, hnone, Option.none_or, if_neg hother]⟩

/-- A job to which the host refuses a worker has been handed in for at once, and never runs. -/
theorem Coherent.refuses (h : Coherent traffic ops) {source : String} {line : Line}
    {error : Files.OsError} (hread : Line.read? source = some line) (hstages : line.stages ≠ [])
    (hbackground : line.background = true)
    (hrefused : traffic.machine.host.workerFault (traffic.jobs.lastId + 1) = some error)
    (horderly : (traffic.step (.line source)).session.Orderly)
    (htable : (traffic.step (.line source)).jobs =
      Table.run (ops ++ [.create line.label traffic.machine.clock,
        .update (traffic.refusedRecord line error)])) :
    Coherent (traffic.step (.line source))
      (ops ++ [.create line.label traffic.machine.clock,
        .update (traffic.refusedRecord line error)]) := by
  have hworkers : ∀ id, (traffic.step (.line source)).session.worker? id =
      traffic.session.worker? id := fun id => by
    rw [session_step_of_refused hread hstages hbackground hrefused]
    exact Session.worker?_abandon _ _ _ _
  have hnext : traffic.session.worker? (traffic.jobs.lastId + 1) = none :=
    h.orderly.worker?_next
  have hid : (traffic.refusedRecord line error).id = traffic.jobs.lastId + 1 := rfl
  have hfinal : (traffic.refusedRecord line error).status ≠ .running := Job.status_fail _ _ _
  have hlast : (traffic.step (.line source)).jobs.lastId = traffic.jobs.lastId + 1 := by
    rw [htable, List.append_cons, Table.run_concat, Table.lastId_apply, Table.run_concat,
      Table.lastId_apply, ← h.table]
    rfl
  have hown : Table.OwnFlags (ops ++ [.create line.label traffic.machine.clock]) :=
    fun record hmem => h.ownFlags record (by simpa using hmem)
  have hcreated := h.running.create h.ownFlags line.label traffic.machine.clock
  have hhanded : Table.handedIn (ops ++ [.create line.label traffic.machine.clock,
      .update (traffic.refusedRecord line error)]) =
        Table.handedIn ops ++ [traffic.jobs.lastId + 1] := by
    simp [Table.handedIn, hid]
  refine ⟨horderly, htable, ?_, ?_, ?_, fun id hmem => ?_⟩
  · intro record hmem
    rcases List.mem_append.mp hmem with hmem | hmem
    · exact h.ownFlags record hmem
    · obtain rfl : record = traffic.refusedRecord line error := by simpa using hmem
      rfl
  · intro id
    rw [List.append_cons, (hcreated.update hown hfinal) id, hid, ← h.table]
    refine and_congr_left fun _ => ?_
    show ((traffic.session.worker? id).isSome = true ∨ id = traffic.jobs.lastId + 1) ∧
        id ≠ traffic.jobs.lastId + 1 ↔
      ((traffic.step (.line source)).session.worker? id).isSome = true
    rw [hworkers]
    -- the job has been started and handed in for: none of the workers is its own
    constructor
    · rintro ⟨hbusy | hnew, hother⟩
      · exact hbusy
      · exact absurd hnew hother
    · intro hbusy
      refine ⟨.inl hbusy, ?_⟩
      rintro rfl
      rw [hnext] at hbusy
      cases hbusy
  · rw [hhanded]
    refine List.nodup_append.mpr ⟨h.once, by simp, ?_⟩
    rintro id hmem other hother rfl
    obtain rfl := List.mem_singleton.mp hother
    exact absurd (h.returned _ hmem).1 (Nat.not_succ_le_self _)
  · rw [hhanded] at hmem
    rw [hworkers, hlast]
    rcases List.mem_append.mp hmem with hmem | hmem
    · obtain ⟨hle, hnone⟩ := h.returned id hmem
      exact ⟨Nat.le_succ_of_le hle, hnone⟩
    · obtain rfl := List.mem_singleton.mp hmem
      exact ⟨Nat.le_refl _, hnext⟩

/-- A worker that hands in a record leaves, and its job is not running any more. -/
theorem Coherent.handsIn (h : Coherent traffic ops) {target : Nat} {worker : Worker}
    {ending : Ending} (hworker : traffic.session.worker? target = some worker)
    (hended : worker.flight.ending? = some ending)
    (horderly : (traffic.step (.advance target)).session.Orderly)
    (htable : (traffic.step (.advance target)).jobs =
      Table.run (ops ++
        [.update (Session.finalRecord worker.record ending traffic.machine.clock)])) :
    Coherent (traffic.step (.advance target))
      (ops ++ [.update (Session.finalRecord worker.record ending traffic.machine.clock)]) := by
  let record := Session.finalRecord worker.record ending traffic.machine.clock
  have hid : record.id = target := by
    rw [Job.id_finalRecord, Session.record_id_of_worker? hworker]
  have htoken : record.token = .job record.id := by
    rw [hid, Job.token_finalRecord, (h.orderly.token target worker hworker).1]
  have hlast : (traffic.step (.advance target)).jobs.lastId = traffic.jobs.lastId := by
    rw [htable, Table.run_concat, Table.lastId_apply, h.table]
    rfl
  have hgone : (traffic.step (.advance target)).session.worker? target = none := by
    simp [worker?_step_of_some hworker, hended]
  have hothers : ∀ id, id ≠ target →
      (traffic.step (.advance target)).session.worker? id = traffic.session.worker? id := by
    intro id hother
    simp only [step, Session.advance_of_ended hworker hended]
    exact (Session.worker?_dismiss _ _ _).trans (if_neg hother)
  have hhanded : Table.handedIn (ops ++ [.update record]) = Table.handedIn ops ++ [target] := by
    simp [Table.handedIn, hid]
  refine ⟨horderly, htable, ?_, ?_, ?_, ?_⟩
  · intro handed hmem
    rcases List.mem_append.mp hmem with hmem | hmem
    · exact h.ownFlags handed hmem
    · obtain rfl := Table.Op.update.inj (List.mem_singleton.mp hmem)
      exact htoken
  · intro id
    have hfinal : record.status ≠ .running := Job.status_finalRecord _ _ _
    rw [(h.running.update h.ownFlags hfinal) id, hid]
    refine and_congr_left fun _ => ?_
    by_cases hown : id = target
    · simp [hown, hgone]
    · simp [hown, hothers id hown]
  · rw [hhanded]
    -- the worker was there until now, so nothing had been handed in for it
    refine List.nodup_append.mpr ⟨h.once, by simp, ?_⟩
    rintro id hmem other hother rfl
    obtain rfl := List.mem_singleton.mp hother
    rw [(h.returned id hmem).2] at hworker
    cases hworker
  · rw [hhanded, hlast]
    intro id hmem
    rcases List.mem_append.mp hmem with hmem | hmem
    · obtain ⟨hle, hnone⟩ := h.returned id hmem
      have hother : id ≠ target := by
        rintro rfl
        rw [hnone] at hworker
        cases hworker
      exact ⟨hle, by rw [hothers id hother, hnone]⟩
    · obtain rfl := List.mem_singleton.mp hmem
      exact ⟨(h.orderly.known id worker hworker).2, hgone⟩

/-- Every event keeps the workers and the operations together. -/
theorem Coherent.next (h : Coherent traffic ops) {event : Event}
    (hdoes : Does (fun op => op.isKill = true) traffic event more) :
    Coherent (traffic.step event) (ops ++ more) := by
  have horderly := orderly_step h.orderly hdoes
  -- A fresh flag was not fired before, so the operations tell all of the table.
  have htable : (traffic.step event).jobs = Table.run (ops ++ more) := by
    rw [jobs_of_does_of_fired hdoes h.fired_known, h.table, Table.run_append]
  cases hdoes with
  | idles hidle =>
      refine h.kills horderly (by simp) htable (isSome_worker?_step ?_ (by simp))
      rintro source line ⟨⟩ hread hstages
      exact absurd (hidle line hread) hstages
  | begins hread _ hforeground =>
      refine h.kills horderly (by simp) htable (isSome_worker?_step ?_ (by simp))
      rintro source line ⟨⟩ hline -
      obtain rfl := Option.some.inj (hread.symm.trans hline)
      exact hforeground
  | proceeds hkills =>
      exact h.kills horderly hkills htable (isSome_worker?_step (by simp) (by simp))
  | advances hopen hkills =>
      refine h.kills horderly hkills htable (isSome_worker?_step (by simp) ?_)
      rintro id worker ⟨⟩ hworker
      exact hopen worker hworker
  | kills =>
      exact h.kills horderly (by simp [Table.Op.isKill]) htable
        (isSome_worker?_step (by simp) (by simp))
  | turns =>
      exact h.kills horderly (by simp) htable (isSome_worker?_step (by simp) (by simp))
  | starts hread hstages hbackground hgranted =>
      exact h.starts hread hstages hbackground hgranted horderly htable
  | refuses hread hstages hbackground hrefused =>
      exact h.refuses hread hstages hbackground hrefused horderly htable
  | handsIn hworker hended => exact h.handsIn hworker hended horderly htable

end Coherent

end Traffic

end Conch
