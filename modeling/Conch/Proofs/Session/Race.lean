import Conch.Proofs.Builtin.Handlers
import Conch.Proofs.Builtin.JobControl
import Conch.Proofs.Session.Past

/-!
# Jobs between their workers and their killers

A job ends in one of two ways: its worker hands in the end of its pipeline, or somebody
kills it, and either may come first.  A job to which the host refuses a worker has ended
already when its line is answered.  `accounts_of_run` says what the job table then shows
of every job, whatever the order of events: the end of its own pipeline under its own label
and start, or nothing after a kill.  And `killjobs` reaches its own job.  Nothing is said about
how soon a job that has been killed stops.
-/

namespace Conch

namespace Traffic

open Job (Table)

/-- A final record of a job reports the end of that job's own pipeline: a background line
started the job, and then its worker went on by its own events until it handed in. -/
def Reports (first : Traffic) (events : List Event) (id : Nat) (record : Job.Record) : Prop :=
  ∃ earlier source line between ending,
    earlier ++ .line source :: between ++ [.advance id] <+: events ∧
    Line.read? source = some line ∧ line.stages ≠ [] ∧ line.background = true ∧
    id = (first.run earlier).jobs.lastId + 1 ∧
    record.id = id ∧ record.command = line.label ∧
    record.startedAt = (first.run earlier).machine.clock ∧
    (((first.run earlier).step (.line source)).ownFlight id
      (Pipeline.Flight.start line.stages ((first.run earlier).session.context (.job id)))
      between).ending? = some ending ∧
    record.Tells ending

/-- A final record says that the host refused a worker to the job when a background line
started it. -/
def Refused (first : Traffic) (events : List Event) (id : Nat) (record : Job.Record) : Prop :=
  ∃ earlier source line error,
    earlier ++ [.line source] <+: events ∧
    Line.read? source = some line ∧ line.stages ≠ [] ∧ line.background = true ∧
    id = (first.run earlier).jobs.lastId + 1 ∧
    (first.run earlier).machine.host.workerFault id = some error ∧
    record = (Job.Record.start id line.label (first.run earlier).machine.clock).fail
      ("could not start job: " ++ error.message) (first.run earlier).machine.clock

/-- What holds of all jobs after some events that came down to some operations. -/
structure Accounts (first : Traffic) (events : List Event) (ops : List Table.Op) : Prop where
  /-- The table is what the operations make of it. -/
  table : (first.run events).jobs = Table.run ops
  /-- A final record is that of its job's own pipeline, unless the job never had a worker. -/
  reports : ∀ id record, (first.run events).jobs.get? id = some record →
    record.status ≠ .running → Reports first events id record ∨ Refused first events id record
  /-- After a kill of a job that has been started nothing is ever tracked for it again, and
  what is handed in for it is refused. -/
  killed : ∀ id earlier between, earlier ++ .kill id :: between <+: ops → 1 ≤ id →
    id ≤ (Table.run earlier).lastId →
    (Table.run (earlier ++ .kill id :: between)).get? id = none ∧
      ∀ record, record.id = id →
        (Table.run (earlier ++ .kill id :: between)).update record = none
  /-- What is handed in for a job that nobody has killed before is stored. -/
  stored : ∀ earlier record, earlier ++ [.update record] <+: ops →
    (∀ before, before ++ [.kill record.id] <+: earlier →
      (Table.run before).lastId < record.id) →
    (Table.run earlier).update record = some ((Table.run earlier).store record).prune
  /-- Nothing is handed in twice for a job. -/
  once : (Table.handedIn ops).Nodup
  /-- The jobs that run are those that have a worker and whose flag has not been fired. -/
  running : ∀ id, (first.run events).jobs.phase id = .running ↔
    ((first.run events).session.worker? id).isSome = true ∧
      .job id ∉ (first.run events).jobs.fired
  /-- The flags that have been fired are those of the jobs killed while they were running. -/
  fired : ∀ token, token ∈ (first.run events).jobs.fired ↔
    ∃ id earlier, token = .job id ∧ earlier ++ [.kill id] <+: ops ∧
      (Table.run earlier).phase id = .running
  /-- Every job is asked to stop by its own flag. -/
  token : ∀ id worker, (first.run events).session.worker? id = some worker →
    worker.record.token = .job id ∧ worker.flight.context.token = .job id

theorem Past.coherent {first : Traffic} (hfirst : Coherent first []) {events : List Event}
    {ops : List Table.Op} (h : Past first events ops) : Coherent (first.run events) ops := by
  induction h with
  | start => exact hfirst
  | next _ hdoes ih =>
      rw [run_concat]
      exact ih.next hdoes

/-- How a record comes to be handed in behind some operations. -/
inductive HandedIn (first : Traffic) (events : List Event) (earlier : List Table.Op)
    (record : Job.Record) : Prop
  /-- The worker of the job hands it in at the end of its pipeline. -/
  | worker {before : List Event} {worker : Worker} {ending : Ending}
      (hpast : Past first before earlier) (hleads : before ++ [.advance record.id] <+: events)
      (hworker : (first.run before).session.worker? record.id = some worker)
      (hended : worker.flight.ending? = some ending)
      (hrecord : record =
        Session.finalRecord worker.record ending (first.run before).machine.clock)
  /-- The host has refused a worker to the job, which has just been started. -/
  | refusal {before : List Event} {ops : List Table.Op} {source : String} {line : Line}
      {error : Files.OsError} (hpast : Past first before ops)
      (hearlier : earlier = ops ++ [.create line.label (first.run before).machine.clock])
      (hleads : before ++ [.line source] <+: events) (hread : Line.read? source = some line)
      (hstages : line.stages ≠ []) (hbackground : line.background = true)
      (hrefused : (first.run before).machine.host.workerFault
        ((first.run before).jobs.lastId + 1) = some error)
      (hrecord : record = (first.run before).refusedRecord line error)

theorem HandedIn.later {first : Traffic} {events later : List Event} {earlier : List Table.Op}
    {record : Job.Record} (h : HandedIn first events earlier record) (hlater : events <+: later) :
    HandedIn first later earlier record := by
  cases h with
  | worker hpast hleads hworker hended hrecord =>
      exact .worker hpast (hleads.trans hlater) hworker hended hrecord
  | refusal hpast hearlier hleads hread hstages hbackground hrefused hrecord =>
      exact .refusal hpast hearlier (hleads.trans hlater) hread hstages hbackground hrefused hrecord

/-- A record is handed in by the worker of its job, or because there is none. -/
theorem Past.of_update {first : Traffic} {events : List Event} {ops : List Table.Op}
    (h : Past first events ops) {earlier : List Table.Op} {record : Job.Record}
    (hmem : earlier ++ [.update record] <+: ops) : HandedIn first events earlier record := by
  induction h with
  | start => simp at hmem
  | @next events ops more event h hdoes ih =>
      -- The record was handed in at an earlier event, or at this one.
      rcases List.prefix_or_prefix_of_prefix hmem (List.prefix_append ops more) with hold | hnew
      · exact (ih hold).later (List.prefix_append _ _)
      rcases List.prefix_concat_iff.mp hnew with heq | ⟨between, rfl⟩
      · exact (ih (heq ▸ List.prefix_refl _)).later (List.prefix_append _ _)
      · rw [List.append_assoc, List.prefix_append_right_inj] at hmem
        have hin : Table.Op.update record ∈ more := hmem.subset (by simp)
        cases hdoes with
        | idles | begins | turns => simp at hin
        | starts | kills => simp at hin
        | proceeds hkills => exact absurd (hkills _ hin) (by simp [Table.Op.isKill])
        | advances _ hkills => exact absurd (hkills _ hin) (by simp [Table.Op.isKill])
        | @handsIn id worker ending hworker hended =>
            obtain rfl := Table.Op.update.inj (List.mem_singleton.mp hin)
            have hid : (Session.finalRecord worker.record ending
                (first.run events).machine.clock).id = id := by
              rw [Job.id_finalRecord, Session.record_id_of_worker? hworker]
            have hbetween : between = [] := by
              have hlength := hmem.length_le
              simpa using hlength
            subst hbetween
            rw [List.append_nil]
            exact .worker h (by rw [hid]) (by rw [hid]; exact hworker) hended rfl
        | @refuses source line error hread hstages hbackground hrefused =>
            obtain rfl : record = (first.run events).refusedRecord line error := by
              simpa using hin
            have hbetween : between = [.create line.label (first.run events).machine.clock] := by
              obtain ⟨behind, hbehind⟩ := hmem
              cases between with
              | nil => simp at hbehind
              | cons op between =>
                  obtain ⟨rfl, hbehind⟩ := List.cons.inj hbehind
                  cases between with
                  | nil => rfl
                  | cons op between => simp at hbehind
            subst hbetween
            exact .refusal h rfl (List.prefix_refl _) hread hstages hbackground hrefused rfl

section Accounts

variable {first : Traffic} {events : List Event} {ops : List Table.Op}

theorem Past.reports (h : Past first events ops) (hfirst : Coherent first [])
    (hnone : ∀ id, first.session.worker? id = none) {id : Nat} {record : Job.Record}
    (hget : (first.run events).jobs.get? id = some record) (hfinal : record.status ≠ .running) :
    Reports first events id record ∨ Refused first events id record := by
  rw [(h.coherent hfirst).table] at hget
  obtain ⟨handed, hmem, rfl, -⟩ :=
    Table.finished_run (Table.phase_eq_finished_iff.mpr ⟨hget, hfinal⟩)
  cases h.of_update hmem with
  | @refusal before _ source line error _ _ hleads hread hstages hbackground hrefused hrecord =>
      rw [hrecord]
      exact .inr ⟨before, source, line, error, hleads, hread, hstages, hbackground, rfl, hrefused,
        rfl⟩
  | @worker before worker ending _ hleads hworker hended hrecord =>
      obtain ⟨earlier, source, line, between, rfl, hread, hstages, hbackground, hid, hstart,
        hflight⟩ := stems_of_worker? hnone hworker
      have hstdout : worker.record.stdout = none := by
        rw [hstart]
        rfl
      refine .inl ⟨earlier, source, line, between, ending, hleads, hread, hstages, hbackground,
        hid, rfl, ?_, ?_, ?_, ?_⟩
      · rw [hrecord, hstart]
        cases ending <;> rfl
      · rw [hrecord, hstart]
        cases ending <;> rfl
      · rw [← hflight]
        exact hended
      · rw [hrecord]
        exact Job.tells_finalRecord hstdout ending _

theorem Past.stored (h : Past first events ops) (hfirst : Coherent first [])
    {earlier : List Table.Op} {record : Job.Record} (hmem : earlier ++ [.update record] <+: ops)
    (hlive : ∀ before, before ++ [.kill record.id] <+: earlier →
      (Table.run before).lastId < record.id) :
    (Table.run earlier).update record = some ((Table.run earlier).store record).prune := by
  refine Table.update_of_running ?_
  cases h.of_update hmem with
  | @refusal before ops _ line _ hpast hearlier _ _ _ _ _ hrecord =>
      -- the job has been started by the operation before
      rw [hearlier, Table.run_concat, (Table.run_sound ops).running_apply_iff]
      refine .inr ⟨rfl, ?_⟩
      rw [hrecord, ← (hpast.coherent hfirst).table]
      rfl
  | @worker before worker _ hpast _ hworker =>
      have hcoherent := hpast.coherent hfirst
      -- A flag that is fired would witness a kill of an id already given out.
      have hunfired : .job record.id ∉ (Table.run earlier).fired := by
        intro hfired
        obtain ⟨id, killed, htoken, hkill, hrun⟩ := hcoherent.ownFlags.mem_fired_iff.mp hfired
        obtain rfl := Token.job.inj htoken
        obtain ⟨current, hget, -⟩ := Table.phase_eq_running_iff.mp hrun
        have hle := ((Table.run_sound killed).id_known hget).2
        exact absurd (hlive killed hkill) (Nat.not_lt.mpr hle)
      exact (hcoherent.running record.id).mpr ⟨by simp [hworker], hunfired⟩

theorem Past.accounts (h : Past first events ops) (hfirst : Coherent first [])
    (hnone : ∀ id, first.session.worker? id = none) : Accounts first events ops := by
  have hcoherent := h.coherent hfirst
  refine ⟨hcoherent.table, fun id record hget hfinal => h.reports hfirst hnone hget hfinal, ?_,
    fun earlier record hmem hlive => h.stored hfirst hmem hlive, hcoherent.once, fun id => ?_,
    fun token => ?_, hcoherent.orderly.token⟩
  · intro id earlier between _ hpos hle
    have hgone : (Table.run (earlier ++ .kill id :: between)).phase id = .gone :=
      Table.phase_after_kill ⟨between, by simp⟩ ⟨hpos, hle⟩
    refine ⟨Table.get?_of_gone hgone, ?_⟩
    rintro record rfl
    exact Table.update_of_gone hgone
  · rw [hcoherent.table]
    exact hcoherent.running id
  · rw [hcoherent.table]
    exact hcoherent.ownFlags.mem_fired_iff

end Accounts

/-- Whatever the order in which lines come in, pipelines go on, jobs are killed and records
are handed in: the events come down to operations on the job table, and these account for
every job.  A final record is that of its job's own pipeline, unless the host has refused the
job a worker; a kill is final, what is handed in before any kill is stored, and the flag of a
job is fired by nothing but a kill of that job while it is running. -/
theorem accounts_of_run (registry : Registry)
    (hkills : registry.Operates fun op => op.isKill = true) (level : Permission)
    (directory : Path) (machine : Machine) (events : List Event) :
    (∃ ops, Past (start registry level directory machine) events ops) ∧
      ∀ ops, Past (start registry level directory machine) events ops →
        Accounts (start registry level directory machine) events ops :=
  ⟨exists_past hkills events, fun _ h =>
    h.accounts (coherent_start registry level directory machine) fun _ => rfl⟩

/-- A job that is killed by another job before it is done. -/
theorem accounts_of_run_killed :
    (Builtin.registry.Operates fun op => op.isKill = true) ∧
      (∃ ops, Past (start Builtin.registry .standard [Path.slash] .blank)
        [.line "pwd | cat &", .line "killjobs 1 &", .advance 1, .advance 2, .advance 1,
          .advance 1] ops) ∧
      ∀ ops, Past (start Builtin.registry .standard [Path.slash] .blank)
        [.line "pwd | cat &", .line "killjobs 1 &", .advance 1, .advance 2, .advance 1,
          .advance 1] ops →
        Accounts (start Builtin.registry .standard [Path.slash] .blank)
          [.line "pwd | cat &", .line "killjobs 1 &", .advance 1, .advance 2, .advance 1,
            .advance 1] ops :=
  ⟨Builtin.registry_operates, accounts_of_run _ Builtin.registry_operates _ _ _ _⟩

/-! ## Who is killed -/

section Kills

variable {registry : Registry} (hkills : registry.Operates fun op => op.isKill = true)
  (level : Permission) (directory : Path) (machine : Machine) (events : List Event)
include hkills

theorem exists_coherent :
    ∃ ops, Coherent ((start registry level directory machine).run events) ops := by
  have hfirst : (start registry level directory machine).session.registry.Operates
      fun op => op.isKill = true := hkills
  obtain ⟨ops, hpast⟩ := exists_past hfirst events
  exact ⟨ops, hpast.coherent (coherent_start registry level directory machine)⟩

/-- In every table that a session leads to, a tracked job has its own flag. -/
theorem token_of_run {id : Nat} {record : Job.Record}
    (hget : ((start registry level directory machine).run events).jobs.get? id = some record) :
    record.token = .job id := by
  obtain ⟨ops, hcoherent⟩ := exists_coherent hkills level directory machine events
  rw [hcoherent.table] at hget
  exact hcoherent.ownFlags.token_eq hget

/-- Whatever has happened in a session, `killjobs` with an argument that denotes a tracked job
removes the record of that job, and if it is running, fires its flag and no other. -/
theorem killjobs_of_run {arg : String} {id : Nat} {record : Job.Record}
    (harg : Builtin.Denotes arg id)
    (hget : ((start registry level directory machine).run events).jobs.get? id = some record)
    (rest : List String) (context : Context) :
    let traffic := (start registry level directory machine).run events
    ∃ after,
      Builtin.killjobs (arg :: rest) context traffic.machine =
          (.returned (Outcome.success ("Terminated job #" ++ toString id)), after) ∧
        Builtin.Removes record traffic.machine after ∧
        ∀ token, after.isFired token = (traffic.machine.isFired token ||
          decide (record.status = .running ∧ token = .job id)) := by
  intro traffic
  obtain ⟨ops, hcoherent⟩ := exists_coherent hkills level directory machine events
  have hsound : traffic.machine.jobs.Sound := hcoherent.orderly.sound
  obtain rfl : record.id = id := hsound.own _ (hsound.mem_slots_iff.mpr hget)
  have htoken := token_of_run hkills level directory machine events hget
  obtain ⟨after, hanswer, hremoves⟩ := @Builtin.killjobs_of_tracked arg rest context
    traffic.machine record (Builtin.jobId?_eq_some_iff.mpr harg) hget
  refine ⟨after, hanswer, hremoves, fun token => ?_⟩
  rw [hremoves.flags, htoken]

end Kills

end Traffic

end Conch
