import Conch.Proofs.Session.Workers

/-!
# Events as operations on the job table

`Does` says to which operations on the job table an event comes down: starting a job,
starting one that fails at once for want of a worker, handing in a record, a kill, and whatever
a handler does in a half stage.  A table can
change in no other way, except that a flag that is made afresh is not fired.  So the
sessions that events lead to are `Orderly`, as long as handlers touch the table by its
operations only.
-/

namespace Conch

namespace Traffic

open Job (Table)

/-- What is handed in at once for a job to which the host refuses a worker. -/
def refusedRecord (traffic : Traffic) (line : Line) (error : Files.OsError) : Job.Record :=
  (traffic.session.createJob line).1.fail ("could not start job: " ++ error.message)
    traffic.machine.clock

/-- The operations on the job table that an event comes down to. -/
inductive Does (kind : Table.Op → Prop) (traffic : Traffic) : Event → List Table.Op → Prop
  /-- A line that cannot be read or asks for nothing. -/
  | idles {source : String} (hidle : ∀ line, Line.read? source = some line → line.stages = []) :
      Does kind traffic (.line source) []
  | begins {source : String} {line : Line} (hread : Line.read? source = some line)
      (hstages : line.stages ≠ []) (hforeground : line.background = false) :
      Does kind traffic (.line source) []
  | starts {source : String} {line : Line} (hread : Line.read? source = some line)
      (hstages : line.stages ≠ []) (hbackground : line.background = true)
      (hgranted : traffic.machine.host.workerFault (traffic.jobs.lastId + 1) = none) :
      Does kind traffic (.line source) [.create line.label traffic.machine.clock]
  | refuses {source : String} {line : Line} {error : Files.OsError}
      (hread : Line.read? source = some line) (hstages : line.stages ≠ [])
      (hbackground : line.background = true)
      (hrefused : traffic.machine.host.workerFault (traffic.jobs.lastId + 1) = some error) :
      Does kind traffic (.line source)
        [.create line.label traffic.machine.clock, .update (traffic.refusedRecord line error)]
  | proceeds {number : Nat} {ops : List Table.Op} (hkind : ∀ op ∈ ops, kind op)
      (hjobs : (traffic.proceed number).jobs = ops.foldl Table.apply traffic.jobs) :
      Does kind traffic (.proceed number) ops
  | advances {id : Nat} {ops : List Table.Op}
      (hopen : ∀ worker, traffic.session.worker? id = some worker → worker.flight.ending? = none)
      (hkind : ∀ op ∈ ops, kind op)
      (hjobs : (traffic.session.advance id).machine.jobs = ops.foldl Table.apply traffic.jobs) :
      Does kind traffic (.advance id) ops
  | handsIn {id : Nat} {worker : Worker} {ending : Ending}
      (hworker : traffic.session.worker? id = some worker)
      (hended : worker.flight.ending? = some ending) :
      Does kind traffic (.advance id)
        [.update (Session.finalRecord worker.record ending traffic.machine.clock)]
  | kills {id : Nat} : Does kind traffic (.kill id) [.kill id]
  | turns {clock : Nat} {files : Files.Store} : Does kind traffic (.world clock files) []

section Does

variable {kind : Table.Op → Prop} {traffic : Traffic}

/-- Every event comes down to some operations. -/
theorem exists_does (hkind : traffic.session.registry.Operates kind) (event : Event) :
    ∃ ops, Does kind traffic event ops := by
  generalize hafter : (traffic.step event).session = after
  have hjobs : (traffic.step event).jobs = after.machine.jobs := by rw [← hafter]; rfl
  cases moves hafter with
  | idles hidle => exact ⟨[], .idles hidle⟩
  | begins hread hstages hforeground => exact ⟨[], .begins hread hstages hforeground⟩
  | starts hread hstages hbackground hgranted =>
      exact ⟨_, .starts hread hstages hbackground hgranted⟩
  | refuses hread hstages hbackground hrefused =>
      exact ⟨_, .refuses hread hstages hbackground hrefused⟩
  | answers => exact ⟨[], .proceeds (by simp) hjobs⟩
  | proceeds flight =>
      obtain ⟨ops, hops, hadvance⟩ := Pipeline.Flight.advance_operates hkind
        (rfl : flight.advance _ traffic.session.machine = _)
      exact ⟨ops, .proceeds hops (hjobs.trans hadvance)⟩
  | stays hworker => exact ⟨[], .advances (by simp [hworker]) (by simp) hjobs⟩
  | @advances id worker hworker hopen =>
      obtain ⟨ops, hops, hadvance⟩ := Pipeline.Flight.advance_operates hkind
        (rfl : worker.flight.advance _ traffic.session.machine = _)
      exact ⟨ops, .advances (by simp [hworker, hopen]) hops (hjobs.trans hadvance)⟩
  | handsIn hworker hended => exact ⟨_, .handsIn hworker hended⟩
  | kills => exact ⟨_, .kills⟩
  | turns => exact ⟨_, .turns⟩

/-- The operations leave the jobs as the event does, but for a flag that is made afresh. -/
theorem jobs_of_does {event : Event} {ops : List Table.Op} (h : Does kind traffic event ops) :
    (traffic.step event).jobs = ops.foldl Table.apply traffic.jobs ∨
      ∃ token, (∀ id, token = .job id → traffic.jobs.lastId < id) ∧
        (ops.foldl Table.apply traffic.jobs).fired = traffic.jobs.fired ∧
        (traffic.step event).jobs =
          { ops.foldl Table.apply traffic.jobs with
            fired := traffic.jobs.fired.filter (· ≠ token) } := by
  cases h with
  | idles hidle =>
      obtain ⟨outcome, hstep⟩ := takeLine_of_idle traffic hidle
      exact .inl (by simp only [step, hstep]; rfl)
  | begins hread hstages hforeground =>
      refine .inr ⟨.line traffic.session.lines, by simp, rfl, ?_⟩
      simp only [step, takeLine_of_foreground traffic hread hstages hforeground]
      rfl
  | starts hread hstages hbackground hgranted =>
      refine .inr ⟨.job (traffic.jobs.lastId + 1), fun id htoken => ?_, rfl, ?_⟩
      · obtain rfl := Token.job.inj htoken
        exact Nat.lt_succ_self _
      · rw [jobs, session_step_of_granted hread hstages hbackground hgranted]
        rfl
  | @refuses source line error hread hstages hbackground hrefused =>
      refine .inr ⟨.job (traffic.jobs.lastId + 1), fun id htoken => ?_, ?_, ?_⟩
      · obtain rfl := Token.job.inj htoken
        exact Nat.lt_succ_self _
      · exact Table.fired_apply_update _ _
      · rw [jobs, session_step_of_refused hread hstages hbackground hrefused]
        exact Table.apply_update_withFlags _ _ _
  | proceeds _ hjobs => exact .inl hjobs
  | advances _ _ hjobs => exact .inl hjobs
  | handsIn hworker hended =>
      refine .inl ?_
      simp only [step, jobs, Session.advance_of_ended hworker hended, Session.handIn_jobs]
      rfl
  | kills => exact .inl rfl
  | turns => exact .inl rfl

/-- Where only flags of started jobs are fired, the operations leave the jobs exactly as
the event does. -/
theorem jobs_of_does_of_fired {event : Event} {ops : List Table.Op}
    (h : Does kind traffic event ops)
    (hfired : ∀ token ∈ traffic.jobs.fired, ∃ id, token = .job id ∧ id ≤ traffic.jobs.lastId) :
    (traffic.step event).jobs = ops.foldl Table.apply traffic.jobs := by
  rcases jobs_of_does h with hjobs | ⟨token, hnew, hsame, hjobs⟩
  · exact hjobs
  · have hfilter : traffic.jobs.fired.filter (· ≠ token) = traffic.jobs.fired := by
      refine List.filter_eq_self.mpr fun other hother => ?_
      obtain ⟨id, rfl, hle⟩ := hfired other hother
      -- a flag made afresh is that of a line, or of an id that has not been given out
      have hne : Token.job id ≠ token := fun heq => absurd (hnew id heq.symm) (Nat.not_lt.mpr hle)
      simpa using hne
    rw [hjobs, hfilter, ← hsame]

end Does

end Traffic

/-! ## Orderly sessions -/

/-- What every session keeps up: a sound job table, and workers for ids that have been given
out, each with the flag of its own job. -/
structure Session.Orderly (session : Session) : Prop where
  sound : session.machine.jobs.Sound
  known : ∀ id worker, session.worker? id = some worker →
    1 ≤ id ∧ id ≤ session.machine.jobs.lastId
  token : ∀ id worker, session.worker? id = some worker →
    worker.record.token = .job id ∧ worker.flight.context.token = .job id

/-- No worker has an id that is still to be given out. -/
theorem Session.Orderly.worker?_next {session : Session} (h : session.Orderly) :
    session.worker? (session.machine.jobs.lastId + 1) = none := by
  refine Option.eq_none_iff_forall_ne_some.mpr fun worker hworker => ?_
  exact absurd (h.known _ worker hworker).2 (Nat.not_succ_le_self _)

namespace Traffic

open Job (Table)

theorem lastId_foldl (table : Table) (ops : List Table.Op) :
    table.lastId ≤ (ops.foldl Table.apply table).lastId := by
  induction ops generalizing table with
  | nil => exact Nat.le_refl _
  | cons op ops ih =>
      refine Nat.le_trans ?_ (ih (table.apply op))
      rw [Table.lastId_apply]
      exact Nat.le_add_right _ _

theorem orderly_start (registry : Registry) (level : Permission) (directory : Path)
    (machine : Machine) : (start registry level directory machine).session.Orderly where
  sound := Table.sound_empty
  known := by simp [start, Session.start, Session.worker?]
  token := by simp [start, Session.start, Session.worker?]

/-- Events keep sessions orderly. -/
theorem orderly_step {kind : Table.Op → Prop} {traffic : Traffic} {event : Event}
    {ops : List Table.Op} (h : traffic.session.Orderly) (hdoes : Does kind traffic event ops) :
    (traffic.step event).session.Orderly := by
  -- whichever flags are made afresh, soundness and the last id do not see them
  obtain ⟨fired, hjobs⟩ : ∃ fired, (traffic.step event).jobs =
      { ops.foldl Table.apply traffic.jobs with fired := fired } := by
    rcases jobs_of_does hdoes with hjobs | ⟨_, -, -, hjobs⟩
    · exact ⟨_, hjobs⟩
    · exact ⟨_, hjobs⟩
  have hlast : traffic.jobs.lastId ≤ (traffic.step event).jobs.lastId := by
    rw [hjobs]
    exact lastId_foldl _ _
  have hsound : (traffic.step event).jobs.Sound := by
    rw [hjobs]
    exact (h.sound.foldl ops).withFlags fired
  refine ⟨hsound, fun id worker hafter => ?_, fun id worker hafter => ?_⟩
  · cases hbefore : traffic.session.worker? id with
    | some old =>
        obtain ⟨hpos, hle⟩ := h.known id old hbefore
        exact ⟨hpos, Nat.le_trans hle hlast⟩
    | none =>
        obtain ⟨source, line, rfl, hread, hstages, hbackground, hgranted, hid, -⟩ :=
          worker?_step_of_none hbefore hafter
        have hnew : (traffic.step (.line source)).jobs.lastId = traffic.jobs.lastId + 1 := by
          rw [jobs, session_step_of_granted hread hstages hbackground (hid ▸ hgranted)]
          rfl
        exact ⟨by omega, by rw [hid]; exact Nat.le_of_eq hnew.symm⟩
  · cases hbefore : traffic.session.worker? id with
    | some old =>
        rw [worker?_step_of_some hbefore] at hafter
        split at hafter
        · split at hafter
          · obtain rfl := Option.some.inj hafter
            exact ⟨(h.token id old hbefore).1,
              (Pipeline.Flight.advance_token rfl).trans (h.token id old hbefore).2⟩
          · cases hafter
        · obtain rfl := Option.some.inj hafter
          exact h.token id old hbefore
    | none =>
        obtain ⟨source, line, -, -, -, -, -, -, rfl⟩ := worker?_step_of_none hbefore hafter
        exact ⟨rfl, rfl⟩

/-- Every session that events lead to is orderly. -/
theorem orderly_run {kind : Table.Op → Prop} {traffic : Traffic}
    (hkind : traffic.session.registry.Operates kind) (h : traffic.session.Orderly)
    (events : List Event) : (traffic.run events).session.Orderly := by
  induction events generalizing traffic with
  | nil => exact h
  | cons event later ih =>
      obtain ⟨ops, hdoes⟩ := exists_does hkind event
      rw [run_cons]
      exact ih (by rwa [registry_step]) (orderly_step h hdoes)

end Traffic
end Conch
