import Conch.Proofs.Pipeline.Flight
import Conch.Session.Traffic

/-!
# The workers of a session

The workers as a map from ids.  `Moves` lists what an event can do to the session.  A worker
comes in with the background line that starts its job, and is moved by the events of that
job and by no others: `ownFlight` replays them.
-/

namespace Conch

namespace Session

/-! ## Workers by id -/

theorem record_id_of_worker? {session : Session} {id : Nat} {worker : Worker}
    (h : session.worker? id = some worker) : worker.record.id = id := by
  simpa using List.find?_some h

section StartJob

variable {session : Session}

/-- A job to which the host does not refuse a worker gets one. -/
theorem startJob_of_granted
    (h : session.machine.host.workerFault (session.machine.jobs.lastId + 1) = none) (line : Line) :
    session.startJob line = (session.createJob line).2.employ (session.createJob line).1 line := by
  simp only [startJob, createJob, Job.Table.create, Job.Record.start, Machine.makeFlag, h]

theorem startJob_of_refused {error : Files.OsError}
    (h : session.machine.host.workerFault (session.machine.jobs.lastId + 1) = some error)
    (line : Line) :
    session.startJob line =
      (session.createJob line).2.abandon (session.createJob line).1 error := by
  simp only [startJob, createJob, Job.Table.create, Job.Record.start, Machine.makeFlag, h]

/-- Starting a job leaves the files as they are, and brings in no worker but its own. -/
theorem startJob_session (session : Session) (line : Line) :
    ∃ machine more, (session.startJob line).2 =
        { session with machine := machine, workers := session.workers ++ more } ∧
      machine.files = session.machine.files ∧
      ∀ worker ∈ more, ∃ id, worker.record.token = .job id ∧
        worker.flight = Pipeline.Flight.start line.stages (session.context (.job id)) := by
  cases hfault : session.machine.host.workerFault (session.machine.jobs.lastId + 1) with
  | none =>
      rw [startJob_of_granted hfault]
      refine ⟨_, _, rfl, rfl, fun worker hmem => ?_⟩
      obtain rfl := List.mem_singleton.mp hmem
      exact ⟨_, rfl, rfl⟩
  | some error =>
      rw [startJob_of_refused hfault]
      refine ⟨((session.createJob line).2.abandon (session.createJob line).1 error).2.machine, [],
        ?_, rfl, by simp⟩
      rw [List.append_nil]
      rfl

theorem directory_startJob (session : Session) (line : Line) :
    (session.startJob line).2.directory = session.directory := by
  obtain ⟨machine, more, hsession, -, -⟩ := session.startJob_session line
  rw [hsession]

theorem files_startJob (session : Session) (line : Line) :
    (session.startJob line).2.machine.files = session.machine.files := by
  obtain ⟨machine, more, hsession, hfiles, -⟩ := session.startJob_session line
  rw [hsession]
  exact hfiles

end StartJob

theorem worker?_employ (session : Session) (line : Line) (id : Nat) :
    ((session.createJob line).2.employ (session.createJob line).1 line).2.worker? id =
      (session.worker? id).or
        (if id = session.machine.jobs.lastId + 1 then
          some
            ⟨Job.Record.start id line.label session.machine.clock,
              Pipeline.Flight.start line.stages (session.context (.job id))⟩
        else none) := by
  simp only [worker?, employ, createJob, List.find?_append]
  congr 1
  by_cases hid : id = session.machine.jobs.lastId + 1
  · subst hid
    simp [Job.Table.create, Job.Record.start, context]
  · have hother : session.machine.jobs.lastId + 1 ≠ id := fun h => hid h.symm
    simp [Job.Table.create, Job.Record.start, hid, hother]

theorem worker?_abandon (session : Session) (line : Line) (error : Files.OsError) (id : Nat) :
    ((session.createJob line).2.abandon (session.createJob line).1 error).2.worker? id =
      session.worker? id :=
  rfl

theorem worker?_dismiss (session : Session) (target id : Nat) :
    (session.dismiss target).worker? id = if id = target then none else session.worker? id := by
  simp only [worker?, dismiss, List.find?_filter]
  by_cases hid : id = target
  · simp [hid]
  · rw [if_neg hid]
    congr 1
    funext worker
    by_cases hworker : worker.record.id = id <;> simp [hworker, hid]

theorem worker?_advanceFlight (session : Session) (worker : Worker) (id : Nat) :
    (session.advanceFlight worker).worker? id =
      if id = worker.record.id then
        (session.worker? id).map fun w =>
          { w with flight := (worker.flight.advance session.registry session.machine).1 }
      else session.worker? id := by
  simp only [worker?, advanceFlight, List.find?_map, Function.comp_def]
  -- the workers keep their ids, so the same one is found
  have hsame : ∀ w : Worker,
      (if w.record.id = worker.record.id then
        { w with flight := (worker.flight.advance session.registry session.machine).1 }
      else w).record.id = w.record.id := fun w => by split <;> rfl
  simp only [hsame]
  cases hfind : session.workers.find? fun w => decide (w.record.id = id) with
  | none => simp
  | some found =>
      have hfound : found.record.id = id := by simpa using List.find?_some hfind
      by_cases hid : id = worker.record.id <;> simp [hfound, hid]

/-! ## The three ways in which a worker goes on -/

theorem advance_of_none {session : Session} {id : Nat} (h : session.worker? id = none) :
    session.advance id = session := by
  simp only [advance, h]

theorem advance_of_ended {session : Session} {id : Nat} {worker : Worker} {ending : Ending}
    (h : session.worker? id = some worker) (hended : worker.flight.ending? = some ending) :
    session.advance id = (session.dismiss id).handIn worker.record ending := by
  simp only [advance, h, hended]

theorem advance_of_open {session : Session} {id : Nat} {worker : Worker}
    (h : session.worker? id = some worker) (hopen : worker.flight.ending? = none) :
    session.advance id = session.advanceFlight worker := by
  simp only [advance, h, hopen]

/-- What handing in does to the job table. -/
theorem handIn_jobs (session : Session) (record : Job.Record) (ending : Ending) :
    (session.handIn record ending).machine.jobs =
      session.machine.jobs.apply (.update (finalRecord record ending session.machine.clock)) :=
  rfl

/-- Answering a foreground line changes nothing but the directory. -/
theorem conclude_session (session : Session) (before after : Path) (ending : Ending) :
    ∃ directory, (session.conclude before after ending).2 =
      { session with directory := directory } := by
  cases ending with
  | crashed message => exact ⟨session.directory, rfl⟩
  | returned outcome =>
      simp only [conclude, moveTo]
      split
      · exact ⟨session.directory, rfl⟩
      · split
        · exact ⟨session.directory, rfl⟩
        · exact ⟨after, rfl⟩

end Session

namespace Traffic

/-! ## What the events do -/

/-- A line that cannot be read or asks for nothing is answered, and that is all. -/
theorem takeLine_of_idle (traffic : Traffic) {source : String}
    (h : ∀ line, Line.read? source = some line → line.stages = []) :
    ∃ outcome, traffic.takeLine source = traffic.answer source (outcome, traffic.session) := by
  unfold takeLine Session.execute
  cases hread : Line.read? source with
  | none => exact ⟨_, rfl⟩
  | some line =>
      have hempty : line.isEmpty = true := by simp [Line.isEmpty, h line hread]
      exact ⟨Outcome.empty, by simp [hempty]⟩

theorem takeLine_of_background (traffic : Traffic) {source : String} {line : Line}
    (hread : Line.read? source = some line) (hstages : line.stages ≠ [])
    (hbackground : line.background = true) :
    traffic.takeLine source = traffic.answer source (traffic.session.startJob line) := by
  simp [takeLine, Session.execute, hread, hbackground, Line.isEmpty, hstages]

/-- A background line whose job gets a worker. -/
theorem session_step_of_granted {traffic : Traffic} {source : String} {line : Line}
    (hread : Line.read? source = some line) (hstages : line.stages ≠ [])
    (hbackground : line.background = true)
    (hgranted : traffic.machine.host.workerFault (traffic.jobs.lastId + 1) = none) :
    (traffic.step (.line source)).session =
      ((traffic.session.createJob line).2.employ (traffic.session.createJob line).1 line).2 := by
  simp only [step, takeLine_of_background traffic hread hstages hbackground, answer,
    Session.startJob_of_granted hgranted]

/-- A background line whose job the host refuses a worker. -/
theorem session_step_of_refused {traffic : Traffic} {source : String} {line : Line}
    {error : Files.OsError} (hread : Line.read? source = some line) (hstages : line.stages ≠ [])
    (hbackground : line.background = true)
    (hrefused : traffic.machine.host.workerFault (traffic.jobs.lastId + 1) = some error) :
    (traffic.step (.line source)).session =
      ((traffic.session.createJob line).2.abandon (traffic.session.createJob line).1 error).2 := by
  simp only [step, takeLine_of_background traffic hread hstages hbackground, answer,
    Session.startJob_of_refused hrefused]

theorem takeLine_of_foreground (traffic : Traffic) {source : String} {line : Line}
    (hread : Line.read? source = some line) (hstages : line.stages ≠ [])
    (hforeground : line.background = false) :
    traffic.takeLine source = traffic.begin source line := by
  simp [takeLine, hread, hforeground, Line.isEmpty, hstages]

/-- A foreground line that goes on changes the directory, or the machine by half a stage. -/
theorem proceed_session (traffic : Traffic) (number : Nat) :
    (∃ directory, (traffic.proceed number).session =
        { traffic.session with directory := directory }) ∨
      ∃ flight : Pipeline.Flight, ∃ calls,
        (traffic.proceed number).session =
          { traffic.session with
            machine := (flight.advance traffic.session.registry traffic.session.machine).2.1
            calls := calls } := by
  unfold proceed
  split
  · exact .inl ⟨traffic.session.directory, rfl⟩
  · next invocation _ =>
      split
      · exact .inl (Session.conclude_session _ _ _ _)
      · exact .inr ⟨invocation.flight, _, rfl⟩

/-- What an event can do to the session. -/
inductive Moves (traffic : Traffic) : Event → Session → Prop
  /-- A line that cannot be read or asks for nothing is answered, and that is all. -/
  | idles {source : String} (hidle : ∀ line, Line.read? source = some line → line.stages = []) :
      Moves traffic (.line source) traffic.session
  | begins {source : String} {line : Line} (hread : Line.read? source = some line)
      (hstages : line.stages ≠ []) (hforeground : line.background = false) :
      Moves traffic (.line source) (traffic.begin source line).session
  | starts {source : String} {line : Line} (hread : Line.read? source = some line)
      (hstages : line.stages ≠ []) (hbackground : line.background = true)
      (hgranted : traffic.machine.host.workerFault (traffic.jobs.lastId + 1) = none) :
      Moves traffic (.line source)
        ((traffic.session.createJob line).2.employ (traffic.session.createJob line).1 line).2
  /-- The host refuses a worker to the job of a background line. -/
  | refuses {source : String} {line : Line} {error : Files.OsError}
      (hread : Line.read? source = some line) (hstages : line.stages ≠ [])
      (hbackground : line.background = true)
      (hrefused : traffic.machine.host.workerFault (traffic.jobs.lastId + 1) = some error) :
      Moves traffic (.line source)
        ((traffic.session.createJob line).2.abandon (traffic.session.createJob line).1 error).2
  /-- A foreground line is answered, or there is none with the number. -/
  | answers {number : Nat} (directory : Path) :
      Moves traffic (.proceed number) { traffic.session with directory := directory }
  | proceeds {number : Nat} (flight : Pipeline.Flight) (calls : List Call) :
      Moves traffic (.proceed number)
        { traffic.session with
          machine := (flight.advance traffic.session.registry traffic.session.machine).2.1
          calls := calls }
  | stays {id : Nat} (hworker : traffic.session.worker? id = none) :
      Moves traffic (.advance id) traffic.session
  | advances {id : Nat} {worker : Worker} (hworker : traffic.session.worker? id = some worker)
      (hopen : worker.flight.ending? = none) :
      Moves traffic (.advance id) (traffic.session.advanceFlight worker)
  | handsIn {id : Nat} {worker : Worker} {ending : Ending}
      (hworker : traffic.session.worker? id = some worker)
      (hended : worker.flight.ending? = some ending) :
      Moves traffic (.advance id) ((traffic.session.dismiss id).handIn worker.record ending)
  /-- A kill and the world around change the machine. -/
  | kills {id : Nat} :
      Moves traffic (.kill id)
        { traffic.session with
          machine :=
            { traffic.machine with jobs := (traffic.jobs.kill id).getD traffic.jobs } }
  | turns {clock : Nat} {files : Files.Store} :
      Moves traffic (.world clock files)
        { traffic.session with machine := { traffic.machine with clock, files } }

/-- Every event is one of the moves. -/
theorem moves {traffic : Traffic} {event : Event} {after : Session}
    (h : (traffic.step event).session = after) : Moves traffic event after := by
  subst h
  cases event with
  | line source =>
      by_cases hidle : ∀ line, Line.read? source = some line → line.stages = []
      · obtain ⟨outcome, hstep⟩ := takeLine_of_idle traffic hidle
        rw [step, hstep]
        exact .idles hidle
      · push Not at hidle
        obtain ⟨line, hread, hstages⟩ := hidle
        cases hbackground : line.background with
        | true =>
            cases hfault : traffic.machine.host.workerFault (traffic.jobs.lastId + 1) with
            | none =>
                rw [session_step_of_granted hread hstages hbackground hfault]
                exact .starts hread hstages hbackground hfault
            | some error =>
                rw [session_step_of_refused hread hstages hbackground hfault]
                exact .refuses hread hstages hbackground hfault
        | false =>
            rw [step, takeLine_of_foreground traffic hread hstages hbackground]
            exact .begins hread hstages hbackground
  | proceed number =>
      rcases proceed_session traffic number with ⟨_, hsession⟩ | ⟨_, _, hsession⟩
      · rw [step, hsession]
        exact .answers _
      · rw [step, hsession]
        exact .proceeds _ _
  | advance id =>
      simp only [step]
      cases hworker : traffic.session.worker? id with
      | none =>
          rw [Session.advance_of_none hworker]
          exact .stays hworker
      | some worker =>
          cases hended : worker.flight.ending? with
          | none =>
              rw [Session.advance_of_open hworker hended]
              exact .advances hworker hended
          | some ending =>
              rw [Session.advance_of_ended hworker hended]
              exact .handsIn hworker hended
  | kill id => exact .kills
  | world clock files => exact .turns

/-- The registry stays as it is. -/
theorem registry_step (traffic : Traffic) (event : Event) :
    (traffic.step event).session.registry = traffic.session.registry := by
  generalize hafter : (traffic.step event).session = after
  cases moves hafter <;> rfl

/-- A worker goes on, or leaves with its record, at an event of its own job only. -/
theorem worker?_step_of_some {traffic : Traffic} {id : Nat} {worker : Worker}
    (h : traffic.session.worker? id = some worker) (event : Event) :
    (traffic.step event).session.worker? id =
      if event = .advance id then
        if worker.flight.ending? = none then
          some
            { worker with
              flight := (worker.flight.advance traffic.session.registry traffic.machine).1 }
        else none
      else some worker := by
  generalize hafter : (traffic.step event).session = after
  cases moves hafter with
  | idles | begins | answers | proceeds | kills | turns =>
      rw [if_neg (by simp)]
      exact h
  | starts =>
      rw [if_neg (by simp), Session.worker?_employ, h, Option.some_or]
  | refuses =>
      rw [if_neg (by simp), Session.worker?_abandon]
      exact h
  | @stays target hworker =>
      have hother : target ≠ id := by
        rintro rfl
        rw [h] at hworker
        cases hworker
      rw [if_neg (by simpa using hother), h]
  | @advances target other hworker hopen =>
      rw [Session.worker?_advanceFlight, Session.record_id_of_worker? hworker]
      by_cases hid : id = target
      · subst hid
        obtain rfl := Option.some.inj (h.symm.trans hworker)
        rw [if_pos rfl, if_pos rfl, if_pos hopen, h]
        rfl
      · have hother : target ≠ id := fun heq => hid heq.symm
        rw [if_neg hid, if_neg (by simpa using hother), h]
  | @handsIn target other ending hworker hended =>
      refine (Session.worker?_dismiss _ _ _).trans ?_
      by_cases hid : id = target
      · subst hid
        obtain rfl := Option.some.inj (h.symm.trans hworker)
        rw [if_pos rfl, if_pos rfl, hended]
        rfl
      · have hother : target ≠ id := fun heq => hid heq.symm
        rw [if_neg hid, if_neg (by simpa using hother), h]

/-- A worker comes in with a background line only. -/
theorem worker?_step_of_none {traffic : Traffic} {id : Nat}
    (h : traffic.session.worker? id = none) {event : Event} {worker : Worker}
    (hworker : (traffic.step event).session.worker? id = some worker) :
    ∃ source line, event = .line source ∧ Line.read? source = some line ∧ line.stages ≠ [] ∧
      line.background = true ∧ traffic.machine.host.workerFault id = none ∧
      id = traffic.jobs.lastId + 1 ∧
      worker = ⟨Job.Record.start id line.label traffic.machine.clock,
        Pipeline.Flight.start line.stages (traffic.session.context (.job id))⟩ := by
  generalize hafter : (traffic.step event).session = after at hworker
  cases moves hafter with
  | idles | begins | answers | proceeds | stays | kills | turns =>
      exact absurd (h.symm.trans hworker) (by simp)
  | @starts source line hread hstages hbackground hgranted =>
      rw [Session.worker?_employ, h, Option.none_or] at hworker
      split at hworker
      · next hid =>
          exact ⟨source, line, rfl, hread, hstages, hbackground, hid ▸ hgranted, hid,
            (Option.some.inj hworker).symm⟩
      · cases hworker
  | refuses =>
      rw [Session.worker?_abandon, h] at hworker
      cases hworker
  | advances =>
      rw [Session.worker?_advanceFlight, h] at hworker
      simp at hworker
  | handsIn =>
      have hdismiss := (Session.worker?_dismiss traffic.session _ id).symm.trans hworker
      simp [h] at hdismiss

/-! ## A worker through a run -/

@[simp] theorem run_nil (traffic : Traffic) : traffic.run [] = traffic :=
  rfl

@[simp] theorem run_cons (traffic : Traffic) (event : Event) (later : List Event) :
    traffic.run (event :: later) = (traffic.step event).run later :=
  rfl

theorem run_append (traffic : Traffic) (events later : List Event) :
    traffic.run (events ++ later) = (traffic.run events).run later :=
  List.foldl_append

theorem run_concat (traffic : Traffic) (events : List Event) (event : Event) :
    traffic.run (events ++ [event]) = (traffic.run events).step event :=
  run_append traffic events [event]

theorem registry_run (traffic : Traffic) (events : List Event) :
    (traffic.run events).session.registry = traffic.session.registry := by
  induction events generalizing traffic with
  | nil => rfl
  | cons event later ih => rw [run_cons, ih, registry_step]

/-- The pipeline of a job after some events: it goes on by half a stage at each event of its
own, on the machine as it is then. -/
def ownFlight (traffic : Traffic) (id : Nat) (flight : Pipeline.Flight) :
    List Event → Pipeline.Flight
  | [] => flight
  | event :: later =>
      ownFlight (traffic.step event) id
        (if event = .advance id then
          (flight.advance traffic.session.registry traffic.machine).1
        else flight)
        later

theorem ownFlight_concat (traffic : Traffic) (id : Nat) (flight : Pipeline.Flight)
    (events : List Event) (event : Event) :
    traffic.ownFlight id flight (events ++ [event]) =
      if event = .advance id then
        ((traffic.ownFlight id flight events).advance traffic.session.registry
          (traffic.run events).machine).1
      else traffic.ownFlight id flight events := by
  induction events generalizing traffic flight with
  | nil => rfl
  | cons first later ih =>
      simp only [List.cons_append, ownFlight, run_cons]
      rw [ih, registry_step]

/-- Where a worker comes from: a background line started its job, and since then its pipeline
has gone on by its own events. -/
def Stems (first : Traffic) (events : List Event) (id : Nat) (worker : Worker) : Prop :=
  ∃ earlier source line later,
    events = earlier ++ .line source :: later ∧
    Line.read? source = some line ∧ line.stages ≠ [] ∧ line.background = true ∧
    id = (first.run earlier).jobs.lastId + 1 ∧
    worker.record = Job.Record.start id line.label (first.run earlier).machine.clock ∧
    worker.flight =
      ((first.run earlier).step (.line source)).ownFlight id
        (Pipeline.Flight.start line.stages ((first.run earlier).session.context (.job id))) later

/-- Every worker stems from a background line. -/
theorem stems_of_worker? {first : Traffic} (hnone : ∀ id, first.session.worker? id = none)
    {events : List Event} {id : Nat} {worker : Worker}
    (h : (first.run events).session.worker? id = some worker) : Stems first events id worker := by
  induction events using List.reverseRecOn generalizing worker with
  | nil =>
      rw [run_nil, hnone] at h
      cases h
  | append_singleton events event ih =>
      rw [run_concat] at h
      cases hbefore : (first.run events).session.worker? id with
      | none =>
          obtain ⟨source, line, rfl, hread, hstages, hbackground, -, hid, rfl⟩ :=
            worker?_step_of_none hbefore h
          exact ⟨events, source, line, [], rfl, hread, hstages, hbackground, hid, rfl, rfl⟩
      | some old =>
          obtain ⟨earlier, source, line, later, rfl, hread, hstages, hbackground, hid, hrecord,
            hflight⟩ := ih hbefore
          -- The replay from the start of the job ends in the session reached so far.
          have hrun : ((first.run earlier).step (.line source)).run later =
              first.run (earlier ++ .line source :: later) := by
            rw [run_append, run_cons]
          have hregistry : ((first.run earlier).step (.line source)).session.registry =
              (first.run (earlier ++ .line source :: later)).session.registry := by
            rw [← hrun, registry_run]
          refine ⟨earlier, source, line, later ++ [event], by simp, hread, hstages, hbackground,
            hid, ?_⟩
          rw [worker?_step_of_some hbefore] at h
          rw [ownFlight_concat, hrun, hregistry, ← hflight]
          split at h
          · next hown =>
              rw [if_pos hown]
              split at h
              · obtain rfl := Option.some.inj h
                exact ⟨hrecord, rfl⟩
              · cases h
          · next hother =>
              rw [if_neg hother]
              obtain rfl := Option.some.inj h
              exact ⟨hrecord, rfl⟩

end Traffic
end Conch
