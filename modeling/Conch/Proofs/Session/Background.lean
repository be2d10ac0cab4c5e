import Conch.Proofs.Builtin.Handlers
import Conch.Proofs.Line.Background
import Conch.Proofs.Session.Past

/-!
# A line in the foreground and in the background

The worker of a job does the half stages that a foreground run of the same line would have
done when the job was started, as long as the host gives the job a worker, nobody asks it to stop
and nobody else changes files.  Everything else may happen in between: other lines, moves of the
session, other jobs and their kills.  Nothing is said about pipelines that interfere with each
other through files.
-/

namespace Conch

/-- A flag that has just been made is not fired. -/
theorem Machine.isFired_makeFlag (machine : Machine) (token : Token) :
    (machine.makeFlag token).isFired token = false := by
  simp [Machine.isFired, Machine.makeFlag]

namespace Pipeline.Flight

/-- Left to itself, a pipeline with local handlers changes nothing but files. -/
theorem runFor_frame {registry : Registry} {flight : Flight} {machine : Machine}
    (hlocal : IsLocal registry flight.stages)
    (hlive : machine.isFired flight.context.token = false) (count : Nat) :
    let result := runFor registry count flight machine
    (∃ files, result.2.1 = { machine with files := files }) ∧
      result.1.context.token = flight.context.token ∧
      ∀ stage ∈ result.1.stages, stage ∈ flight.stages := by
  induction count with
  | zero => exact ⟨⟨machine.files, rfl⟩, rfl, fun _ hmem => hmem⟩
  | succ count ih =>
      obtain ⟨⟨files, hmachine⟩, htoken, hstages⟩ := ih
      let before := runFor registry count flight machine
      have hlocals : IsLocal registry before.1.stages :=
        fun stage hmem => hlocal stage (hstages stage hmem)
      have hlives : before.2.1.isFired before.1.context.token = false := by
        rw [htoken, hmachine]
        exact hlive
      obtain ⟨next, after, call, hadvance, -⟩ := advance_withToken hlocals rfl hlives hlives
      have hnext := advance_token hadvance
      have hsubset := advance_stages hadvance
      simp only [before] at hadvance hnext hsubset
      simp only [runFor_succ, hadvance]
      refine ⟨⟨after, by rw [hmachine]⟩, hnext.trans htoken, fun stage hmem => ?_⟩
      exact hstages stage (hsubset stage hmem)

end Pipeline.Flight

/-- A final record repeats the answer to a foreground line whose pipeline came to an end. -/
structure Job.Record.Repeats (record : Job.Record) (answer : Outcome) (ending : Ending) : Prop where
  stderr : record.stderr = some answer.stderr
  exitCode : record.exitCode = some answer.exitCode
  returned : ∀ outcome, ending = .returned outcome →
    record.status = .completed ∧ record.stdout = some answer.stdout
  crashed : ∀ message, ending = .crashed message →
    record.status = .failed ∧ answer.stdout = "" ∧ answer.exitCode = 1

theorem repeats_finalRecord (record : Job.Record) (session : Session) (before after : Path)
    (ending : Ending) (now : Nat) :
    (Session.finalRecord record ending now).Repeats (session.conclude before after ending).1
      ending := by
  cases ending with
  | returned outcome => exact ⟨rfl, rfl, fun _ _ => ⟨rfl, rfl⟩, by simp⟩
  | crashed message => exact ⟨rfl, rfl, by simp, fun _ _ => ⟨rfl, rfl, rfl⟩⟩

namespace Session

/-- A worker that goes on never moves the session. -/
theorem advance_directory (session : Session) (id : Nat) :
    (session.advance id).directory = session.directory := by
  unfold advance
  split
  · rfl
  · split
    · rfl
    · rfl

end Session

namespace Traffic

open Job (Table)
open Pipeline (Flight IsLocal)

/-- Nobody kills a job or fires its flag, and nobody but its worker changes files. -/
structure Undisturbed (first : Traffic) (id : Nat) (events : List Event) : Prop where
  running : ∀ earlier, earlier <+: events → (first.run earlier).jobs.phase id = .running
  live : ∀ earlier, earlier <+: events →
    (first.run earlier).machine.isFired (.job id) = false
  files : ∀ earlier event, earlier ++ [event] <+: events → event ≠ .advance id →
    (first.run (earlier ++ [event])).machine.files = (first.run earlier).machine.files

theorem Undisturbed.init {first : Traffic} {id : Nat} {events : List Event} {event : Event}
    (h : Undisturbed first id (events ++ [event])) : Undisturbed first id events where
  running earlier hleads := h.running earlier (hleads.trans (List.prefix_append _ _))
  live earlier hleads := h.live earlier (hleads.trans (List.prefix_append _ _))
  files earlier event hleads := h.files earlier event (hleads.trans (List.prefix_append _ _))

section Ends

variable {traffic : Traffic} {id : Nat} {worker : Worker} {ending : Ending}

/-- A worker at the end of its pipeline hands its record in. -/
theorem jobs_handIn (hworker : traffic.session.worker? id = some worker)
    (hended : worker.flight.ending? = some ending) :
    (traffic.step (.advance id)).jobs =
      traffic.jobs.apply
        (.update (Session.finalRecord worker.record ending traffic.machine.clock)) := by
  simp only [step, jobs, Session.advance_of_ended hworker hended, Session.handIn_jobs]
  rfl

theorem files_handIn (hworker : traffic.session.worker? id = some worker)
    (hended : worker.flight.ending? = some ending) :
    (traffic.step (.advance id)).machine.files = traffic.machine.files := by
  simp only [step, Traffic.machine, Session.advance_of_ended hworker hended]
  rfl

/-- What is handed in while the job is running is stored. -/
theorem jobs_handIn_of_running (hworker : traffic.session.worker? id = some worker)
    (hended : worker.flight.ending? = some ending) (hrunning : traffic.jobs.phase id = .running) :
    (traffic.step (.advance id)).jobs =
      (traffic.jobs.store
        (Session.finalRecord worker.record ending traffic.machine.clock)).prune := by
  have hid : (Session.finalRecord worker.record ending traffic.machine.clock).id = id := by
    rw [Job.id_finalRecord, Session.record_id_of_worker? hworker]
  rw [← hid] at hrunning
  rw [jobs_handIn hworker hended, Table.apply, Table.update_of_running hrunning,
    Option.getD_some]

/-- After that its job is not running any more. -/
theorem phase_handIn (horderly : traffic.session.Orderly)
    (hworker : traffic.session.worker? id = some worker)
    (hended : worker.flight.ending? = some ending) :
    (traffic.step (.advance id)).jobs.phase id ≠ .running := by
  have hid : (Session.finalRecord worker.record ending traffic.machine.clock).id = id := by
    rw [Job.id_finalRecord, Session.record_id_of_worker? hworker]
  rw [jobs_handIn hworker hended]
  intro hrun
  rcases (Table.Sound.running_apply_iff horderly.sound).mp hrun with ⟨-, -, hstatus⟩ | ⟨hcreate, -⟩
  · exact Job.status_finalRecord _ _ _ (hstatus _ rfl hid)
  · simp [Table.Op.isCreate] at hcreate

end Ends

/-- The worker of a job is about to hand in a record that repeats an answer, that will be
stored, and with which no files change. -/
def HandsIn (traffic : Traffic) (id : Nat) (label : String) (startedAt : Nat) (answer : Outcome)
    (ending : Ending) : Prop :=
  ∃ record : Job.Record, record.id = id ∧ record.command = label ∧
    record.startedAt = startedAt ∧ record.Repeats answer ending ∧
    (traffic.step (.advance id)).jobs = (traffic.jobs.store record).prune ∧
    (traffic.step (.advance id)).machine.files = traffic.machine.files

/-- The worker of a job stands where a pipeline on another machine stands, flags aside, and
has the same files around it. -/
structure Mirrors (traffic : Traffic) (id : Nat) (record : Job.Record) (flight : Flight)
    (machine : Machine) : Prop where
  worker : traffic.session.worker? id = some ⟨record, flight.withToken (.job id)⟩
  files : traffic.machine.files = machine.files

section Mirrors

variable {traffic : Traffic} {id : Nat} {record : Job.Record} {flight : Flight}
  {machine : Machine}

/-- The two go on alike. -/
theorem Mirrors.advance (h : Mirrors traffic id record flight machine)
    (hopen : flight.ending? = none) (hlocal : IsLocal traffic.session.registry flight.stages)
    (hlive : machine.isFired flight.context.token = false)
    (hlives : traffic.machine.isFired (.job id) = false) :
    Mirrors (traffic.step (.advance id)) id record
      (flight.advance traffic.session.registry machine).1
      (flight.advance traffic.session.registry machine).2.1 := by
  obtain ⟨next, files, call, hadvance, hother⟩ :=
    Flight.advance_withToken hlocal h.files hlive hlives
  rw [hadvance]
  constructor
  · rw [worker?_step_of_some h.worker, if_pos rfl]
    simp only [Flight.withToken_ending?, hopen, if_true, hother]
  · simp only [step, Traffic.machine, Session.advance_of_open h.worker hopen, Session.advanceFlight]
    rw [show traffic.session.machine = traffic.machine from rfl, hother]

/-- Anything else that leaves the files as they are leaves the two where they are. -/
theorem Mirrors.other (h : Mirrors traffic id record flight machine) {event : Event}
    (hevent : event ≠ .advance id)
    (hfiles : (traffic.step event).machine.files = traffic.machine.files) :
    Mirrors (traffic.step event) id record flight machine where
  worker := by rw [worker?_step_of_some h.worker, if_neg hevent]
  files := hfiles.trans h.files

/-- When the pipeline has ended, the worker hands in a record that repeats its answer. -/
theorem Mirrors.handIn {label : String} {startedAt : Nat} {ending : Ending} {answer : Outcome}
    {session : Session} {before after : Path}
    (h : Mirrors traffic id (Job.Record.start id label startedAt) flight machine)
    (hended : flight.ending? = some ending) (hrunning : traffic.jobs.phase id = .running)
    (hanswer : answer = (session.conclude before after ending).1) :
    HandsIn traffic id label startedAt answer ending := by
  subst hanswer
  have hends : (flight.withToken (.job id)).ending? = some ending := hended
  refine ⟨_, Job.id_finalRecord _ _ _, ?_, ?_, repeats_finalRecord _ session before after ending _,
    jobs_handIn_of_running h.worker hends hrunning, files_handIn h.worker hends⟩
  · cases ending <;> rfl
  · cases ending <;> rfl

end Mirrors

/-- The worker of an undisturbed job stands where a pipeline left to itself stands after as
many half stages.  The induction is on the events; the worker cannot have handed in, for
its job is running. -/
theorem mirrors_of_undisturbed {first : Traffic} {id : Nat} {record : Job.Record}
    {flight : Flight} {machine : Machine} (horderly : ∀ events, (first.run events).session.Orderly)
    (hmirrors : Mirrors first id record flight machine)
    (hlocal : IsLocal first.session.registry flight.stages)
    (hlive : machine.isFired flight.context.token = false) {events : List Event}
    (h : Undisturbed first id events) :
    let result := Flight.runFor first.session.registry (events.count (.advance id)) flight machine
    Mirrors (first.run events) id record result.1 result.2.1 ∧
      ∀ earlier < events.count (.advance id),
        (Flight.runFor first.session.registry earlier flight machine).1.ending? = none := by
  induction events using List.reverseRecOn with
  | nil => exact ⟨hmirrors, fun earlier hearlier => absurd hearlier (Nat.not_lt_zero _)⟩
  | append_singleton events event ih =>
      obtain ⟨hbefore, hopens⟩ := ih h.init
      by_cases hown : event = .advance id
      · subst hown
        have hcount : (events ++ [Event.advance id]).count (.advance id) =
            events.count (.advance id) + 1 := by simp
        rw [hcount, run_concat]
        obtain ⟨⟨files, hmachine⟩, htoken, hstages⟩ :=
          Flight.runFor_frame hlocal hlive (events.count (.advance id))
        -- At the end of its pipeline the worker would have handed in, and the job would not run.
        have hopen : (Flight.runFor first.session.registry (events.count (.advance id)) flight
            machine).1.ending? = none := by
          refine Option.eq_none_iff_forall_ne_some.mpr fun ending hended => ?_
          have hrun := h.running _ (List.prefix_refl _)
          rw [run_concat] at hrun
          exact phase_handIn (horderly events) hbefore.worker hended hrun
        have hregistry := registry_run first events
        refine ⟨?_, fun earlier hearlier => ?_⟩
        · have hnext := hbefore.advance hopen
            (by rw [hregistry]; exact fun stage hmem => hlocal stage (hstages stage hmem))
            (by rw [htoken, hmachine]; exact hlive)
            (h.init.live events (List.prefix_refl _))
          rw [hregistry] at hnext
          exact hnext
        · rcases Nat.lt_succ_iff_lt_or_eq.mp hearlier with hlt | rfl
          · exact hopens earlier hlt
          · exact hopen
      · have hcount : (events ++ [event]).count (.advance id) = events.count (.advance id) := by
          simp [hown]
        have hfiles := h.files events event (List.prefix_refl _) hown
        rw [run_concat] at hfiles
        rw [hcount, run_concat]
        exact ⟨hbefore.other hown hfiles, hopens⟩

/-! ## From the start to the end of a job -/

section Repeats

variable {traffic : Traffic} {source : String} {line : Line}

theorem read?_plain (hread : Line.read? source = some line)
    (hplain : (Text.trim source.toList).getLast? ≠ some '&') :
    line.background = false ∧
      Line.read? (source ++ " &") = some ⟨line.stages, true, source ++ " &"⟩ ∧
      Line.label ⟨line.stages, true, source ++ " &"⟩ = Text.trimmed source := by
  have hblank : ∀ c ∈ " ".toList, Text.isBlank c = true := by
    intro c hc
    obtain rfl : c = ' ' := by simpa using hc
    decide
  have hnone : ∀ c ∈ "".toList, Text.isBlank c = true := by simp
  have hsource : source ++ " " ++ "&" ++ "" = source ++ " &" := by
    apply String.toList_inj.mp
    simp
  have hbehind := Line.read?_background hplain hblank hnone
  have hlabel := Line.label_background source line.stages hblank hnone
  rw [hsource] at hbehind hlabel
  refine ⟨?_, by rw [hbehind, hread]; rfl, hlabel⟩
  simp only [Line.read?, Line.commandPart_of_plain hplain] at hread
  split at hread
  · rw [← Option.some.inj hread]
  · split at hread
    · cases hread
    · rw [← Option.some.inj hread]

end Repeats

/-- The id that the next job will have. -/
def nextId (traffic : Traffic) : Nat :=
  traffic.jobs.lastId + 1

/-- The session in which a line has been started in the background. -/
def inBackground (traffic : Traffic) (source : String) : Traffic :=
  traffic.step (.line (source ++ " &"))

/-- What a foreground run of a line would come to. -/
def foreground (traffic : Traffic) (line : Line) : Pipeline.Report :=
  let token := Token.line traffic.session.lines
  Pipeline.run traffic.session.registry line.stages (traffic.session.context token)
    (traffic.machine.makeFlag token)

/-- Foreground and background agree on a line. -/
structure Agrees (traffic : Traffic) (source : String) (line : Line) : Prop where
  /-- With `&` behind it the line is answered at once. -/
  answer : traffic.session.execute (source ++ " &") =
    (Outcome.success
        ("Started job #" ++ toString traffic.nextId ++ ": " ++ Text.trimmed source),
      (traffic.inBackground source).session)
  begins : Undisturbed (traffic.inBackground source) traffic.nextId []
  /-- No worker ever moves the session. -/
  stays : ∀ events other,
    (((traffic.inBackground source).run events).step (.advance other)).session.directory =
      ((traffic.inBackground source).run events).session.directory
  /-- Undisturbed, the worker does some number of half stages.  After these the files are as a
  foreground run leaves them, and the record repeats its answer. -/
  ends : ∃ limit ≤ 2 * line.stages.length, ∀ events,
    Undisturbed (traffic.inBackground source) traffic.nextId events →
    events.count (.advance traffic.nextId) ≤ limit ∧
    (events.count (.advance traffic.nextId) = limit →
      ((traffic.inBackground source).run events).machine.files =
        (traffic.session.execute source).2.machine.files ∧
      HandsIn ((traffic.inBackground source).run events) traffic.nextId (Text.trimmed source)
        traffic.machine.clock (traffic.session.execute source).1 (traffic.foreground line).ending)

section Agrees

variable {traffic : Traffic} {source : String} {line : Line}

theorem execute_foreground (traffic : Traffic) (hread : Line.read? source = some line)
    (hstages : line.stages ≠ []) (hforeground : line.background = false) :
    (traffic.session.execute source).2.machine.files = (traffic.foreground line).machine.files ∧
      ∃ later : Session, (traffic.session.execute source).1 =
        (later.conclude traffic.session.directory (traffic.foreground line).context.directory
          (traffic.foreground line).ending).1 := by
  have hempty : line.isEmpty = false := by simp [Line.isEmpty, hstages]
  simp only [Session.execute, hread, hempty, hforeground, Bool.false_eq_true, if_false,
    Session.runForeground]
  refine ⟨?_, _, rfl⟩
  obtain ⟨directory, hsession⟩ := Session.conclude_session _ _ _ _
  rw [hsession]
  rfl

theorem execute_background (hread : Line.read? source = some line) (hstages : line.stages ≠ [])
    (hplain : (Text.trim source.toList).getLast? ≠ some '&')
    (hgranted : traffic.machine.host.workerFault traffic.nextId = none) :
    traffic.session.execute (source ++ " &") =
      (Outcome.success
          ("Started job #" ++ toString traffic.nextId ++ ": " ++ Text.trimmed source),
        (traffic.inBackground source).session) := by
  obtain ⟨-, hbehind, hlabel⟩ := read?_plain hread hplain
  have hempty : Line.isEmpty ⟨line.stages, true, source ++ " &"⟩ = false := by
    simp [Line.isEmpty, hstages]
  have hexecute : traffic.session.execute (source ++ " &") =
      traffic.session.startJob ⟨line.stages, true, source ++ " &"⟩ := by
    simp only [Session.execute, hbehind, hempty, Bool.false_eq_true, if_false, if_true]
  have hsession : (traffic.inBackground source).session =
      (traffic.session.startJob ⟨line.stages, true, source ++ " &"⟩).2 := by
    simp only [inBackground, step, takeLine_of_background traffic hbehind hstages rfl, answer]
  rw [hexecute, hsession, Session.startJob_of_granted hgranted, ← hlabel]
  rfl

/-- What a background line leaves behind that has been given a worker. -/
theorem session_inBackground (hread : Line.read? source = some line) (hstages : line.stages ≠ [])
    (hplain : (Text.trim source.toList).getLast? ≠ some '&')
    (hgranted : traffic.machine.host.workerFault traffic.nextId = none) :
    let behind : Line := ⟨line.stages, true, source ++ " &"⟩
    (traffic.inBackground source).session =
      ((traffic.session.createJob behind).2.employ (traffic.session.createJob behind).1
        behind).2 := by
  obtain ⟨-, hbehind, -⟩ := read?_plain hread hplain
  exact session_step_of_granted hbehind hstages rfl hgranted

/-- The worker of a background line begins where a foreground run would begin. -/
theorem mirrors_inBackground (horderly : traffic.session.Orderly)
    (hread : Line.read? source = some line) (hstages : line.stages ≠ [])
    (hplain : (Text.trim source.toList).getLast? ≠ some '&')
    (hgranted : traffic.machine.host.workerFault traffic.nextId = none) :
    Mirrors (traffic.inBackground source) traffic.nextId
      (Job.Record.start traffic.nextId (Text.trimmed source) traffic.machine.clock)
      (Flight.start line.stages (traffic.session.context (.line traffic.session.lines)))
      (traffic.machine.makeFlag (.line traffic.session.lines)) := by
  obtain ⟨-, -, hlabel⟩ := read?_plain hread hplain
  have hsession := session_inBackground hread hstages hplain hgranted
  have hnone : traffic.session.worker? traffic.nextId = none := horderly.worker?_next
  constructor
  · rw [hsession, Session.worker?_employ, hnone, Option.none_or, hlabel]
    exact if_pos rfl
  · rw [machine, hsession]
    rfl

/-- A job begins undisturbed. -/
theorem undisturbed_inBackground (horderly : traffic.session.Orderly)
    (hread : Line.read? source = some line) (hstages : line.stages ≠ [])
    (hplain : (Text.trim source.toList).getLast? ≠ some '&')
    (hgranted : traffic.machine.host.workerFault traffic.nextId = none) :
    Undisturbed (traffic.inBackground source) traffic.nextId [] := by
  have hsession := session_inBackground hread hstages hplain hgranted
  refine ⟨fun earlier hleads => ?_, fun earlier hleads => ?_, fun earlier event hleads => ?_⟩
  · rw [List.prefix_nil.mp hleads, run_nil, jobs, hsession]
    exact Table.Sound.phase_create horderly.sound _ _
  · rw [List.prefix_nil.mp hleads, run_nil, machine, hsession]
    exact Machine.isFired_makeFlag _ _
  · simp at hleads

/-- The number of half stages is that of a foreground run up to its end. -/
theorem agrees_of_orderly (horderly : ∀ events, (traffic.run events).session.Orderly)
    (hread : Line.read? source = some line) (hstages : line.stages ≠ [])
    (hplain : (Text.trim source.toList).getLast? ≠ some '&')
    (hgranted : traffic.machine.host.workerFault traffic.nextId = none)
    (hlocal : IsLocal traffic.session.registry line.stages) : Agrees traffic source line := by
  refine ⟨execute_background hread hstages hplain hgranted,
    undisturbed_inBackground (horderly []) hread hstages hplain hgranted,
    fun events other => Session.advance_directory _ other, ?_⟩
  obtain ⟨hforeground, -⟩ := read?_plain hread hplain
  obtain ⟨hfiles, later, hanswer⟩ :=
    execute_foreground traffic hread hstages hforeground
  obtain ⟨count, hcount, last, hrun, hended, -⟩ := Flight.runFor_start traffic.session.registry
    line.stages (traffic.session.context (.line traffic.session.lines))
    (traffic.machine.makeFlag (.line traffic.session.lines))
  -- the first count at which the foreground run is at its end; beyond it nothing changes
  obtain ⟨limit, hlimit, -, hsame⟩ := Flight.exists_first_end (by rw [hrun]; exact hended)
  rw [hrun] at hsame
  have hregistry : (traffic.inBackground source).session.registry = traffic.session.registry :=
    registry_step traffic _
  have horderlies : ∀ events, ((traffic.inBackground source).run events).session.Orderly :=
    fun events => horderly (.line (source ++ " &") :: events)
  refine ⟨limit, Nat.le_trans hlimit hcount, fun events hundisturbed => ?_⟩
  obtain ⟨hmirrors, hopens⟩ := mirrors_of_undisturbed horderlies
    (mirrors_inBackground (horderly []) hread hstages hplain hgranted)
    (by rw [hregistry]; exact hlocal) (Machine.isFired_makeFlag _ _) hundisturbed
  rw [hregistry] at hmirrors hopens
  have hle : events.count (.advance traffic.nextId) ≤ limit := by
    refine Nat.not_lt.mp fun hlt => ?_
    have hnone := hopens limit hlt
    rw [hsame, hended] at hnone
    cases hnone
  refine ⟨hle, fun heq => ?_⟩
  rw [heq, hsame] at hmirrors
  refine ⟨hmirrors.files.trans hfiles.symm, ?_⟩
  exact hmirrors.handIn hended (hundisturbed.running events (List.prefix_refl _)) hanswer

end Agrees

/-- Foreground and background agree on every line that does not end in `&` and whose
commands are local, in every session that events lead to, provided that the host does not refuse
the job a worker.  Undisturbed, the job does what a foreground run would have done when it was
started, whatever else happens and wherever the session moves.  Handlers can do to the job table
only what its operations do. -/
theorem background_agrees (registry : Registry) (hkind : registry.Operates fun _ => True)
    (level : Permission) (directory : Path) (machine : Machine) (earlier : List Event)
    {source : String} {line : Line} (hread : Line.read? source = some line)
    (hstages : line.stages ≠ []) (hplain : (Text.trim source.toList).getLast? ≠ some '&')
    (hlocal : IsLocal registry line.stages)
    (hgranted : let traffic := (start registry level directory machine).run earlier
      traffic.machine.host.workerFault traffic.nextId = none) :
    Agrees ((start registry level directory machine).run earlier) source line := by
  refine agrees_of_orderly (fun events => ?_) hread hstages hplain hgranted ?_
  · rw [← run_append]
    exact orderly_run hkind (orderly_start registry level directory machine) (earlier ++ events)
  · rw [registry_run]
    exact hlocal

/-- A line of two stages, the first of which moves its pipeline. -/
def roaming : Line :=
  ⟨[⟨"cd", ["/"], .inherit, .inherit⟩, ⟨"pwd", [], .piped, .inherit⟩], false, "cd / | pwd"⟩

theorem background_agrees_roaming :
    let traffic := (start Builtin.registry .standard (Path.ofText "/home") .blank).run
      [.line "pwd &", .advance 1]
    (Builtin.registry.Operates fun _ => True) ∧ Line.read? "cd / | pwd" = some roaming ∧
      roaming.stages ≠ [] ∧ (Text.trim "cd / | pwd".toList).getLast? ≠ some '&' ∧
      IsLocal Builtin.registry roaming.stages ∧
      traffic.machine.host.workerFault traffic.nextId = none ∧
      Agrees traffic "cd / | pwd" roaming := by
  intro traffic
  have hkind : Builtin.registry.Operates fun _ => True :=
    Builtin.registry_operates.mono fun _ _ => trivial
  have hread : Line.read? "cd / | pwd" = some roaming := by decide
  have hplain : (Text.trim "cd / | pwd".toList).getLast? ≠ some '&' := by decide
  have hlocal : IsLocal Builtin.registry roaming.stages :=
    Builtin.isLocal_of_names (by decide)
  have hgranted : traffic.machine.host.workerFault traffic.nextId = none := by decide +kernel
  exact ⟨hkind, hread, by decide, hplain, hlocal, hgranted,
    background_agrees _ hkind _ _ _ _ hread (by decide) hplain hlocal hgranted⟩

end Traffic

end Conch
