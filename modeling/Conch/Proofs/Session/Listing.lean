import Conch.Proofs.Builtin.Handlers
import Conch.Proofs.Builtin.JobRows
import Conch.Proofs.Builtin.Readers
import Conch.Proofs.Job.Flags
import Conch.Proofs.Job.Pruning
import Conch.Proofs.Line.Label
import Conch.Proofs.Session.Foreground
import Conch.Proofs.Session.Orderly
import Conch.Proofs.Session.Privilege

/-!
# The listing of a session

Every command that `jobs` lists is the label of a background line that came in, whatever else
happens in the session: that is what the job table gets from a line, and what a worker holds
until it hands its record in.  So `listed_of_perform` can say of a session when the line `jobs`
is answered faithfully.  It is as long as lines come in that are one line each; a line feed in a
background line stays in its label, and breaks the row.
-/

namespace Conch

namespace Job.Table

/-- The command that an operation brings into a table. -/
def Op.command? : Op → Option String
  | .create command _ => some command
  | .update record => some record.command
  | .kill _ => none

/-- A record has been in a table before some operations, or one of them has brought in its
command. -/
theorem of_get?_foldl {table : Table} {ops : List Op} {id : Nat} {record : Record}
    (hget : (ops.foldl apply table).get? id = some record) :
    table.get? id = some record ∨ ∃ op ∈ ops, op.command? = some record.command := by
  induction ops using List.reverseRecOn generalizing record with
  | nil => exact .inl hget
  | append_singleton ops op ih =>
      rw [List.foldl_append] at hget
      rcases of_get?_apply hget with hbefore | ⟨command, now, rfl, -, rfl⟩ | ⟨rfl, -, -⟩
      · refine (ih hbefore).imp_right ?_
        rintro ⟨earlier, hmem, hcommand⟩
        exact ⟨earlier, List.mem_append_left _ hmem, hcommand⟩
      · exact .inr ⟨.create command now, by simp, rfl⟩
      · exact .inr ⟨.update record, by simp, rfl⟩

/-- All commands that some operations bring in are of some kind. -/
def Bring (named : String → Prop) (ops : List Op) : Prop :=
  ∀ op ∈ ops, ∀ command, op.command? = some command → named command

theorem bring_of_isKill (named : String → Prop) {ops : List Op}
    (hkills : ∀ op ∈ ops, op.isKill = true) : Bring named ops := by
  intro op hop command hcommand
  have hkill := hkills op hop
  cases op with
  | create | update => cases hkill
  | kill => cases hcommand

end Job.Table

namespace Line

/-- A text is the label of a background line. -/
def Starts (source label : String) : Prop :=
  ∃ line, read? source = some line ∧ line.stages ≠ [] ∧ line.background = true ∧
    label = line.label

/-- A label is a part of its line. -/
theorem label_subset {source : String} {line : Line} (h : read? source = some line) :
    line.label.toList ⊆ source.toList := by
  have htrim : ∀ s : List Char, Text.trim s ⊆ s := by
    intro s c hmem
    obtain ⟨u, v, -, -, hend, hwhole⟩ := Text.exists_eq_trim s
    rw [hwhole, hend]
    exact List.mem_append_left v (List.mem_append_right u hmem)
  rw [toList_label h, commandPart]
  cases hdrop : dropAmpersand? (Text.trim source.toList) with
  | none => exact htrim _
  | some rest =>
      have hrest : rest ⊆ Text.trim source.toList := by
        rw [eq_append_of_dropAmpersand? hdrop]
        exact List.subset_append_left rest _
      exact fun c hmem => htrim _ (hrest (htrim _ hmem))

/-- Only a line with a line feed starts a job with one in its label. -/
theorem Starts.isOneLine {source label : String} (h : Starts source label)
    (hsource : IsOneLine source) : IsOneLine label := by
  obtain ⟨line, hread, -, -, rfl⟩ := h
  exact fun hmem => hsource (label_subset hread hmem)

end Line

namespace Builtin

theorem find?_jobs :
    ∃ command, registry.find? "jobs" = some command ∧ command.handler = reporting jobs ∧
      command.needsAdmin = false ∧ command.takesInput = false := by
  have hname : commands[8].name = "jobs" := by decide +kernel
  exact ⟨commands[8], hname ▸ find?_of_mem (List.getElem_mem _), rfl, rfl, rfl⟩

end Builtin

namespace Traffic

open Job (Table)

/-! ## Where the commands come from -/

/-- The commands of a session, of the jobs that are tracked and of those that may still hand in
their records, are of some kind. -/
structure Bears (named : String → Prop) (traffic : Traffic) : Prop where
  sound : traffic.jobs.Sound
  tracked : ∀ id record, traffic.jobs.get? id = some record → named record.command
  held : ∀ id worker, traffic.session.worker? id = some worker → named worker.record.command

/-- The line that comes in with an action. -/
def Action.source? : Action → Option String
  | .executes source => some source
  | .meets (.line source) => some source
  | .meets _ => none

theorem bears_start (named : String → Prop) (registry : Registry) (level : Permission)
    (directory : Path) (machine : Machine) :
    (start registry level directory machine).Bears named where
  sound := Job.Table.sound_empty
  tracked := by simp [start, Session.start, jobs, Table.empty, Table.get?]
  held := by simp [start, Session.start, Session.worker?]

section Bears

variable {traffic : Traffic} {named : String → Prop}

/-- What an event brings into the job table are labels and commands of workers. -/
theorem Bears.bring_of_does (h : traffic.Bears named) {event : Event} {ops : List Table.Op}
    (hdoes : Does (fun op => op.isKill = true) traffic event ops)
    (hlabels : ∀ source, event = .line source → ∀ label, Line.Starts source label → named label) :
    Table.Bring named ops := by
  cases hdoes with
  | idles | begins | turns => exact Table.bring_of_isKill named (by simp)
  | kills => exact Table.bring_of_isKill named (by simp [Table.Op.isKill])
  | proceeds hkills => exact Table.bring_of_isKill named hkills
  | advances _ hkills => exact Table.bring_of_isKill named hkills
  | @starts source line hread hstages hbackground =>
      intro op hop command hcommand
      obtain rfl := List.mem_singleton.mp hop
      obtain rfl := Option.some.inj hcommand
      exact hlabels source rfl _ ⟨line, hread, hstages, hbackground, rfl⟩
  | @refuses source line error hread hstages hbackground =>
      have hlabel := hlabels source rfl _ ⟨line, hread, hstages, hbackground, rfl⟩
      intro op hop command hcommand
      rcases List.mem_pair.mp hop with rfl | rfl
      · obtain rfl := Option.some.inj hcommand
        exact hlabel
      · obtain rfl := Option.some.inj hcommand
        exact hlabel
  | @handsIn id worker ending hworker =>
      intro op hop command hcommand
      obtain rfl := List.mem_singleton.mp hop
      obtain rfl := Option.some.inj hcommand
      have hsame : (Session.finalRecord worker.record ending traffic.machine.clock).command =
          worker.record.command := by cases ending <;> rfl
      rw [hsame]
      exact h.held id worker hworker

/-- Operations on the job table keep the kind of the commands, if they bring in such commands. -/
theorem Bears.tracked_foldl (h : traffic.Bears named) {ops : List Table.Op}
    (hops : Table.Bring named ops) (table : Table) (hslots : table.slots = traffic.jobs.slots)
    {id : Nat} {record : Job.Record} (hget : (ops.foldl Table.apply table).get? id = some record) :
    named record.command := by
  rcases Table.of_get?_foldl hget with hbefore | ⟨op, hop, hcommand⟩
  · exact h.tracked id record (by rwa [Table.get?, hslots] at hbefore)
  · exact hops op hop _ hcommand

theorem Bears.step (h : traffic.Bears named)
    (hkills : traffic.session.registry.Operates fun op => op.isKill = true) {event : Event}
    (hlabels : ∀ source, event = .line source → ∀ label, Line.Starts source label → named label) :
    (traffic.step event).Bears named := by
  obtain ⟨ops, hdoes⟩ := exists_does hkills event
  have hops := h.bring_of_does hdoes hlabels
  -- a flag that is made afresh is no part of what is looked up
  have hslots : (traffic.step event).jobs.slots = (ops.foldl Table.apply traffic.jobs).slots ∧
      (traffic.step event).jobs.Sound := by
    have hsound : (ops.foldl Table.apply traffic.jobs).Sound := h.sound.foldl ops
    rcases jobs_of_does hdoes with hjobs | ⟨token, -, -, hjobs⟩
    · rw [hjobs]
      exact ⟨rfl, hsound⟩
    · rw [hjobs]
      exact ⟨rfl, hsound.withFlags _⟩
  refine ⟨hslots.2, fun id record hget => ?_, fun id worker hworker => ?_⟩
  · rw [Table.get?, hslots.1] at hget
    exact h.tracked_foldl hops traffic.jobs rfl hget
  · cases hbefore : traffic.session.worker? id with
    | none =>
        obtain ⟨source, line, hline, hread, hstages, hbackground, -, -, rfl⟩ :=
          worker?_step_of_none hbefore hworker
        exact hlabels source hline _ ⟨line, hread, hstages, hbackground, rfl⟩
    | some old =>
        have hold := h.held id old hbefore
        rw [worker?_step_of_some hbefore] at hworker
        split at hworker
        · split at hworker
          · obtain rfl := Option.some.inj hworker
            exact hold
          · cases hworker
        · obtain rfl := Option.some.inj hworker
          exact hold

/-- A foreground line that is executed at one go brings in nothing. -/
theorem Bears.answer_runForeground (h : traffic.Bears named)
    (hkills : traffic.session.registry.Operates fun op => op.isKill = true) (source : String)
    (stages : List Line.Stage) :
    (traffic.answer source (traffic.session.runForeground stages)).Bears named := by
  let session := traffic.session
  let context := session.context (.line session.lines)
  let machine := session.machine.makeFlag context.token
  let report := Pipeline.run session.registry stages context machine
  obtain ⟨ops, hops, hjobs⟩ := Pipeline.Flight.run_operates hkills stages context machine
  obtain ⟨directory, hsession⟩ : ∃ directory, (session.runForeground stages).2 =
      { session with
        machine := report.machine
        lines := session.lines + 1
        calls := session.calls ++ report.calls
        directory := directory } := Session.conclude_session _ _ _ _
  have hafter : (traffic.answer source (session.runForeground stages)).jobs =
      ops.foldl Table.apply machine.jobs := by
    rw [← hjobs, jobs, answer, hsession]
  have hmade : machine.jobs.Sound := h.sound.withFlags _
  refine ⟨hafter ▸ hmade.foldl ops, fun id record hget => ?_, fun id worker hworker => ?_⟩
  · rw [hafter] at hget
    exact h.tracked_foldl (Table.bring_of_isKill named hops) machine.jobs rfl hget
  · rw [answer, hsession] at hworker
    exact h.held id worker hworker

/-- What an action brings in are labels of the line that comes with it. -/
theorem Bears.act (h : traffic.Bears named)
    (hkills : traffic.session.registry.Operates fun op => op.isKill = true) {action : Action}
    (hlabels : ∀ source, action.source? = some source → ∀ label, Line.Starts source label →
      named label) : (traffic.act action).Bears named := by
  cases action with
  | meets event =>
      refine h.step hkills fun source hline => hlabels source ?_
      rw [hline]
      rfl
  | executes source =>
      -- any other line than one for the foreground is executed as it is taken
      have htaken : traffic.takeLine source =
          traffic.answer source (traffic.session.execute source) →
          (traffic.act (.executes source)).Bears named := by
        intro hsame
        have hstep : (traffic.step (.line source)).Bears named :=
          h.step hkills fun other hother => by
            obtain rfl := Event.line.inj hother
            exact hlabels _ rfl
        rwa [Traffic.step, hsame] at hstep
      cases hread : Line.read? source with
      | none => exact htaken (by simp [takeLine, hread])
      | some line =>
          by_cases hother : (line.isEmpty || line.background) = true
          · exact htaken (by simp only [takeLine, hread, hother, if_true])
          · have hforeground := h.answer_runForeground hkills source line.stages
            obtain ⟨hempty, hbackground⟩ : line.isEmpty = false ∧ line.background = false := by
              simpa using hother
            rw [Traffic.act, Session.execute, hread]
            simpa only [hempty, hbackground, Bool.false_eq_true, if_false] using hforeground

end Bears

/-- Whatever a session is put to, its commands are labels of background lines that came in. -/
theorem bears_perform {first : Traffic}
    (hkills : first.session.registry.Operates fun op => op.isKill = true)
    {named : String → Prop} (hfirst : first.Bears named) {actions : List Action}
    (hlabels : ∀ action ∈ actions, ∀ source, action.source? = some source →
      ∀ label, Line.Starts source label → named label) : (first.perform actions).Bears named := by
  induction actions using List.reverseRecOn with
  | nil => exact hfirst
  | append_singleton actions action ih =>
      have hbefore := ih fun earlier hmem => hlabels earlier (List.mem_append_left _ hmem)
      rw [perform_concat]
      rw [← registry_perform first actions] at hkills
      exact hbefore.act hkills (hlabels action (by simp))

/-! ## The answer to the line `jobs` -/

/-- The line `jobs` is answered with the rows of the tracked jobs. -/
theorem execute_jobs {session : Session} (hregistry : session.registry = Builtin.registry)
    (hsome : session.machine.jobs.records ≠ []) :
    (session.execute "jobs").1 =
      Outcome.success (Text.unlines
        (session.machine.jobs.records.map (Builtin.jobRow session.machine.clock))) := by
  let stage : Line.Stage := ⟨"jobs", [], .inherit, .inherit⟩
  have hasks : Line.Asks "jobs" [stage] := by decide
  obtain ⟨command, hknown, hhandler, hopen, hdeaf⟩ := Builtin.find?_jobs
  have hoffers : Pipeline.Offers stage 0 none session.nextContext session.nextMachine none :=
    .piped fun _ => rfl
  have hinput : none = if command.takesInput then (none : Option String) else none := by
    rw [hdeaf]
    rfl
  have hstage : Builtin.registry.find? stage.name = some command := hknown
  have hrun := Builtin.runStage_of_reporting hstage hhandler hopen session.isFired_nextMachine rfl
    hoffers hinput
  have hreport : (session.nextReport [stage]).ending =
      .returned (Builtin.jobs [] { session.nextContext with stdin := none }
        session.nextMachine) := by
    rw [Session.nextReport, hregistry, Pipeline.run_singleton _ _ rfl, hrun]
  have hnext : session.nextMachine.jobs.records ≠ [] := hsome
  rw [Session.execute_of_asks hasks (List.cons_ne_nil _ _), hreport,
    Builtin.jobs_of_tracked hnext]
  rfl

/-- **The line `jobs` in a session.**  Whatever the session has been put to, if jobs are tracked,
the line is answered with a listing of them in the order of their ids.  It has a line for each
job and one for each line feed in a command; so it is faithful exactly if no command holds a line
feed.  All commands are labels of background lines that came in, so it is faithful as long as
these lines have been one line each. -/
theorem listed_of_perform (level : Permission) (directory : Path) (machine : Machine)
    (actions : List Action)
    (hsome : ((start Builtin.registry level directory machine).perform actions).jobs.records ≠ []) :
    let traffic := (start Builtin.registry level directory machine).perform actions
    let records := traffic.jobs.records
    records.Pairwise (fun job other => job.id < other.id) ∧
      (∀ job ∈ records, ∃ action ∈ actions, ∃ source,
        action.source? = some source ∧ Line.Starts source job.command) ∧
      ∃ text, (traffic.session.execute "jobs").1 = Outcome.success text ∧
        (Text.linesOf text).length =
          records.length + (records.map fun job => Builtin.feeds job.command).sum ∧
        (Builtin.Faithful records (Text.linesOf text) ↔
          ∀ job ∈ records, IsOneLine job.command) ∧
        ((∀ action ∈ actions, ∀ source, action.source? = some source →
            (∃ label, Line.Starts source label) → IsOneLine source) →
          Builtin.Faithful records (Text.linesOf text)) := by
  intro traffic records
  let named : String → Prop := fun command => ∃ action ∈ actions, ∃ source,
    action.source? = some source ∧ Line.Starts source command
  have hbears : traffic.Bears named :=
    bears_perform Builtin.registry_operates (bears_start _ _ _ _ _) fun action hmem source hsource
      label hstarts => ⟨action, hmem, source, hsource, hstarts⟩
  have hordered : records.Pairwise fun job other => job.id < other.id := by
    refine List.pairwise_map.mp (?_ : (records.map Job.Record.id).Pairwise (· < ·))
    rw [hbears.sound.ids_records]
    exact List.pairwise_map.mpr hbears.sound.ordered
  -- a record is found under its own id, so what is known of the table is known of the rows
  have hlabels : ∀ job ∈ records, named job.command := fun job hjob =>
    hbears.tracked job.id job (hbears.sound.get?_record hjob)
  have hfaithful : Builtin.Faithful records (Builtin.jobLines traffic.machine.clock records) ↔
      ∀ job ∈ records, IsOneLine job.command := Builtin.faithful_iff hsome hordered
  refine ⟨hordered, hlabels, _, execute_jobs (registry_perform _ actions) hsome,
    Builtin.length_jobLines hsome, hfaithful, fun hlines => hfaithful.mpr fun job hjob => ?_⟩
  obtain ⟨action, haction, source, hsource, hstarts⟩ := hlabels job hjob
  exact hstarts.isOneLine (hlines action haction source hsource ⟨_, hstarts⟩)

/-- Two background lines come in, and the second job is done before the first has begun. -/
def overtaking : List Action :=
  [.executes "ls | sort &", .meets (.line "cat missing &"), .meets (.advance 2),
    .meets (.advance 2), .meets (.advance 2)]

theorem listed_of_perform_overtaking :
    let traffic := (start Builtin.registry .standard [Path.slash] .blank).perform overtaking
    traffic.jobs.records ≠ [] ∧ ∃ text,
      (traffic.session.execute "jobs").1 = Outcome.success text ∧
        Builtin.Faithful traffic.jobs.records (Text.linesOf text) := by
  intro traffic
  have hsome : traffic.jobs.records ≠ [] := by decide +kernel
  obtain ⟨-, -, text, hanswer, -, -, hfaithful⟩ :=
    listed_of_perform .standard [Path.slash] .blank overtaking hsome
  refine ⟨hsome, text, hanswer, hfaithful fun action haction source hsource _ => ?_⟩
  simp only [overtaking, List.mem_cons, List.not_mem_nil, or_false] at haction
  rcases haction with rfl | rfl | rfl | rfl | rfl
  · obtain rfl := Option.some.inj hsource
    decide
  · obtain rfl := Option.some.inj hsource
    decide
  all_goals cases hsource

/-- A background line with a line feed comes in, and its job is done. -/
def forging : List Action :=
  [.executes "help\n#2 [running] ls &", .meets (.advance 1), .meets (.advance 1),
    .meets (.advance 1)]

/-- There is one job, and there are two lines.  The second one begins as the row of a job that
nobody has started. -/
theorem listed_of_perform_forging :
    let traffic := (start Builtin.registry .standard [Path.slash] .blank).perform forging
    let lines := Text.linesOf (traffic.session.execute "jobs").1.stdout
    traffic.jobs.records.map Job.Record.id = [1] ∧
      lines = ["#1 [completed] help", "#2 [running] ls exit:0 (0.0s)"] ∧
      (∃ line ∈ lines, Builtin.Names line 2) ∧ ¬Builtin.Faithful traffic.jobs.records lines := by
  intro traffic lines
  have hids : traffic.jobs.records.map Job.Record.id = [1] := by decide +kernel
  have hlines : lines = ["#1 [completed] help", "#2 [running] ls exit:0 (0.0s)"] := by
    decide +kernel
  have hforged : ∃ line ∈ lines, Builtin.Names line 2 := by
    refine ⟨"#2 [running] ls exit:0 (0.0s)", by rw [hlines]; simp, ?_⟩
    exact ⟨"running] ls exit:0 (0.0s)", by decide⟩
  have hone : traffic.jobs.records.length = 1 :=
    (List.length_map _).symm.trans (congrArg List.length hids)
  have htwo : lines.length = 2 := congrArg List.length hlines
  refine ⟨hids, hlines, hforged, fun hfaithful => ?_⟩
  have hlength := hfaithful.length_eq
  omega

end Traffic

end Conch
