import Conch.Builtin.Standard
import Conch.Proofs.Pipeline.Privilege
import Conch.Proofs.Session.Workers

/-!
# Sessions that are not privileged

A session of standard level behaves the same over two registries that differ in the handlers
of commands for privileged pipelines.  The two sessions go through the same states step by
step: `act_onto` is one step, and `standard_act` says that the pipelines of the session, those
of its jobs included, stay at its level and call open handlers only.  Time and scheduling are
part of the list of actions, which is the same for both.
-/

namespace Conch

/-! ## Lines that are executed at one go -/

namespace Session

/-- The session put onto another registry. -/
def onto (session : Session) (registry : Registry) : Session :=
  { session with registry := registry }

theorem conclude_onto (session : Session) (registry : Registry) (before after : Path)
    (ending : Ending) :
    (session.onto registry).conclude before after ending =
      ((session.conclude before after ending).1,
        (session.conclude before after ending).2.onto registry) := by
  cases ending with
  | crashed message => rfl
  | returned outcome =>
      by_cases hleft : Path.same before after
      · simp [conclude, moveTo, onto, hleft]
      · by_cases hhere : Path.same session.directory after <;>
          simp [conclude, moveTo, onto, hleft, hhere]

theorem runForeground_onto {session : Session} {other : Registry}
    (hagrees : session.registry.AgreesOpenly other) (hlevel : session.level = .standard)
    (stages : List Line.Stage) :
    (session.onto other).runForeground stages =
      ((session.runForeground stages).1, (session.runForeground stages).2.onto other) := by
  let token := Token.line session.lines
  let report :=
    Pipeline.run session.registry stages (session.context token) (session.machine.makeFlag token)
  have hreport : Pipeline.run other stages (session.context token)
      (session.machine.makeFlag token) = report :=
    (Pipeline.run_of_agreesOpenly hagrees hlevel stages _).1
  let after : Session :=
    { session with
      machine := report.machine
      lines := session.lines + 1
      calls := session.calls ++ report.calls }
  have hforeground : (session.onto other).runForeground stages =
      (after.onto other).conclude session.directory report.context.directory report.ending := by
    simp only [runForeground, context, onto, token, after] at hreport ⊢
    rw [hreport]
  rw [hforeground, conclude_onto]
  rfl

theorem startJob_onto (session : Session) (other : Registry) (line : Line) :
    (session.onto other).startJob line =
      ((session.startJob line).1, (session.startJob line).2.onto other) := by
  have hhost : (session.onto other).machine = session.machine := rfl
  cases hfault : session.machine.host.workerFault (session.machine.jobs.lastId + 1) with
  | none =>
      rw [startJob_of_granted hfault, startJob_of_granted (by rwa [hhost])]
      rfl
  | some error =>
      rw [startJob_of_refused hfault, startJob_of_refused (by rwa [hhost])]
      rfl

theorem execute_onto {session : Session} {other : Registry}
    (hagrees : session.registry.AgreesOpenly other) (hlevel : session.level = .standard)
    (source : String) :
    (session.onto other).execute source =
      ((session.execute source).1, (session.execute source).2.onto other) := by
  unfold execute
  cases Line.read? source with
  | none => rfl
  | some line =>
      simp only
      split
      · rfl
      · split
        · exact startJob_onto session other line
        · exact runForeground_onto hagrees hlevel line.stages

/-- What a line that is executed at one go leaves behind. -/
theorem runForeground_session (session : Session) (stages : List Line.Stage) :
    ∃ token machine after directory, (session.runForeground stages).2 =
      { session with
        directory := directory
        machine := after
        lines := session.lines + 1
        calls := session.calls ++
          (Pipeline.run session.registry stages (session.context token) machine).calls } := by
  obtain ⟨directory, hsession⟩ := conclude_session _ _ _ _
  exact ⟨_, _, _, directory, hsession⟩

end Session

namespace Traffic

/-- The same lines under way, put onto another registry. -/
def onto (traffic : Traffic) (registry : Registry) : Traffic :=
  { traffic with session := traffic.session.onto registry }

/-- The pipelines under way: those of the jobs and those of the foreground lines. -/
def flights (traffic : Traffic) : List Pipeline.Flight :=
  traffic.session.workers.map Worker.flight ++ traffic.invocations.map Invocation.flight

theorem mem_flights_of_worker? {traffic : Traffic} {id : Nat} {worker : Worker}
    (h : traffic.session.worker? id = some worker) : worker.flight ∈ traffic.flights :=
  List.mem_append_left _ (List.mem_map_of_mem (List.mem_of_find?_eq_some h))

theorem mem_flights_of_invocation? {traffic : Traffic} {number : Nat} {invocation : Invocation}
    (h : traffic.invocation? number = some invocation) : invocation.flight ∈ traffic.flights :=
  List.mem_append_right _ (List.mem_map_of_mem (List.mem_of_find?_eq_some h))

/-- A session of standard level: so are all its pipelines, and only open handlers have been
called. -/
structure Standard (traffic : Traffic) : Prop where
  level : traffic.session.level = .standard
  flights : ∀ flight ∈ traffic.flights, flight.context.level = .standard
  calls : ∀ call ∈ traffic.session.calls, traffic.session.registry.IsOpen call

/-- What a session is put to. -/
inductive Action where
  /-- A line is executed at one go. -/
  | executes (source : String)
  /-- An event happens. -/
  | meets (event : Event)

/-- One action. -/
def act (traffic : Traffic) : Action → Traffic
  | .executes source => traffic.answer source (traffic.session.execute source)
  | .meets event => traffic.step event

/-! ## Two sessions side by side -/

section Over

variable {traffic : Traffic} {other : Registry}

theorem proceed_onto (hagrees : traffic.session.registry.AgreesOpenly other)
    (h : traffic.Standard) (number : Nat) :
    (traffic.onto other).proceed number = (traffic.proceed number).onto other := by
  have hsame : (traffic.onto other).invocation? number = traffic.invocation? number := rfl
  unfold proceed
  rw [hsame]
  cases hfound : traffic.invocation? number with
  | none => rfl
  | some invocation =>
      simp only
      cases invocation.flight.ending? with
      | some ending =>
          have hconclude := traffic.session.conclude_onto other invocation.before
            invocation.flight.context.directory ending
          simp only [finish, answer, onto] at hconclude ⊢
          rw [hconclude]
      | none =>
          have hadvance := Pipeline.Flight.advance_of_agreesOpenly hagrees
            (h.flights _ (mem_flights_of_invocation? hfound)) traffic.session.machine
          simp only [proceedFlight, onto, Session.onto, hadvance]

theorem advance_onto (hagrees : traffic.session.registry.AgreesOpenly other)
    (h : traffic.Standard) (id : Nat) :
    (traffic.session.onto other).advance id = (traffic.session.advance id).onto other := by
  have hsame : (traffic.session.onto other).worker? id = traffic.session.worker? id := rfl
  unfold Session.advance
  rw [hsame]
  cases hfound : traffic.session.worker? id with
  | none => rfl
  | some worker =>
      simp only
      cases worker.flight.ending? with
      | some ending => rfl
      | none =>
          have hadvance := Pipeline.Flight.advance_of_agreesOpenly hagrees
            (h.flights _ (mem_flights_of_worker? hfound)) traffic.session.machine
          simp only [Session.advanceFlight, Session.onto, hadvance]

theorem takeLine_onto (hagrees : traffic.session.registry.AgreesOpenly other)
    (h : traffic.Standard) (source : String) :
    (traffic.onto other).takeLine source = (traffic.takeLine source).onto other := by
  have hexecute := Session.execute_onto hagrees h.level source
  have hanswer : (traffic.onto other).answer source ((traffic.onto other).session.execute source) =
      (traffic.answer source (traffic.session.execute source)).onto other := by
    simp only [answer, onto] at hexecute ⊢
    rw [hexecute]
  unfold takeLine
  cases Line.read? source with
  | none => exact hanswer
  | some line =>
      simp only
      split
      · exact hanswer
      · rfl

/-- Over registries that agree openly an action does the same. -/
theorem act_onto (hagrees : traffic.session.registry.AgreesOpenly other) (h : traffic.Standard)
    (action : Action) : (traffic.onto other).act action = (traffic.act action).onto other := by
  cases action with
  | executes source =>
      have hexecute := Session.execute_onto hagrees h.level source
      simp only [act, answer, onto] at hexecute ⊢
      rw [hexecute]
  | meets event =>
      cases event with
      | line source => exact takeLine_onto hagrees h source
      | proceed number => exact proceed_onto hagrees h number
      | advance id =>
          simp only [act, step, onto]
          rw [advance_onto hagrees h]
      | kill id => rfl
      | world clock files => rfl

end Over

/-! ## What an action adds -/

/-- Where a pipeline under way comes from: it was under way before, it has gone on by half a
stage, or it has just been started. -/
inductive Brings (traffic : Traffic) : Pipeline.Flight → Prop
  | stays {flight : Pipeline.Flight} (hmem : flight ∈ traffic.flights) : Brings traffic flight
  | advances {flight : Pipeline.Flight} (hmem : flight ∈ traffic.flights) :
      Brings traffic (flight.advance traffic.session.registry traffic.machine).1
  | starts (stages : List Line.Stage) (token : Token) :
      Brings traffic (Pipeline.Flight.start stages (traffic.session.context token))

/-- Where a call comes from: it was made before, in a half stage, or in a line that was
executed at one go. -/
inductive Makes (traffic : Traffic) : Call → Prop
  | before {call : Call} (hmem : call ∈ traffic.session.calls) : Makes traffic call
  | advances {flight : Pipeline.Flight} {call : Call} (hmem : flight ∈ traffic.flights)
      (hcall : call ∈ (flight.advance traffic.session.registry traffic.machine).2.2) :
      Makes traffic call
  | runs {stages : List Line.Stage} {token : Token} {machine : Machine} {call : Call}
      (hcall : call ∈ (Pipeline.run traffic.session.registry stages
        (traffic.session.context token) machine).calls) :
      Makes traffic call

/-- What holds after an action. -/
structure Follows (traffic after : Traffic) : Prop where
  level : after.session.level = traffic.session.level
  registry : after.session.registry = traffic.session.registry
  flights : ∀ flight ∈ after.flights, traffic.Brings flight
  calls : ∀ call ∈ after.session.calls, traffic.Makes call

section Follows

variable {traffic : Traffic}

theorem Follows.refl (traffic : Traffic) : traffic.Follows traffic :=
  ⟨rfl, rfl, fun _ => .stays, fun _ => .before⟩

/-- Neither the machine, nor the answers, nor the directory make a difference. -/
theorem Follows.congr {after other : Traffic} (h : traffic.Follows after)
    (hlevel : other.session.level = after.session.level)
    (hregistry : other.session.registry = after.session.registry)
    (hflights : ∀ flight ∈ other.flights, flight ∈ after.flights)
    (hcalls : other.session.calls = after.session.calls) : traffic.Follows other :=
  ⟨hlevel.trans h.level, hregistry.trans h.registry,
    fun flight hmem => h.flights flight (hflights flight hmem),
    fun call hmem => h.calls call (hcalls ▸ hmem)⟩

theorem follows_begin (source : String) (line : Line) :
    traffic.Follows (traffic.begin source line) := by
  refine ⟨rfl, rfl, fun flight hmem => ?_, fun _ hcall => .before hcall⟩
  simp only [flights, begin, List.map_append, List.map_cons, List.map_nil, List.mem_append,
    List.mem_singleton] at hmem
  rcases hmem with hmem | hmem | rfl
  · exact .stays (List.mem_append_left _ hmem)
  · exact .stays (List.mem_append_right _ hmem)
  · exact .starts _ _

theorem follows_startJob (source : String) (line : Line) :
    traffic.Follows (traffic.answer source (traffic.session.startJob line)) := by
  obtain ⟨machine, more, hsession, -, hmore⟩ := traffic.session.startJob_session line
  refine ⟨?_, ?_, fun flight hmem => ?_, fun call hmem => ?_⟩
  · simp only [answer, hsession]
  · simp only [answer, hsession]
  · simp only [flights, answer, hsession, List.map_append, List.mem_append] at hmem
    rcases hmem with (hmem | hmem) | hmem
    · exact .stays (List.mem_append_left _ hmem)
    · obtain ⟨worker, hworker, rfl⟩ := List.mem_map.mp hmem
      obtain ⟨id, -, hflight⟩ := hmore worker hworker
      rw [hflight]
      exact .starts _ _
    · exact .stays (List.mem_append_right _ hmem)
  · simp only [answer, hsession] at hmem
    exact .before hmem

theorem follows_runForeground (source : String) (stages : List Line.Stage) :
    traffic.Follows (traffic.answer source (traffic.session.runForeground stages)) := by
  obtain ⟨token, machine, after, directory, hsession⟩ :=
    traffic.session.runForeground_session stages
  refine ⟨?_, ?_, fun flight hmem => ?_, fun call hmem => ?_⟩
  · simp only [answer, hsession]
  · simp only [answer, hsession]
  · simp only [flights, answer, hsession] at hmem
    exact .stays hmem
  · simp only [answer, hsession] at hmem
    rcases List.mem_append.mp hmem with hmem | hmem
    · exact .before hmem
    · exact .runs hmem

theorem follows_execute (source : String) :
    traffic.Follows (traffic.answer source (traffic.session.execute source)) := by
  have hidle : ∀ outcome, traffic.Follows (traffic.answer source (outcome, traffic.session)) :=
    fun _ => (Follows.refl traffic).congr rfl rfl (fun _ hmem => hmem) rfl
  unfold Session.execute
  split
  · exact hidle _
  · split
    · exact hidle _
    · split
      · exact follows_startJob source _
      · exact follows_runForeground source _

theorem follows_proceed (number : Nat) : traffic.Follows (traffic.proceed number) := by
  unfold proceed
  split
  · exact .refl traffic
  · next invocation hfound =>
      split
      · next ending _ =>
          obtain ⟨directory, hsession⟩ := Session.conclude_session traffic.session
            invocation.before invocation.flight.context.directory ending
          refine (Follows.refl traffic).congr ?_ ?_ (fun flight hmem => ?_) ?_
          · simp only [finish, answer, hsession]
          · simp only [finish, answer, hsession]
          · simp only [flights, finish, answer, hsession, List.mem_append, List.mem_map,
              List.mem_filter] at hmem ⊢
            rcases hmem with hmem | ⟨other, ⟨hother, -⟩, rfl⟩
            · exact .inl hmem
            · exact .inr ⟨other, hother, rfl⟩
          · simp only [finish, answer, hsession]
      · have hmem := mem_flights_of_invocation? hfound
        refine ⟨rfl, rfl, fun flight hflight => ?_, fun call hcall => ?_⟩
        · simp only [flights, proceedFlight, List.map_map, List.mem_append, List.mem_map,
            Function.comp_apply] at hflight
          rcases hflight with hflight | ⟨other, hother, rfl⟩
          · exact .stays (List.mem_append_left _ (List.mem_map.mpr hflight))
          · split
            · exact .advances hmem
            · exact .stays (List.mem_append_right _ (List.mem_map_of_mem hother))
        · simp only [proceedFlight, List.mem_append, Option.mem_toList] at hcall
          rcases hcall with hcall | hcall
          · exact .before hcall
          · exact .advances hmem hcall

theorem follows_advance (id : Nat) :
    traffic.Follows { traffic with session := traffic.session.advance id } := by
  unfold Session.advance
  split
  · exact .refl traffic
  · next worker hfound =>
      split
      · refine (Follows.refl traffic).congr rfl rfl (fun flight hmem => ?_) rfl
        simp only [flights, Session.handIn, Session.store, Session.dismiss, List.mem_append,
          List.mem_map, List.mem_filter] at hmem ⊢
        rcases hmem with ⟨other, ⟨hother, -⟩, rfl⟩ | hmem
        · exact .inl ⟨other, hother, rfl⟩
        · exact .inr hmem
      · have hmem := mem_flights_of_worker? hfound
        refine ⟨rfl, rfl, fun flight hflight => ?_, fun call hcall => ?_⟩
        · simp only [flights, Session.advanceFlight, List.map_map, List.mem_append, List.mem_map,
            Function.comp_apply] at hflight
          rcases hflight with ⟨other, hother, rfl⟩ | hflight
          · split
            · exact .advances hmem
            · exact .stays (List.mem_append_left _ (List.mem_map_of_mem hother))
          · exact .stays (List.mem_append_right _ (List.mem_map.mpr hflight))
        · simp only [Session.advanceFlight, List.mem_append, Option.mem_toList] at hcall
          rcases hcall with hcall | hcall
          · exact .before hcall
          · exact .advances hmem hcall

theorem follows_act (action : Action) : traffic.Follows (traffic.act action) := by
  cases action with
  | executes source => exact follows_execute source
  | meets event =>
      cases event with
      | line source =>
          simp only [act, step, takeLine]
          split
          · exact follows_execute source
          · split
            · exact follows_execute source
            · exact follows_begin source _
      | proceed number => exact follows_proceed number
      | advance id => exact follows_advance id
      | kill id => exact (Follows.refl traffic).congr rfl rfl (fun _ hmem => hmem) rfl
      | world clock files => exact (Follows.refl traffic).congr rfl rfl (fun _ hmem => hmem) rfl

end Follows

/-- Actions keep a session at standard level. -/
theorem standard_act {traffic : Traffic} (h : traffic.Standard) (action : Action) :
    (traffic.act action).Standard := by
  have hfollows := traffic.follows_act action
  refine ⟨hfollows.level.trans h.level, fun flight hmem => ?_, fun call hmem => ?_⟩
  · cases hfollows.flights flight hmem with
    | stays hold => exact h.flights flight hold
    | advances hold => exact (Pipeline.Flight.advance_level _ _ _).trans (h.flights _ hold)
    | starts => exact h.level
  · rw [hfollows.registry]
    cases hfollows.calls call hmem with
    | before hold => exact h.calls call hold
    | advances hold hcall => exact Pipeline.Flight.advance_calls (h.flights _ hold) _ call hcall
    | runs hcall =>
        exact (Pipeline.run_of_agreesOpenly (.refl _) h.level _ _).2 call hcall

/-- Some actions one after another. -/
def perform (traffic : Traffic) (actions : List Action) : Traffic :=
  actions.foldl act traffic

theorem perform_append (traffic : Traffic) (actions later : List Action) :
    traffic.perform (actions ++ later) = (traffic.perform actions).perform later :=
  List.foldl_append

theorem perform_concat (traffic : Traffic) (actions : List Action) (action : Action) :
    traffic.perform (actions ++ [action]) = (traffic.perform actions).act action :=
  perform_append traffic actions [action]

theorem registry_perform (traffic : Traffic) (actions : List Action) :
    (traffic.perform actions).session.registry = traffic.session.registry := by
  induction actions generalizing traffic with
  | nil => rfl
  | cons action later ih => exact (ih _).trans (traffic.follows_act action).registry

/-- Through all actions a session of standard level is the same over registries that agree
openly. -/
theorem perform_onto {traffic : Traffic} {other : Registry}
    (hagrees : traffic.session.registry.AgreesOpenly other) (h : traffic.Standard)
    (actions : List Action) :
    (traffic.onto other).perform actions = (traffic.perform actions).onto other ∧
      (traffic.perform actions).Standard ∧
      (traffic.perform actions).session.registry = traffic.session.registry := by
  induction actions generalizing traffic with
  | nil => exact ⟨rfl, h, rfl⟩
  | cons action later ih =>
      have hregistry := (traffic.follows_act action).registry
      obtain ⟨hover, hstandard, hsame⟩ := ih (by rwa [hregistry]) (standard_act h action)
      refine ⟨?_, hstandard, hsame.trans hregistry⟩
      simp only [perform, List.foldl_cons, act_onto hagrees h]
      exact hover

theorem standard_start (registry : Registry) (directory : Path) (machine : Machine) :
    (start registry .standard directory machine).Standard where
  level := rfl
  flights := by simp [flights, start, Session.start]
  calls := by simp [start, Session.start]

/-- All that anyone can see of a session is the same in another one. -/
structure LooksLike (here there : Traffic) : Prop where
  /-- The lines answered so far, with their outcomes. -/
  answers : there.answers = here.answers
  directory : there.session.directory = here.session.directory
  /-- The files, the job records and the flags. -/
  machine : there.machine = here.machine
  /-- The calls of handlers in order, with their arguments and inputs. -/
  calls : there.session.calls = here.session.calls

/-- Over two registries that differ in the handlers of commands for privileged pipelines, a
session of standard level behaves the same, whatever is put to it, and no such handler is
called. -/
theorem standard_looksLike (registry other : Registry) (hagrees : registry.AgreesOpenly other)
    (directory : Path) (machine : Machine) (actions : List Action) :
    let here := (start registry .standard directory machine).perform actions
    let there := (start other .standard directory machine).perform actions
    LooksLike here there ∧ (∀ call ∈ here.session.calls, registry.IsOpen call) ∧
      ∀ call ∈ there.session.calls, other.IsOpen call := by
  obtain ⟨hover, hhere, hregistry⟩ :=
    perform_onto hagrees (standard_start registry directory machine) actions
  obtain ⟨-, hthere, hother⟩ :=
    perform_onto (.refl other) (standard_start other directory machine) actions
  have hstart : (start registry .standard directory machine).onto other =
      start other .standard directory machine := rfl
  rw [hstart] at hover
  have hopen := hhere.calls
  have hopenToo := hthere.calls
  rw [hregistry] at hopen
  rw [hother] at hopenToo
  exact ⟨⟨by rw [hover]; rfl, by rw [hover]; rfl, by rw [hover]; rfl, by rw [hover]; rfl⟩, hopen,
    hopenToo⟩

/-- A command for privileged pipelines. -/
def vault (handler : Handler) : Command :=
  { Command.named "vault" "Open the vault" handler with needsAdmin := true }

/-- The standard commands with a vault, which is harmless or not. -/
theorem standard_looksLike_vault :
    let harmless : Handler := fun _ _ machine => (.returned (Outcome.success "gold"), machine)
    let harmful : Handler := fun _ _ _ => (.crashed "gone", .blank)
    let actions : List Action := [.executes "pwd | VAULT", .meets (.line "vault &"),
      .meets (.advance 1), .meets (.line "ls"), .meets (.proceed 1), .meets (.proceed 1)]
    let registry := Builtin.registry.register (vault harmless)
    let other := Builtin.registry.register (vault harmful)
    let here := (start registry .standard [Path.slash] .blank).perform actions
    let there := (start other .standard [Path.slash] .blank).perform actions
    registry.AgreesOpenly other ∧ LooksLike here there ∧
      (∀ call ∈ here.session.calls, registry.IsOpen call) ∧
      ∀ call ∈ there.session.calls, other.IsOpen call := by
  intro harmless harmful actions registry other here there
  have hvaults : (vault harmless).AgreesOpenly (vault harmful) :=
    ⟨rfl, rfl, rfl, rfl, rfl, fun h => by cases h⟩
  have hagrees : registry.AgreesOpenly other := (Registry.AgreesOpenly.refl _).register hvaults
  have hlooks := standard_looksLike registry other hagrees [Path.slash] .blank actions
  -- with the names left in, comparing the two statements would run both sessions
  simp only [here, there]
  exact ⟨hagrees, hlooks⟩

end Traffic

end Conch
