import Conch.Proofs.Builtin.Requests
import Conch.Proofs.Session.Directory
import Conch.Proofs.Session.Privilege

/-!
# Path discipline

A session over the standard commands that starts in a rooted directory stays in rooted
directories, and so do the pipelines of its foreground lines and of its jobs.  Whatever
happens in it, the files are asked for rooted paths only.  Changes that other programs make
to the files are not requests of the session.
-/

namespace Conch

open Files (Request)

namespace Session

/-- The session on another machine. -/
def withMachine (session : Session) (machine : Machine) : Session :=
  { session with machine := machine }

theorem conclude_withMachine (session : Session) (machine : Machine) (before after : Path)
    (ending : Ending) :
    (session.withMachine machine).conclude before after ending =
      ((session.conclude before after ending).1,
        (session.conclude before after ending).2.withMachine machine) := by
  cases ending with
  | crashed message => rfl
  | returned outcome =>
      by_cases hleft : Path.same before after
      · simp [conclude, moveTo, withMachine, hleft]
      · by_cases hhere : Path.same session.directory after <;>
          simp [conclude, moveTo, withMachine, hleft, hhere]

/-- Starting a job looks at no file. -/
theorem startJob_withFiles (session : Session) (machine : Machine) (files : Files.Store)
    (line : Line) :
    (session.withMachine { machine with files := files }).startJob line =
      let result := (session.withMachine machine).startJob line
      (result.1, result.2.withMachine { result.2.machine with files := files }) := by
  let here := session.withMachine machine
  let elsewhere := session.withMachine { machine with files := files }
  cases hfault : machine.host.workerFault (machine.jobs.lastId + 1) with
  | none =>
      have hhere : here.startJob line = _ := startJob_of_granted hfault line
      have helsewhere : elsewhere.startJob line = _ := startJob_of_granted hfault line
      rw [hhere, helsewhere]
      rfl
  | some error =>
      have hhere : here.startJob line = _ := startJob_of_refused hfault line
      have helsewhere : elsewhere.startJob line = _ := startJob_of_refused hfault line
      rw [hhere, helsewhere]
      rfl

/-- A foreground line leaves the session in its directory or takes it to where the pipeline
ended. -/
theorem rooted_conclude {session : Session} {after : Path}
    (h : Path.Rooted session.directory) (hafter : Path.Rooted after)
    (before : Path) (ending : Ending) :
    Path.Rooted (session.conclude before after ending).2.directory := by
  cases ending with
  | crashed message => exact h
  | returned outcome =>
      simp only [conclude, moveTo]
      split
      · exact h
      · split
        · exact h
        · exact hafter

/-- What a line comes to that is executed at one go, apart from the machine. -/
def executeApart (session : Session) (source : String) (machine : Machine) :
    (Outcome × Session) × Machine :=
  let result := (session.withMachine machine).execute source
  ((result.1, result.2.withMachine .blank), result.2.machine)

section Execute

variable {session : Session} (hregistry : session.registry.StaysRooted)
  (hdirectory : Path.Rooted session.directory)
include hregistry hdirectory

theorem rooted_execute (source : String) :
    Path.Rooted (session.execute source).2.directory := by
  unfold execute
  split
  · exact hdirectory
  · next line _ =>
      split
      · exact hdirectory
      · split
        · rw [directory_startJob]
          exact hdirectory
        · let context := session.context (.line session.lines)
          have hreport := (@Pipeline.asks_run _ hregistry context hdirectory
            line.stages).result (session.machine.makeFlag context.token)
          refine rooted_conclude ?_ hreport _ _
          exact hdirectory

theorem asks_execute (source : String) :
    Asks Request.IsRooted (fun _ => True) (session.executeApart source) := by
  cases hread : Line.read? source with
  | none =>
      refine Asks.apart fun machine files => ?_
      simp only [executeApart, execute, hread, withMachine]
  | some line =>
      by_cases hempty : line.isEmpty = true
      · refine Asks.apart fun machine files => ?_
        simp only [executeApart, execute, hread, withMachine, hempty, if_true]
      · by_cases hbackground : line.background = true
        · refine Asks.apart fun machine files => ?_
          simp only [executeApart, execute, hread, hempty, hbackground, if_true,
            startJob_withFiles]
          rfl
        · -- the flag is made, the pipeline is run, and its end is answered
          let context := session.context (.line session.lines)
          have hflag : Asks Request.IsRooted (fun _ => True) fun machine : Machine =>
              ((), machine.makeFlag context.token) :=
            Asks.apart fun _ _ => rfl
          have hrun := hflag.bind (g := fun _ machine =>
              (Pipeline.run session.registry line.stages context machine).apart)
            fun _ _ => @Pipeline.asks_run _ hregistry context hdirectory line.stages
          refine (hrun.mapAny fun report => Session.conclude
            { session with
              machine := .blank
              lines := session.lines + 1
              calls := session.calls ++ report.2.2 }
            context.directory report.2.1.directory report.1).congr fun machine => ?_
          have hforeground : line.background = false := by simpa using hbackground
          let report := Pipeline.run session.registry line.stages context
            (machine.makeFlag context.token)
          let after : Session :=
            { session with
              machine := report.machine
              lines := session.lines + 1
              calls := session.calls ++ report.calls }
          have hexecute : (session.withMachine machine).execute source =
              after.conclude context.directory report.context.directory report.ending := by
            simp only [execute, hread, hempty, hforeground, Bool.false_eq_true, if_false]
            rfl
          have hblank := conclude_withMachine after .blank context.directory
            report.context.directory report.ending
          obtain ⟨directory, hsession⟩ := conclude_session after context.directory
            report.context.directory report.ending
          simp only [executeApart, hexecute]
          rw [← hblank, hsession]
          rfl

end Execute

end Session

namespace Traffic

/-- What comes of an action, apart from the machine. -/
def actApart (traffic : Traffic) (action : Action) (machine : Machine) : Traffic × Machine :=
  let after := (traffic.withMachine machine).act action
  (after.withMachine .blank, after.machine)

/-- The directory of the session is rooted, and so are those of its pipelines; its commands
stay in rooted directories. -/
structure IsRooted (traffic : Traffic) : Prop where
  registry : traffic.session.registry.StaysRooted
  directory : Path.Rooted traffic.session.directory
  flights : ∀ flight ∈ traffic.flights, flight.IsRooted

theorem answer_withMachine (traffic : Traffic) (before after : Machine) (source : String)
    (result : Outcome × Session) :
    ((traffic.withMachine before).answer source result).withMachine after =
      traffic.answer source (result.1, result.2.withMachine after) :=
  rfl

theorem finish_withMachine (traffic : Traffic) (machine : Machine) (invocation : Invocation)
    (ending : Ending) :
    (traffic.withMachine machine).finish invocation ending =
      (traffic.finish invocation ending).withMachine machine := by
  have hconclude := Session.conclude_withMachine traffic.session machine invocation.before
    invocation.flight.context.directory ending
  simp only [finish, answer, withMachine, Session.withMachine] at hconclude ⊢
  rw [hconclude]

section IsRooted

variable {traffic : Traffic}

theorem IsRooted.directory_step (h : traffic.IsRooted) (event : Event) :
    Path.Rooted (traffic.step event).session.directory := by
  generalize hafter : traffic.step event = after
  cases serves hafter with
  | begins | proceeds => exact h.directory
  | answers hfound hended =>
      exact Session.rooted_conclude h.directory
        (h.flights _ (mem_flights_of_invocation? hfound)).directory _ _
  | passes _ _ _ hdirectory => rw [hdirectory]; exact h.directory

/-- Actions keep a session rooted. -/
theorem IsRooted.act (h : traffic.IsRooted) (action : Action) : (traffic.act action).IsRooted := by
  have hfollows := traffic.follows_act action
  refine ⟨by rw [hfollows.registry]; exact h.registry, ?_, fun flight hmem => ?_⟩
  · cases action with
    | executes source => exact Session.rooted_execute h.registry h.directory source
    | meets event => exact h.directory_step event
  · cases hfollows.flights flight hmem with
    | stays hold => exact h.flights flight hold
    | advances hold =>
        exact (Pipeline.Flight.asks_advance h.registry (h.flights _ hold)).result traffic.machine
    | starts stages token => exact Pipeline.Flight.isRooted_start stages h.directory

theorem IsRooted.asks_proceed (h : traffic.IsRooted) {number : Nat} {invocation : Invocation}
    (hfound : traffic.invocation? number = some invocation) :
    Asks Request.IsRooted (fun _ => True) (traffic.actApart (.meets (.proceed number))) := by
  have hthere : ∀ machine, (traffic.withMachine machine).invocation? number = some invocation :=
    fun _ => hfound
  cases hended : invocation.flight.ending? with
  | some ending =>
      refine Asks.settled ((traffic.finish invocation ending).withMachine .blank) trivial
        fun machine => ?_
      simp only [actApart, Traffic.act, step, proceed_of_ended (hthere machine) hended,
        finish_withMachine]
      rfl
  | none =>
      have hadvance := Pipeline.Flight.asks_advance h.registry
        (h.flights _ (mem_flights_of_invocation? hfound))
      refine (hadvance.mapAny fun after => ({ traffic with
          session := { traffic.session with
            machine := .blank
            calls := traffic.session.calls ++ after.2.toList }
          invocations := traffic.invocations.map fun other =>
            if other.number = invocation.number then { other with flight := after.1 }
            else other } : Traffic)).congr fun machine => ?_
      simp only [actApart, Traffic.act, step, proceed_of_open (hthere machine) hended]
      rfl

theorem IsRooted.asks_advance (h : traffic.IsRooted) (id : Nat) :
    Asks Request.IsRooted (fun _ => True) (traffic.actApart (.meets (.advance id))) := by
  cases hworker : traffic.session.worker? id with
  | none =>
      have hthere : ∀ machine, (traffic.withMachine machine).session.worker? id = none :=
        fun _ => hworker
      refine Asks.settled (traffic.withMachine .blank) trivial fun machine => ?_
      simp only [actApart, Traffic.act, step, Session.advance_of_none (hthere _)]
      rfl
  | some worker =>
      have hthere : ∀ machine, (traffic.withMachine machine).session.worker? id = some worker :=
        fun _ => hworker
      cases hended : worker.flight.ending? with
      | some ending =>
          -- a record is handed in, which is no matter of files
          refine Asks.apart fun machine files => ?_
          simp only [actApart, Traffic.act, step, Session.advance_of_ended (hthere _) hended]
          rfl
      | none =>
          have hadvance := Pipeline.Flight.asks_advance h.registry
            (h.flights _ (mem_flights_of_worker? hworker))
          refine (hadvance.mapAny fun after => ({ traffic with
              session := { traffic.session with
                machine := .blank
                calls := traffic.session.calls ++ after.2.toList
                workers := traffic.session.workers.map fun other =>
                  if other.record.id = worker.record.id then { other with flight := after.1 }
                  else other } } : Traffic)).congr fun machine => ?_
          simp only [actApart, Traffic.act, step, Session.advance_of_open (hthere machine) hended]
          rfl

/-- An action of the session itself asks for rooted paths only. -/
theorem IsRooted.asks_act (h : traffic.IsRooted) {action : Action}
    (hown : ∀ clock files, action ≠ .meets (.world clock files)) :
    Asks Request.IsRooted (fun _ => True) (traffic.actApart action) := by
  -- a line that is answered at once is answered as one that is executed
  have hexecute : ∀ source, Asks Request.IsRooted (fun _ => True)
      (traffic.actApart (.executes source)) := fun source => by
    refine ((Session.asks_execute h.registry h.directory source).mapAny fun result =>
      traffic.answer source result).congr fun machine => ?_
    simp only [actApart, Traffic.act, answer_withMachine]
    rfl
  cases action with
  | executes source => exact hexecute source
  | meets event =>
      cases event with
      | line source =>
          cases hread : Line.read? source with
          | none =>
              refine (hexecute source).congr fun machine => ?_
              simp only [actApart, Traffic.act, step, takeLine, hread]
          | some line =>
              by_cases hanswered : (line.isEmpty || line.background) = true
              · refine (hexecute source).congr fun machine => ?_
                simp only [actApart, Traffic.act, step, takeLine, hread, hanswered, if_true]
              · refine Asks.apart fun machine files => ?_
                simp only [actApart, Traffic.act, step, takeLine, hread, hanswered]
                rfl
      | proceed number =>
          cases hfound : traffic.invocation? number with
          | none =>
              have hnone : ∀ machine, (traffic.withMachine machine).invocation? number = none :=
                fun _ => hfound
              refine Asks.settled (traffic.withMachine .blank) trivial fun machine => ?_
              simp only [actApart, Traffic.act, step, proceed_of_none (hnone _)]
              rfl
          | some invocation =>
              exact h.asks_proceed hfound
      | advance id => exact h.asks_advance id
      | kill id => exact Asks.apart fun _ _ => rfl
      | world clock files => exact absurd rfl (hown clock files)

theorem IsRooted.perform (h : traffic.IsRooted) (actions : List Action) :
    (traffic.perform actions).IsRooted := by
  induction actions generalizing traffic with
  | nil => exact h
  | cons action later ih => exact ih (h.act action)

end IsRooted

theorem isRooted_start {registry : Registry} (hregistry : registry.StaysRooted)
    {directory : Path} (h : Path.Rooted directory) (level : Permission)
    (machine : Machine) : (start registry level directory machine).IsRooted where
  registry := hregistry
  directory := h
  flights := by simp [flights, start, Session.start]

/-- In a session over the standard commands that starts in a rooted directory, whatever has
been done in it, the session and all its pipelines are in rooted directories, and what is done
next asks the files for rooted paths only. -/
theorem disciplined_perform (level : Permission) (directory : Path)
    (hdirectory : Path.Rooted directory) (machine : Machine) (actions : List Action) :
    let traffic := (start Builtin.registry level directory machine).perform actions
    Path.Rooted traffic.session.directory ∧
      (∀ flight ∈ traffic.flights, Path.Rooted flight.context.directory) ∧
      ∀ action, (∀ clock files, action ≠ .meets (.world clock files)) →
        Asks Request.IsRooted (fun _ => True) (traffic.actApart action) := by
  intro traffic
  have hrooted : traffic.IsRooted :=
    (isRooted_start Builtin.registry_staysRooted hdirectory level machine).perform actions
  exact ⟨hrooted.directory, fun flight hmem => (hrooted.flights flight hmem).directory,
    fun action hown => hrooted.asks_act hown⟩

/-- A line that moves the session, and a job that refuses to climb. -/
theorem disciplined_perform_roaming :
    let actions : List Action := [.executes "cd / | pwd", .meets (.line "cd a/.. &"),
      .meets (.advance 1), .meets (.line "ls ."), .meets (.proceed 1)]
    let traffic :=
      (start Builtin.registry .standard (Path.ofText "/home//user") .blank).perform actions
    traffic.session.directory = [Path.slash] ∧ Path.Rooted (Path.ofText "/home//user") ∧
      Path.Rooted traffic.session.directory ∧
      (∀ flight ∈ traffic.flights, Path.Rooted flight.context.directory) ∧
      ∀ action, (∀ clock files, action ≠ .meets (.world clock files)) →
        Asks Request.IsRooted (fun _ => True) (traffic.actApart action) := by
  intro actions traffic
  have hhome : Path.Rooted (Path.ofText "/home//user") := by decide
  have hmoved : traffic.session.directory = [Path.slash] := by decide +kernel
  have hdisciplined := disciplined_perform .standard _ hhome .blank actions
  exact ⟨hmoved, hhome, hdisciplined⟩

end Traffic

end Conch
