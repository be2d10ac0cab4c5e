import Conch.Proofs.Pipeline.Alone
import Conch.Proofs.Session.Directory
import Conch.Proofs.Session.Privilege

/-!
# The directories of a session

Directories come into a session at its start, and later from the commands that set them.  So a
property of directories that these commands keep holds, whatever has been done, of the
directory of the session and of those of all its pipelines.
-/

namespace Conch

section Keeps

variable (P : Path → Prop)

/-- If the property holds of the directory in which a command runs, it holds of the one that
the command sets. -/
def Command.Keeps (command : Command) : Prop :=
  command.setsDirectory = true → ∀ args context machine outcome, P context.directory →
    (command.handler args context machine).1 = .returned outcome → outcome.isSuccess = true →
    P (Path.ofText outcome.stdout)

/-- All commands of a registry keep the property. -/
def Registry.Keeps (registry : Registry) : Prop :=
  ∀ command ∈ registry.commands, command.Keeps P

/-- The property holds of the directory of a pipeline, and of the one it is about to set. -/
structure Pipeline.Flight.Keeps (flight : Flight) : Prop where
  directory : P flight.context.directory
  leaving : ∀ command outcome, flight.phase = .leaving command outcome →
    command.setsDirectory = true → outcome.isSuccess = true →
    P (Path.ofText outcome.stdout)

/-- The property holds of the directory of a session and of those of its pipelines, and its
commands keep it. -/
structure Traffic.Keeps (traffic : Traffic) : Prop where
  registry : traffic.session.registry.Keeps P
  directory : P traffic.session.directory
  flights : ∀ flight ∈ traffic.flights, flight.Keeps P

end Keeps

variable {P : Path → Prop}

/-! ## Pipelines -/

namespace Pipeline.Flight

variable {registry : Registry}

theorem keeps_start (stages : List Line.Stage) {context : Context} (h : P context.directory) :
    (start stages context).Keeps P where
  directory := by
    unfold start
    split
    · exact h
    · split <;> exact h
  leaving command outcome hphase := absurd hphase (start_phase_ne stages context command outcome)

/-- One half stage keeps the property. -/
theorem Keeps.advance {flight : Flight} (h : flight.Keeps P) (hregistry : registry.Keeps P)
    (machine : Machine) : (flight.advance registry machine).1.Keeps P := by
  have hdirectory : P (flight.advance registry machine).1.context.directory := by
    rcases flight.advance_directory registry machine with
      hsame | ⟨command, outcome, hphase, hsets, hsuccess, -, hset⟩
    · rw [hsame]
      exact h.directory
    · rw [hset]
      exact h.leaving command outcome hphase hsets hsuccess
  refine ⟨hdirectory, ?_⟩
  generalize hresult : flight.advance registry machine = result
  intro command outcome hphase hsets hsuccess
  cases moves hresult with
  | rests => exact h.leaving command outcome hphase hsets hsuccess
  | runsOut | crashed => cases hphase
  | refused | left => exact absurd hphase (afterStage_phase_ne _ _ _ _ _ _)
  | @called stage _ found input _ after _ _ henter hcall =>
      obtain ⟨rfl, rfl⟩ := Phase.leaving.inj hphase
      have hmem := Registry.mem_of_find? (enter_eq_ok_iff.mp henter).1.known
      exact hregistry found hmem hsets stage.args { flight.context with stdin := input } machine _
        h.directory (by rw [hcall]) hsuccess

theorem Keeps.runFor {flight : Flight} (h : flight.Keeps P) (hregistry : registry.Keeps P)
    (machine : Machine) (count : Nat) : (runFor registry count flight machine).1.Keeps P := by
  induction count with
  | zero => exact h
  | succ count ih => exact ih.advance hregistry _

end Pipeline.Flight

/-- A pipeline executed at one go keeps the property. -/
theorem Pipeline.keeps_run {registry : Registry} (hregistry : registry.Keeps P)
    (stages : List Line.Stage) {context : Context} (h : P context.directory) (machine : Machine) :
    P (Pipeline.run registry stages context machine).context.directory := by
  obtain ⟨count, -, last, hrun, -, hdirectory⟩ :=
    Flight.runFor_start registry stages context machine
  have hkeeps := (Flight.keeps_start stages h).runFor hregistry machine count
  rw [hrun] at hkeeps
  rw [← hdirectory]
  exact hkeeps.directory

/-! ## Sessions -/

namespace Session

variable {session : Session}

theorem keeps_conclude {after : Path} (h : P session.directory) (hafter : P after)
    (before : Path) (ending : Ending) :
    P (session.conclude before after ending).2.directory := by
  cases ending with
  | crashed message => exact h
  | returned outcome =>
      simp only [conclude, moveTo]
      split
      · exact h
      · split
        · exact h
        · exact hafter

theorem keeps_execute (hregistry : session.registry.Keeps P) (h : P session.directory)
    (source : String) : P (session.execute source).2.directory := by
  unfold execute
  split
  · exact h
  · next line _ =>
    split
    · exact h
    · split
      · rw [directory_startJob]
        exact h
      · let context := session.context (.line session.lines)
        have hbefore : P context.directory := h
        have hafter := Pipeline.keeps_run hregistry line.stages hbefore
          (session.machine.makeFlag context.token)
        refine keeps_conclude ?_ hafter _ _
        exact h

end Session

namespace Traffic

variable {traffic : Traffic}

theorem Keeps.directory_step (h : traffic.Keeps P) (event : Event) :
    P (traffic.step event).session.directory := by
  generalize hafter : traffic.step event = after
  cases serves hafter with
  | begins | proceeds => exact h.directory
  | answers hfound =>
      exact Session.keeps_conclude h.directory
        (h.flights _ (mem_flights_of_invocation? hfound)).directory _ _
  | passes _ _ _ hdirectory =>
      rw [hdirectory]
      exact h.directory

/-- What is done in a session keeps the property. -/
theorem Keeps.act (h : traffic.Keeps P) (action : Action) : (traffic.act action).Keeps P := by
  have hfollows := traffic.follows_act action
  refine ⟨by rw [hfollows.registry]; exact h.registry, ?_, fun flight hmem => ?_⟩
  · cases action with
    | executes source => exact Session.keeps_execute h.registry h.directory source
    | meets event => exact h.directory_step event
  · cases hfollows.flights flight hmem with
    | stays hold => exact h.flights flight hold
    | advances hold => exact (h.flights _ hold).advance h.registry traffic.machine
    | starts stages token => exact Pipeline.Flight.keeps_start stages h.directory

theorem Keeps.perform (h : traffic.Keeps P) (actions : List Action) :
    (traffic.perform actions).Keeps P := by
  induction actions generalizing traffic with
  | nil => exact h
  | cons action later ih => exact ih (h.act action)

theorem keeps_start {registry : Registry} (hregistry : registry.Keeps P) {directory : Path}
    (h : P directory) (level : Permission) (machine : Machine) :
    (start registry level directory machine).Keeps P where
  registry := hregistry
  directory := h
  flights := by simp [flights, start, Session.start]

end Traffic

end Conch
