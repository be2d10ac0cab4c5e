import Conch.Proofs.Builtin.Handlers
import Conch.Proofs.Pipeline.Writing
import Conch.Proofs.Session.Invocations
import Conch.Proofs.Session.Privilege

/-!
# What a session does to the files

Over the standard commands a session touches files only by the redirections of its stages.
`Traffic.Edits` lists the edits of every action, and the files after some actions are those
before them with these edits made one after another: whatever comes later, and whatever
fails, an edit stands until the next one of the same file.  Changes that other programs make
come in between as they like; nothing is said about what happens to files while they do.
-/

namespace Conch

open Files (Edit EditedBy Framed)
open Pipeline (Flight IsRun RunEdits Turn)

namespace Builtin

/-- The standard commands keep files as they are. -/
theorem registry_keepsFiles : registry.KeepsFiles := by
  intro command hmem args context machine
  rcases handler_of_mem hmem with hhandler | ⟨run, hhandler⟩
  · rw [hhandler]
    unfold killjobs
    split
    · rfl
    · split
      · rfl
      · split <;> rfl
  · rw [hhandler]
    rfl

end Builtin

/-! ## Lines executed at one go -/

namespace Session

/-- The edits of a line that is executed at one go. -/
inductive Edits (session : Session) (source : String) : List (Option Edit) → Prop
  /-- No pipeline is run: the line cannot be read, asks for nothing, goes to the background, or
  has too many stages. -/
  | idles (hidle : ∀ line, Line.read? source = some line →
      line.stages = [] ∨ line.background = true ∨ Limits.stages < line.stages.length) :
      Edits session source []
  /-- The pipeline of the line is run, and its turns make the edits. -/
  | runs {line : Line} {turns : List Turn} {last : Turn} {edits : List (Option Edit)}
      (hread : Line.read? source = some line) (hforeground : line.background = false)
      (hcount : line.stages.length ≤ Limits.stages)
      (hturns : IsRun session.registry 0 none (session.context (.line session.lines))
        (session.machine.makeFlag (.line session.lines)) line.stages turns)
      (hlast : turns.getLast? = some last) (hedits : RunEdits session.registry 0 turns edits) :
      Edits session source edits

theorem conclude_machine (session : Session) (before after : Path) (ending : Ending) :
    (session.conclude before after ending).2.machine = session.machine := by
  obtain ⟨directory, hsession⟩ := conclude_session session before after ending
  rw [hsession]

theorem exists_edits {session : Session} (hkeeps : session.registry.KeepsFiles)
    (source : String) :
    ∃ edits, session.Edits source edits ∧
      EditedBy session.machine.files edits (session.execute source).2.machine.files := by
  unfold execute
  cases hread : Line.read? source with
  | none => exact ⟨[], .idles (by simp [hread]), .nil _⟩
  | some line =>
      simp only
      have hidle : (line.stages = [] ∨ line.background = true ∨
          Limits.stages < line.stages.length) → session.Edits source [] := fun hline =>
        .idles fun other hother => by
          obtain rfl := Option.some.inj (hread.symm.trans hother)
          exact hline
      split
      · next hempty => exact ⟨[], hidle (.inl (List.isEmpty_iff.mp hempty)), .nil _⟩
      · next hsome =>
          have hstages : line.stages ≠ [] := fun heq => hsome (by simp [Line.isEmpty, heq])
          split
          · next hbackground =>
              refine ⟨[], hidle (.inr (.inl hbackground)), ?_⟩
              rw [files_startJob]
              exact .nil _
          · next hforeground =>
              -- where the pipeline ends may move the session, but its machine stays as it is
              simp only [runForeground, conclude_machine]
              rcases Nat.lt_or_ge Limits.stages line.stages.length with hlong | hcount
              · refine ⟨[], hidle (.inr (.inr hlong)), ?_⟩
                rw [Pipeline.machine_run_of_tooLong _ hlong]
                exact .nil _
              · obtain ⟨turns, last, edits, hlast, hturns, hedits, hafter⟩ :=
                  Pipeline.exists_edits_run hkeeps hstages hcount
                    (session.context (.line session.lines))
                    (session.machine.makeFlag (.line session.lines))
                exact ⟨edits, .runs hread (by simpa using hforeground) hcount hturns hlast hedits,
                  hafter⟩

end Session

namespace Traffic

/-! ## One action -/

/-- An event lets a pipeline go on. -/
inductive LetsGoOn (traffic : Traffic) : Event → Flight → Prop
  | foreground {number : Nat} {invocation : Invocation}
      (h : traffic.invocation? number = some invocation) :
      LetsGoOn traffic (.proceed number) invocation.flight
  | background {id : Nat} {worker : Worker} (h : traffic.session.worker? id = some worker) :
      LetsGoOn traffic (.advance id) worker.flight

/-- The edits of an action. -/
inductive Edits (traffic : Traffic) : Action → List (Option Edit) → Prop
  /-- A line is executed at one go. -/
  | executes {source : String} {edits : List (Option Edit)}
      (h : traffic.session.Edits source edits) : Edits traffic (.executes source) edits
  /-- A pipeline goes on by half a stage, or is at its end. -/
  | goesOn {event : Event} {flight : Flight} {edit? : Option Edit}
      (hflight : traffic.LetsGoOn event flight) (h : flight.Edits traffic.machine edit?) :
      Edits traffic (.meets event) [edit?]
  /-- No pipeline goes on. -/
  | rests {event : Event} (hnone : ∀ flight, ¬ traffic.LetsGoOn event flight) :
      Edits traffic (.meets event) []

theorem edits_of_ended {flight : Flight} {ending : Ending}
    (h : flight.ending? = some ending) (machine : Machine) : flight.Edits machine none :=
  .elsewhere fun command outcome hphase => by simp [Flight.ending?, hphase] at h

theorem files_takeLine (traffic : Traffic) (source : String) :
    (traffic.takeLine source).machine.files = traffic.machine.files := by
  by_cases hidle : ∀ line, Line.read? source = some line → line.stages = []
  · obtain ⟨outcome, htake⟩ := takeLine_of_idle traffic hidle
    rw [htake]
    rfl
  · push Not at hidle
    obtain ⟨line, hread, hstages⟩ := hidle
    cases hbackground : line.background with
    | true =>
        rw [takeLine_of_background traffic hread hstages hbackground]
        exact traffic.session.files_startJob line
    | false =>
        rw [takeLine_of_foreground traffic hread hstages hbackground]
        rfl

/-- What an action of the session does to the files. -/
theorem exists_edits {traffic : Traffic} (hkeeps : traffic.session.registry.KeepsFiles)
    {action : Action}
    (hown : ∀ clock files, action = .meets (.world clock files) → files = traffic.machine.files) :
    ∃ edits, traffic.Edits action edits ∧
      EditedBy traffic.machine.files edits (traffic.act action).machine.files := by
  -- an event that lets no pipeline go on leaves the files as they are
  have hrests : ∀ event, (∀ flight, ¬ traffic.LetsGoOn event flight) →
      (traffic.step event).machine.files = traffic.machine.files →
      ∃ edits, traffic.Edits (.meets event) edits ∧
        EditedBy traffic.machine.files edits (traffic.step event).machine.files :=
    fun event hnone hfiles => ⟨[], .rests hnone, hfiles ▸ .nil _⟩
  -- one that does makes the edit of the half stage, if the pipeline is not at its end
  have hgoesOn : ∀ event flight, traffic.LetsGoOn event flight →
      (flight.ending? = none → (traffic.step event).machine =
        (flight.advance traffic.session.registry traffic.machine).2.1) →
      (∀ ending, flight.ending? = some ending →
        (traffic.step event).machine.files = traffic.machine.files) →
      ∃ edits, traffic.Edits (.meets event) edits ∧
        EditedBy traffic.machine.files edits (traffic.step event).machine.files := by
    intro event flight hflight hopen hended
    cases hending : flight.ending? with
    | some ending =>
        refine ⟨[none], .goesOn hflight (edits_of_ended hending _), .keeps ?_⟩
        rw [hended ending hending]
        exact .nil _
    | none =>
        obtain ⟨edit?, hmakes, hfiles, hfits⟩ := Pipeline.Flight.exists_edit hkeeps flight
          traffic.machine
        refine ⟨[edit?], .goesOn hflight hmakes, .cons hfits ?_⟩
        rw [hopen hending, hfiles]
        exact .nil _
  cases action with
  | executes source =>
      obtain ⟨edits, hmakes, hafter⟩ := Session.exists_edits hkeeps source
      exact ⟨edits, .executes hmakes, hafter⟩
  | meets event =>
      cases event with
      | line source =>
          exact hrests _ (fun _ h => by cases h) (files_takeLine traffic source)
      | proceed number =>
          cases hfound : traffic.invocation? number with
          | none =>
              refine hrests _ (fun flight h => ?_) ?_
              · cases h with
                | foreground hother => rw [hfound] at hother; cases hother
              · rw [step, proceed_of_none hfound]
          | some invocation =>
              refine hgoesOn _ _ (.foreground hfound) (fun hopen => ?_) fun ending hended => ?_
              · rw [step, proceed_of_open hfound hopen]
                rfl
              · rw [step, proceed_of_ended hfound hended]
                exact congrArg Machine.files (Session.conclude_machine _ _ _ _)
      | advance id =>
          cases hworker : traffic.session.worker? id with
          | none =>
              refine hrests _ (fun flight h => ?_) ?_
              · cases h with
                | background hother => rw [hworker] at hother; cases hother
              · rw [step, Session.advance_of_none hworker]
          | some worker =>
              refine hgoesOn _ _ (.background hworker) (fun hopen => ?_) fun ending hended => ?_
              · rw [step, Session.advance_of_open hworker hopen]
                rfl
              · rw [step, Session.advance_of_ended hworker hended]
                rfl
      | kill id => exact hrests _ (fun _ h => by cases h) rfl
      | world clock files =>
          exact hrests _ (fun _ h => by cases h) (hown clock files rfl)

/-! ## Many actions -/

/-- A pipeline that is about to leave a stage has called the handler of the stage at some time
before, on the machine as it was then. -/
def HasCalled (first : Traffic) (actions : List Action) (flight : Flight) : Prop :=
  ∀ command outcome, flight.phase = .leaving command outcome →
    ∃ earlier stage rest input after, earlier <+: actions ∧ flight.stages = stage :: rest ∧
      Pipeline.Calls first.session.registry stage flight.index flight.piped flight.context
        (first.perform earlier).machine command input (.returned outcome) after

theorem hasCalled_of_mem_flights {first : Traffic} (hnone : first.flights = [])
    {actions : List Action} {flight : Flight} (h : flight ∈ (first.perform actions).flights) :
    first.HasCalled actions flight := by
  induction actions using List.reverseRecOn generalizing flight with
  | nil =>
      have hmem : flight ∈ first.flights := h
      rw [hnone] at hmem
      cases hmem
  | append_singleton actions action ih =>
      rw [perform_concat] at h
      intro command outcome hphase
      cases ((first.perform actions).follows_act action).flights flight h with
      | stays hold =>
          obtain ⟨earlier, stage, rest, input, after, hleads, hcalls⟩ :=
            ih hold command outcome hphase
          exact ⟨earlier, stage, rest, input, after,
            hleads.trans (List.prefix_append actions [action]), hcalls⟩
      | @advances before hold =>
          -- the half stage before this one was the one that called the handler
          obtain ⟨stage, rest, input, hstages, hcalls⟩ :=
            Pipeline.Flight.calls_of_advance (Eq.refl (before.advance _ _)) hphase
          rw [← registry_perform first actions]
          exact ⟨actions, stage, rest, input, _, List.prefix_append actions [action], hstages,
            hcalls⟩
      | starts stages token =>
          exact absurd hphase (Flight.start_phase_ne _ _ _ _)

/-- While some actions happen after others, nobody else changes files; time may pass. -/
def OwnFiles (first : Traffic) (earlier later : List Action) : Prop :=
  ∀ i clock files, later[i]? = some (.meets (.world clock files)) →
    files = (first.perform (earlier ++ later.take i)).machine.files

theorem OwnFiles.init {first : Traffic} {earlier later : List Action} {action : Action}
    (h : OwnFiles first earlier (later ++ [action])) : OwnFiles first earlier later := by
  intro i clock files hworld
  have hlt : i < later.length := (List.getElem?_eq_some_iff.mp hworld).1
  have hfiles := h i clock files (by rw [List.getElem?_append_left hlt, hworld])
  rwa [List.take_append_of_le_length (Nat.le_of_lt hlt)] at hfiles

/-- What some actions of a session, which come after others, do to the files. -/
structure FramedRun (first : Traffic) (earlier later : List Action)
    (edits : List (List (Option Edit))) : Prop where
  length : edits.length = later.length
  /-- Every action makes its own edits. -/
  each : ∀ i action own, later[i]? = some action → edits[i]? = some own →
    (first.perform (earlier ++ later.take i)).Edits action own
  /-- Taken together they are all that happens to the files. -/
  framed : Framed (first.perform earlier).machine.files edits.flatten
    (first.perform (earlier ++ later)).machine.files
  /-- What a stage writes has come from its handler. -/
  hasCalled : ∀ i flight, flight ∈ (first.perform (earlier ++ later.take i)).flights →
    first.HasCalled (earlier ++ later.take i) flight

/-- The edits of actions, one after another.  The induction is on the actions from the end. -/
theorem exists_edits_perform {first : Traffic} (hkeeps : first.session.registry.KeepsFiles)
    {earlier later : List Action} (hlater : OwnFiles first earlier later) :
    ∃ edits : List (List (Option Edit)), edits.length = later.length ∧
      (∀ i action own, later[i]? = some action → edits[i]? = some own →
        (first.perform (earlier ++ later.take i)).Edits action own) ∧
      EditedBy (first.perform earlier).machine.files edits.flatten
        (first.perform (earlier ++ later)).machine.files := by
  induction later using List.reverseRecOn with
  | nil =>
      refine ⟨[], rfl, by simp, ?_⟩
      rw [List.append_nil]
      exact .nil _
  | append_singleton later action ih =>
      obtain ⟨edits, hlength, heach, hbefore⟩ := ih hlater.init
      have hregistry : (first.perform (earlier ++ later)).session.registry.KeepsFiles := by
        rw [registry_perform]
        exact hkeeps
      have hown : ∀ clock files, action = .meets (.world clock files) →
          files = (first.perform (earlier ++ later)).machine.files := fun clock files heq => by
        simpa using hlater later.length clock files (by simp [heq])
      obtain ⟨own, hmakes, hafter⟩ := exists_edits hregistry hown
      refine ⟨edits ++ [own], by simp [hlength], fun i other another hother hanother => ?_, ?_⟩
      · rcases Nat.lt_or_ge i later.length with hlt | hge
        · rw [List.getElem?_append_left hlt] at hother
          rw [List.getElem?_append_left (by omega)] at hanother
          rw [List.take_append_of_le_length (Nat.le_of_lt hlt)]
          exact heach i other another hother hanother
        · -- the last action
          obtain rfl : i = later.length := by
            have hbound : i < (later ++ [action]).length :=
              (List.getElem?_eq_some_iff.mp hother).1
            simp only [List.length_append, List.length_singleton] at hbound
            omega
          obtain rfl : action = other := by simpa using hother
          obtain rfl : own = another := by simpa [← hlength] using hanother
          simpa using hmakes
      · rw [← List.append_assoc, perform_concat, List.flatten_append, List.flatten_singleton]
        exact hbefore.append hafter

/-- In a session over the standard commands, whatever has been done in it and whatever files
there are, actions change files only by the redirections of their stages. -/
theorem framed_perform (level : Permission) (directory : Path) (machine : Machine)
    (earlier later : List Action)
    (hlater : OwnFiles (start Builtin.registry level directory machine) earlier later) :
    ∃ edits, FramedRun (start Builtin.registry level directory machine) earlier later edits := by
  obtain ⟨edits, hlength, heach, hafter⟩ :=
    exists_edits_perform Builtin.registry_keepsFiles hlater
  exact ⟨edits, hlength, heach, hafter.framed, fun i flight hmem =>
    hasCalled_of_mem_flights rfl hmem⟩

/-- A directory with one short file. -/
def homely (bytes : List UInt8) : Files.Store :=
  ⟨[([Path.ofText "home"], .directory), ([Path.ofText "home", Path.ofText "f"], .file bytes)],
    [], []⟩

/-- A file that is put behind itself, by a line and by a job. -/
theorem framed_perform_doubled :
    let first := start Builtin.registry .standard [Path.slash]
      { Machine.blank with files := homely [120, 10] }
    let later : List Action := [.executes "cat f >> f",
      .meets (.line "cd / > g | cat f > home/f &"),
      .meets (.world 5 (homely [120, 10, 120, 10])), .meets (.advance 1), .meets (.advance 1)]
    OwnFiles first [.executes "cd home"] later ∧
      (∃ edits, FramedRun first [.executes "cd home"] later edits) ∧
      (first.perform ([.executes "cd home"] ++ later)).machine.files =
        (homely [120, 10, 120, 10]).put [Path.ofText "g"] (.file [47]) := by
  intro first later
  have howns : OwnFiles first [.executes "cd home"] later := by
    intro i clock files hworld
    match i with
    | 2 =>
        obtain ⟨-, rfl⟩ := Event.world.inj (Action.meets.inj (Option.some.inj hworld))
        decide +kernel
    | 0 | 1 | 3 | 4 => cases hworld
    | i + 5 => cases hworld
  exact ⟨howns, framed_perform .standard [Path.slash] _ _ later howns, by decide +kernel⟩

end Traffic

end Conch
