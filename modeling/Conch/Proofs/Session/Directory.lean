import Conch.Proofs.Session.Invocations

/-!
# Who moves a session

A foreground line moves the session when it is answered, and only if its pipeline ended
without a crash in another directory than the one that the line read when it was begun.  So
the session is always where the latest such line ended, and a line that stayed where it was
leaves alone what others have done in the meantime.  Directories are compared as paths,
`Path.same`, and handlers are arbitrary.
-/

namespace Conch

namespace Path

theorem same_refl (path : Path) : same path path = true := by
  simp [same]

end Path

/-! ## The directory of a pipeline -/

namespace Pipeline

/-- A context is left as it is, or takes over the output of a command that sets the directory. -/
theorem adoptDirectory_cases (command : Command) (outcome : Outcome) (context : Context) :
    adoptDirectory command outcome context = context ∨
      command.setsDirectory = true ∧ outcome.isSuccess = true ∧ outcome.stdout ≠ "" ∧
        adoptDirectory command outcome context =
          { context with directory := Path.ofText outcome.stdout } := by
  unfold adoptDirectory
  split
  · next hsets =>
      simp only [Bool.and_eq_true, Bool.not_eq_true', String.isEmpty_eq_false_iff] at hsets
      exact .inr ⟨hsets.1.1, hsets.1.2, hsets.2, rfl⟩
  · exact .inl rfl

theorem adoptDirectory_directory (command : Command) (outcome : Outcome) (context : Context) :
    (adoptDirectory command outcome context).directory = context.directory ∨
      command.setsDirectory = true ∧ outcome.isSuccess = true ∧ outcome.stdout ≠ "" ∧
        (adoptDirectory command outcome context).directory = Path.ofText outcome.stdout := by
  rcases adoptDirectory_cases command outcome context with
    hsame | ⟨hsets, hsuccess, hsome, hadopted⟩
  · exact .inl (congrArg Context.directory hsame)
  · exact .inr ⟨hsets, hsuccess, hsome, congrArg Context.directory hadopted⟩

/-- A pipeline in flight keeps its directory, except where it leaves a stage whose command
sets the directory and has succeeded with an output. -/
theorem Flight.advance_directory (registry : Registry) (flight : Flight) (machine : Machine) :
    (flight.advance registry machine).1.context.directory = flight.context.directory ∨
      ∃ command outcome, flight.phase = .leaving command outcome ∧
        command.setsDirectory = true ∧ outcome.isSuccess = true ∧ outcome.stdout ≠ "" ∧
        (flight.advance registry machine).1.context.directory = Path.ofText outcome.stdout := by
  generalize hresult : flight.advance registry machine = result
  cases moves hresult with
  | rests | runsOut | crashed | called => exact .inl rfl
  | refused => simp
  | @left stage _ command outcome _ context _ hphase _ hleave =>
      have hcontext := leave_context command stage outcome flight.context machine
      rw [hleave] at hcontext
      subst hcontext
      simp only [afterStage_context]
      rcases adoptDirectory_directory command outcome flight.context with hsame | hsets
      · exact .inl hsame
      · exact .inr ⟨command, outcome, hphase, hsets⟩

end Pipeline

namespace Traffic

/-- A foreground line is about to leave a stage that sets the directory of its pipeline: its
command does so, and has succeeded with an output. -/
def Sets (traffic : Traffic) (number : Nat) (directory : Path) : Prop :=
  ∃ invocation command outcome, traffic.invocation? number = some invocation ∧
    invocation.flight.phase = .leaving command outcome ∧ command.setsDirectory = true ∧
    outcome.isSuccess = true ∧ outcome.stdout ≠ "" ∧ Path.ofText outcome.stdout = directory

/-- The pipeline of a foreground line is in the directory that the line read, or in one that a
stage of its own has set. -/
theorem directory_of_invocation? {first : Traffic} (hnone : first.invocations = [])
    {events : List Event} {number : Nat} {invocation : Invocation}
    (h : (first.run events).invocation? number = some invocation) :
    invocation.flight.context.directory = invocation.before ∨
      ∃ earlier, earlier ++ [.proceed number] <+: events ∧
        (first.run earlier).Sets number invocation.flight.context.directory := by
  induction events using List.reverseRecOn generalizing invocation with
  | nil =>
      rw [run_nil, invocation?, hnone] at h
      cases h
  | append_singleton events event ih =>
      rw [run_concat] at h
      cases hbefore : (first.run events).invocation? number with
      | none =>
          obtain ⟨source, line, -, -, -, -, -, rfl⟩ := invocation?_step_of_none hbefore h
          exact .inl rfl
      | some old =>
          -- what held before still holds if this event does not set the directory
          have hold : old.flight.context.directory = old.before ∨
              ∃ earlier, earlier ++ [.proceed number] <+: events ++ [event] ∧
                (first.run earlier).Sets number old.flight.context.directory := by
            refine (ih hbefore).imp_right ?_
            rintro ⟨earlier, hleads, hsets⟩
            exact ⟨earlier, hleads.trans (List.prefix_append events [event]), hsets⟩
          rw [invocation?_step_of_some hbefore] at h
          split at h
          · next hown =>
              subst hown
              split at h
              · obtain rfl := Option.some.inj h
                rcases Pipeline.Flight.advance_directory (first.run events).session.registry
                  old.flight (first.run events).machine with
                  hsame | ⟨command, outcome, hphase, hdoes, hsuccess, houtput, hset⟩
                · simp only [hsame]
                  exact hold
                · exact .inr ⟨events, List.prefix_refl _, old, command, outcome, hbefore, hphase,
                    hdoes, hsuccess, houtput, hset.symm⟩
              · cases h
          · obtain rfl := Option.some.inj h
            exact hold

/-! ## Moves of the session -/

/-- An event answers a foreground line whose pipeline has ended without a crash in another
directory than the one that the line read. -/
structure Commits (traffic : Traffic) (event : Event) (invocation : Invocation) : Prop where
  event : event = .proceed invocation.number
  found : traffic.invocation? invocation.number = some invocation
  returned : ∃ outcome, invocation.flight.ending? = some (.returned outcome)
  elsewhere :
    Path.same invocation.before invocation.flight.context.directory = false

/-- Nothing else moves the session. -/
theorem directory_step {traffic : Traffic} {event : Event}
    (h : ∀ invocation, ¬ traffic.Commits event invocation) :
    (traffic.step event).session.directory = traffic.session.directory := by
  generalize hafter : traffic.step event = after
  cases serves hafter with
  | begins | proceeds => rfl
  | passes _ _ _ hdirectory => exact hdirectory
  | @answers number invocation ending hfound hended =>
      cases ending with
      | crashed message => rfl
      | returned outcome =>
          simp only [finish, answer, Session.conclude, Session.moveTo]
          split
          · rfl
          · next helsewhere =>
              have hnumber := number_of_invocation? hfound
              subst hnumber
              exact absurd ⟨rfl, hfound, ⟨outcome, hended⟩, by simpa using helsewhere⟩
                (h invocation)

/-- Such a line takes the session to where its pipeline ended.  If the session is there
already, it keeps its own spelling of the directory. -/
theorem Commits.directory_step {traffic : Traffic} {event : Event} {invocation : Invocation}
    (h : traffic.Commits event invocation) :
    Path.same (traffic.step event).session.directory
      invocation.flight.context.directory = true := by
  obtain ⟨rfl, hfound, ⟨outcome, hended⟩, helsewhere⟩ := h
  rw [step, proceed_of_ended hfound hended]
  simp only [finish, answer, Session.conclude, Session.moveTo, helsewhere, Bool.false_eq_true,
    if_false]
  split
  · next hthere => exact hthere
  · exact Path.same_refl _

/-! ## Moves in a run -/

/-- No event of a run moves the session. -/
def Unmoved (first : Traffic) (events : List Event) : Prop :=
  ∀ earlier event, earlier ++ [event] <+: events →
    ∀ invocation, ¬ (first.run earlier).Commits event invocation

/-- Where a session is after a run. -/
inductive Stands (first : Traffic) (events : List Event) : Prop
  /-- No foreground line has moved it. -/
  | unmoved (hnone : Unmoved first events)
      (hsame : (first.run events).session.directory = first.session.directory) :
      Stands first events
  /-- It is where the latest foreground line that moved it ended. -/
  | moved {earlier later : List Event} {event : Event} {invocation : Invocation}
      (hevents : events = earlier ++ event :: later) (hbegun : Begun first earlier invocation)
      (hcommits : (first.run earlier).Commits event invocation)
      (hlatest : Unmoved ((first.run earlier).step event) later)
      (hsame : Path.same (first.run events).session.directory
        invocation.flight.context.directory = true) :
      Stands first events

theorem unmoved_concat_iff {first : Traffic} {events : List Event} {event : Event} :
    Unmoved first (events ++ [event]) ↔
      Unmoved first events ∧ ∀ invocation, ¬ (first.run events).Commits event invocation := by
  constructor
  · intro h
    exact ⟨fun earlier other hleads =>
      h earlier other (hleads.trans (List.prefix_append events [event])),
      h events event (List.prefix_refl _)⟩
  · rintro ⟨hbefore, hlast⟩ earlier other hleads
    rcases List.prefix_concat_iff.mp hleads with heq | hinit
    · obtain ⟨rfl, hsame⟩ := List.append_inj' heq rfl
      obtain rfl := List.singleton_inj.mp hsame
      exact hlast
    · exact hbefore earlier other hinit

theorem unmoved_nil (first : Traffic) : Unmoved first [] := by
  intro earlier event hleads
  simp at hleads

/-- After every run the session stands where it should.  The induction is on the events from
the end: a line that moves the session is the latest one, and nothing else matters. -/
theorem stands_run {first : Traffic} (hnone : first.invocations = []) (events : List Event) :
    Stands first events := by
  induction events using List.reverseRecOn with
  | nil => exact .unmoved (unmoved_nil first) rfl
  | append_singleton events event ih =>
      by_cases hmoves : ∃ invocation, (first.run events).Commits event invocation
      · obtain ⟨invocation, hcommits⟩ := hmoves
        refine .moved rfl (begun_of_invocation? hnone hcommits.found).1 hcommits
          (unmoved_nil _) ?_
        rw [run_concat]
        exact hcommits.directory_step
      · push Not at hmoves
        have hstays : (first.run (events ++ [event])).session.directory =
            (first.run events).session.directory := by
          rw [run_concat, directory_step hmoves]
        cases ih with
        | unmoved hbefore hsame =>
            exact .unmoved (unmoved_concat_iff.mpr ⟨hbefore, hmoves⟩) (hstays.trans hsame)
        | @moved earlier later mover invocation hevents hbegun hcommits hlatest hsame =>
            have hlonger : events ++ [event] = earlier ++ mover :: (later ++ [event]) := by
              simp [hevents]
            refine .moved hlonger hbegun hcommits ?_ ?_
            · refine unmoved_concat_iff.mpr ⟨hlatest, ?_⟩
              rw [← run_cons, ← run_append, ← hevents]
              exact hmoves
            · rw [hstays]
              exact hsame

/-- None of the events of a foreground line moves the session. -/
def StaysPut (first : Traffic) (events : List Event) (number : Nat) : Prop :=
  ∀ earlier, earlier ++ [.proceed number] <+: events →
    (first.run (earlier ++ [.proceed number])).session.directory =
      (first.run earlier).session.directory

/-- The pipeline of a foreground line crashes at some time in a run. -/
def Crashes (first : Traffic) (events : List Event) (number : Nat) : Prop :=
  ∃ earlier invocation message, earlier <+: events ∧
    (first.run earlier).invocation? number = some invocation ∧
    invocation.flight.ending? = some (.crashed message)

/-- A foreground line without a stage that sets the directory has not moved its pipeline. -/
theorem staysPut_of_not_sets {first : Traffic} (hnone : first.invocations = [])
    {events : List Event} {number : Nat}
    (h : ∀ earlier directory, earlier ++ [.proceed number] <+: events →
      ¬ (first.run earlier).Sets number directory) :
    StaysPut first events number := by
  intro earlier hleads
  rw [run_concat]
  refine directory_step fun invocation hcommits => ?_
  obtain ⟨hevent, hfound, -, helsewhere⟩ := hcommits
  obtain rfl := Event.proceed.inj hevent
  rcases directory_of_invocation? hnone hfound with hstayed | ⟨before, hbefore, hsets⟩
  · rw [hstayed, Path.same_refl] at helsewhere
    cases helsewhere
  · exact h before _ (hbefore.trans ((List.prefix_append _ _).trans hleads)) hsets

/-- An ended pipeline is the same at all times until its answer. -/
theorem eq_of_ended {first : Traffic} (hnone : first.invocations = []) {events : List Event}
    {earlier later : List Event} (hearlier : earlier <+: events) (hlater : later <+: events)
    {number : Nat} {invocation other : Invocation} {ending end' : Ending}
    (hfound : (first.run earlier).invocation? number = some invocation)
    (hended : invocation.flight.ending? = some ending)
    (hother : (first.run later).invocation? number = some other)
    (hends : other.flight.ending? = some end') : other = invocation := by
  rcases List.prefix_or_prefix_of_prefix hearlier hlater with ⟨between, rfl⟩ | ⟨between, rfl⟩
  · rw [run_append] at hother
    exact invocation?_run_of_ended hfound hended (begun_of_invocation? hnone hfound).2 hother
  · rw [run_append] at hfound
    exact (invocation?_run_of_ended hother hends (begun_of_invocation? hnone hother).2
      hfound).symm

theorem staysPut_of_crashes {first : Traffic} (hnone : first.invocations = [])
    {events : List Event} {number : Nat} (h : Crashes first events number) :
    StaysPut first events number := by
  obtain ⟨crashed, invocation, message, hcrashed, hfound, hended⟩ := h
  intro earlier hleads
  rw [run_concat]
  refine directory_step fun other hcommits => ?_
  obtain ⟨hevent, hother, ⟨outcome, hreturned⟩, -⟩ := hcommits
  obtain rfl := Event.proceed.inj hevent
  obtain rfl := eq_of_ended hnone hcrashed ((List.prefix_append _ _).trans hleads) hfound hended
    hother hreturned
  rw [hended] at hreturned
  cases hreturned

/-- No move of a session is lost. -/
structure KeepsMoves (first : Traffic) (events : List Event) : Prop where
  /-- The session is where the latest line that moved it ended. -/
  stands : Stands first events
  /-- A foreground line none of whose stages sets the directory never moves it. -/
  steady : ∀ number, (∀ earlier directory, earlier ++ [.proceed number] <+: events →
    ¬ (first.run earlier).Sets number directory) → StaysPut first events number
  /-- Nor does one whose handler crashes. -/
  crashed : ∀ number, Crashes first events number → StaysPut first events number
  /-- Nor do the workers of jobs, the lines that come in, kills, or the world around. -/
  beside : ∀ earlier event, earlier ++ [event] <+: events →
    (∀ number, event ≠ .proceed number) →
    (first.run (earlier ++ [event])).session.directory = (first.run earlier).session.directory

/-- In every session over any commands, whatever the order of the steps of its foreground
lines and its jobs, no move is lost. -/
theorem keepsMoves_run (registry : Registry) (level : Permission) (directory : Path)
    (machine : Machine) (events : List Event) :
    KeepsMoves (start registry level directory machine) events where
  stands := stands_run rfl events
  steady _ h := staysPut_of_not_sets rfl h
  crashed _ h := staysPut_of_crashes rfl h
  beside earlier event _ hbeside := by
    rw [run_concat]
    exact directory_step fun invocation hcommits => hbeside _ hcommits.event

/-- A command that moves its pipeline to a directory. -/
def mover (directory : String) : Command :=
  { Command.named "go" "Go away" fun _ _ machine =>
      (.returned (Outcome.success directory), machine) with setsDirectory := true }

/-- A line that takes its time while another one moves the session. -/
theorem keepsMoves_run_slow :
    let registry := (Registry.empty.register (mover "/away")).register
      (Command.named "hold" "Take one's time" fun _ _ machine =>
        (.returned (Outcome.success "done"), machine))
    let events : List Event := [.line "hold", .proceed 0, .line "go", .proceed 1, .proceed 1,
      .proceed 1, .proceed 0, .proceed 0]
    let first := start registry .standard (Path.ofText "/home") .blank
    KeepsMoves first events ∧ (first.run events).session.directory = Path.ofText "/away" ∧
      (first.run events).answers = [("go", ⟨"/away", "", 0⟩), ("hold", ⟨"done", "", 0⟩)] := by
  intro registry events first
  exact ⟨keepsMoves_run registry .standard (Path.ofText "/home") .blank events, by decide +kernel,
    by decide +kernel⟩

end Traffic
end Conch
