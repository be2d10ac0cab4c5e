import Conch.Proofs.Session.Workers

/-!
# The foreground lines of a session

The foreground lines under way as a map from numbers.  A line comes in under the number that
is next, goes on at the events of its number and at no others, and does not change any more
once its pipeline has ended.  After its answer its number is not used again.
-/

namespace Conch

/-- A job leaves alone the count of lines and the directory of the session. -/
theorem Session.advance_keeps (session : Session) (id : Nat) :
    (session.advance id).lines = session.lines ∧
      (session.advance id).directory = session.directory := by
  cases hworker : session.worker? id with
  | none =>
      rw [Session.advance_of_none hworker]
      exact ⟨rfl, rfl⟩
  | some worker =>
      cases hended : worker.flight.ending? with
      | none =>
          rw [Session.advance_of_open hworker hended]
          exact ⟨rfl, rfl⟩
      | some ending =>
          rw [Session.advance_of_ended hworker hended]
          exact ⟨rfl, rfl⟩

namespace Traffic

open Pipeline (Flight)

/-! ## Foreground lines by number -/

theorem number_of_invocation? {traffic : Traffic} {number : Nat} {invocation : Invocation}
    (h : traffic.invocation? number = some invocation) : invocation.number = number := by
  simpa using List.find?_some h

theorem invocation?_begin (traffic : Traffic) (source : String) (line : Line) (number : Nat) :
    (traffic.begin source line).invocation? number =
      (traffic.invocation? number).or
        (if number = traffic.session.lines then
          some
            ⟨number, source, traffic.session.directory,
              Flight.start line.stages (traffic.session.context (.line number))⟩
        else none) := by
  simp only [invocation?, begin, List.find?_append]
  congr 1
  by_cases hnumber : number = traffic.session.lines
  · simp [hnumber]
  · have hother : traffic.session.lines ≠ number := fun h => hnumber h.symm
    simp [hnumber, hother]

theorem invocation?_finish (traffic : Traffic) (invocation : Invocation) (ending : Ending)
    (number : Nat) :
    (traffic.finish invocation ending).invocation? number =
      if number = invocation.number then none else traffic.invocation? number := by
  simp only [invocation?, finish, answer, List.find?_filter]
  by_cases hnumber : number = invocation.number
  · simp [hnumber]
  · rw [if_neg hnumber]
    congr 1
    funext other
    by_cases hother : other.number = number <;> simp [hother, hnumber]

theorem invocation?_proceedFlight (traffic : Traffic) (invocation : Invocation) (number : Nat) :
    (traffic.proceedFlight invocation).invocation? number =
      if number = invocation.number then
        (traffic.invocation? number).map fun other =>
          { other with
            flight := (invocation.flight.advance traffic.session.registry traffic.machine).1 }
      else traffic.invocation? number := by
  simp only [invocation?, proceedFlight, List.find?_map, Function.comp_def]
  -- the lines keep their numbers, so the same one is found
  have hsame : ∀ other : Invocation,
      (if other.number = invocation.number then
        { other with
          flight :=
            (invocation.flight.advance traffic.session.registry traffic.session.machine).1 }
      else other).number = other.number := fun other => by split <;> rfl
  simp only [hsame]
  cases hfind : traffic.invocations.find? fun other => decide (other.number = number) with
  | none => simp
  | some found =>
      have hfound : found.number = number := by simpa using List.find?_some hfind
      by_cases hnumber : number = invocation.number <;> simp [hfound, hnumber, machine]

/-! ## The three ways in which a foreground line goes on -/

section Proceed

variable {traffic : Traffic} {number : Nat} {invocation : Invocation}

theorem proceed_of_none (h : traffic.invocation? number = none) :
    traffic.proceed number = traffic := by
  simp only [proceed, h]

theorem proceed_of_ended {ending : Ending} (h : traffic.invocation? number = some invocation)
    (hended : invocation.flight.ending? = some ending) :
    traffic.proceed number = traffic.finish invocation ending := by
  simp only [proceed, h, hended]

theorem proceed_of_open (h : traffic.invocation? number = some invocation)
    (hopen : invocation.flight.ending? = none) :
    traffic.proceed number = traffic.proceedFlight invocation := by
  simp only [proceed, h, hopen]

end Proceed

/-- Only a foreground line adds to those under way or uses up a number. -/
theorem takeLine_of_answered (traffic : Traffic) {source : String}
    (h : ∀ line, Line.read? source = some line → line.stages = [] ∨ line.background = true) :
    (traffic.takeLine source).invocations = traffic.invocations ∧
      (traffic.takeLine source).session.lines = traffic.session.lines ∧
      (traffic.takeLine source).session.directory = traffic.session.directory := by
  by_cases hidle : ∀ line, Line.read? source = some line → line.stages = []
  · obtain ⟨outcome, htake⟩ := takeLine_of_idle traffic hidle
    rw [htake]
    exact ⟨rfl, rfl, rfl⟩
  · push Not at hidle
    obtain ⟨line, hread, hstages⟩ := hidle
    have hbackground := (h line hread).resolve_left hstages
    obtain ⟨machine, more, hsession, -, -⟩ := traffic.session.startJob_session line
    rw [takeLine_of_background traffic hread hstages hbackground, answer, hsession]
    exact ⟨rfl, rfl, rfl⟩

/-- What an event does to the foreground lines. -/
inductive Serves (traffic : Traffic) : Event → Traffic → Prop
  /-- A foreground line comes in. -/
  | begins {source : String} {line : Line} (hread : Line.read? source = some line)
      (hstages : line.stages ≠ []) (hforeground : line.background = false) :
      Serves traffic (.line source) (traffic.begin source line)
  /-- A foreground line whose pipeline has ended is answered. -/
  | answers {number : Nat} {invocation : Invocation} {ending : Ending}
      (hfound : traffic.invocation? number = some invocation)
      (hended : invocation.flight.ending? = some ending) :
      Serves traffic (.proceed number) (traffic.finish invocation ending)
  /-- A foreground line goes on by half a stage. -/
  | proceeds {number : Nat} {invocation : Invocation}
      (hfound : traffic.invocation? number = some invocation)
      (hopen : invocation.flight.ending? = none) :
      Serves traffic (.proceed number) (traffic.proceedFlight invocation)
  /-- Anything else is of no concern to them, and leaves the session where it is. -/
  | passes {event : Event} {after : Traffic}
      (hother : ∀ number, event = .proceed number → traffic.invocation? number = none)
      (hinvocations : after.invocations = traffic.invocations)
      (hlines : after.session.lines = traffic.session.lines)
      (hdirectory : after.session.directory = traffic.session.directory) :
      Serves traffic event after

/-- Every event does one of these. -/
theorem serves {traffic after : Traffic} {event : Event} (h : traffic.step event = after) :
    Serves traffic event after := by
  subst h
  cases event with
  | line source =>
      by_cases hanswered :
          ∀ line, Line.read? source = some line → line.stages = [] ∨ line.background = true
      · obtain ⟨hinvocations, hlines, hdirectory⟩ := takeLine_of_answered traffic hanswered
        exact .passes (by simp) hinvocations hlines hdirectory
      · push Not at hanswered
        obtain ⟨line, hread, hstages, hbackground⟩ := hanswered
        have hforeground : line.background = false := by simpa using hbackground
        rw [step, takeLine_of_foreground traffic hread hstages hforeground]
        exact .begins hread hstages hforeground
  | proceed number =>
      rw [step]
      cases hfound : traffic.invocation? number with
      | none =>
          rw [proceed_of_none hfound]
          refine .passes (fun other hother => ?_) rfl rfl rfl
          cases hother
          exact hfound
      | some invocation =>
          cases hended : invocation.flight.ending? with
          | none =>
              rw [proceed_of_open hfound hended]
              exact .proceeds hfound hended
          | some ending =>
              rw [proceed_of_ended hfound hended]
              exact .answers hfound hended
  | advance id =>
      obtain ⟨hlines, hdirectory⟩ := Session.advance_keeps traffic.session id
      exact .passes (by simp) rfl hlines hdirectory
  | kill id => exact .passes (by simp) rfl rfl rfl
  | world clock files => exact .passes (by simp) rfl rfl rfl

/-! ## What becomes of a foreground line -/

theorem invocation?_congr {traffic after : Traffic}
    (h : after.invocations = traffic.invocations) (number : Nat) :
    after.invocation? number = traffic.invocation? number := by
  simp only [invocation?, h]

/-- A foreground line goes on, or leaves with its answer, at an event of its own number only. -/
theorem invocation?_step_of_some {traffic : Traffic} {number : Nat} {invocation : Invocation}
    (h : traffic.invocation? number = some invocation) (event : Event) :
    (traffic.step event).invocation? number =
      if event = .proceed number then
        if invocation.flight.ending? = none then
          some
            { invocation with
              flight :=
                (invocation.flight.advance traffic.session.registry traffic.machine).1 }
        else none
      else some invocation := by
  generalize hafter : traffic.step event = after
  cases serves hafter with
  | begins =>
      rw [if_neg (by simp), invocation?_begin, h, Option.some_or]
  | @answers target other ending hfound hended =>
      rw [invocation?_finish, number_of_invocation? hfound]
      by_cases hnumber : number = target
      · subst hnumber
        obtain rfl := Option.some.inj (h.symm.trans hfound)
        rw [if_pos rfl, if_pos rfl, hended]
        rfl
      · have hother : target ≠ number := fun heq => hnumber heq.symm
        rw [if_neg hnumber, if_neg (by simpa using hother), h]
  | @proceeds target other hfound hopen =>
      rw [invocation?_proceedFlight, number_of_invocation? hfound]
      by_cases hnumber : number = target
      · subst hnumber
        obtain rfl := Option.some.inj (h.symm.trans hfound)
        rw [if_pos rfl, if_pos rfl, if_pos hopen, h]
        rfl
      · have hother : target ≠ number := fun heq => hnumber heq.symm
        rw [if_neg hnumber, if_neg (by simpa using hother), h]
  | passes hother hinvocations =>
      have hevent : event ≠ .proceed number := fun heq => by
        rw [hother number heq] at h
        cases h
      rw [if_neg hevent, invocation?_congr hinvocations, h]

/-- A foreground line comes in under the number that is next, and reads the directory then. -/
theorem invocation?_step_of_none {traffic : Traffic} {number : Nat}
    (h : traffic.invocation? number = none) {event : Event} {invocation : Invocation}
    (hfound : (traffic.step event).invocation? number = some invocation) :
    ∃ source line, event = .line source ∧ Line.read? source = some line ∧ line.stages ≠ [] ∧
      line.background = false ∧ number = traffic.session.lines ∧
      invocation = ⟨number, source, traffic.session.directory,
        Flight.start line.stages (traffic.session.context (.line number))⟩ := by
  generalize hafter : traffic.step event = after at hfound
  cases serves hafter with
  | @begins source line hread hstages hforeground =>
      rw [invocation?_begin, h, Option.none_or] at hfound
      split at hfound
      · next hnumber =>
          exact ⟨source, line, rfl, hread, hstages, hforeground, hnumber,
            (Option.some.inj hfound).symm⟩
      · cases hfound
  | answers =>
      rw [invocation?_finish, h] at hfound
      simp at hfound
  | proceeds =>
      rw [invocation?_proceedFlight, h] at hfound
      simp at hfound
  | passes _ hinvocations =>
      rw [invocation?_congr hinvocations, h] at hfound
      cases hfound

/-- The count of lines begun never falls. -/
theorem lines_le_step (traffic : Traffic) (event : Event) :
    traffic.session.lines ≤ (traffic.step event).session.lines := by
  generalize hafter : traffic.step event = after
  cases serves hafter with
  | begins => exact Nat.le_succ _
  | @answers _ invocation ending =>
      obtain ⟨directory, hsession⟩ := Session.conclude_session traffic.session invocation.before
        invocation.flight.context.directory ending
      simp only [finish, answer, hsession]
      exact Nat.le_refl _
  | proceeds => exact Nat.le_refl _
  | passes _ _ hlines => exact Nat.le_of_eq hlines.symm

/-! ## A foreground line through a run -/

/-- Where a foreground line comes from: it was begun under the number that was next, read the
directory of the session, and started its pipeline there. -/
structure Begun (first : Traffic) (events : List Event) (invocation : Invocation) : Prop where
  line : ∃ earlier source line later,
    events = earlier ++ .line source :: later ∧
    Line.read? source = some line ∧ line.stages ≠ [] ∧ line.background = false ∧
    invocation.number = (first.run earlier).session.lines ∧ invocation.source = source ∧
    invocation.before = (first.run earlier).session.directory ∧
    ((first.run earlier).step (.line source)).invocation? invocation.number =
      some { invocation with
        flight := Flight.start line.stages
          ((first.run earlier).session.context (.line invocation.number)) }

theorem Begun.concat {first : Traffic} {events : List Event} {invocation : Invocation}
    (h : Begun first events invocation) (event : Event) (flight : Flight) :
    Begun first (events ++ [event]) { invocation with flight := flight } := by
  obtain ⟨earlier, source, line, later, rfl, hline⟩ := h.line
  exact ⟨earlier, source, line, later ++ [event], by simp, hline⟩

/-- Every foreground line under way has been begun, under a number below the next one. -/
theorem begun_of_invocation? {first : Traffic} (hnone : first.invocations = [])
    {events : List Event} {number : Nat} {invocation : Invocation}
    (h : (first.run events).invocation? number = some invocation) :
    Begun first events invocation ∧ number < (first.run events).session.lines := by
  induction events using List.reverseRecOn generalizing invocation with
  | nil =>
      rw [run_nil, invocation?, hnone] at h
      cases h
  | append_singleton events event ih =>
      rw [run_concat] at h
      cases hbefore : (first.run events).invocation? number with
      | none =>
          obtain ⟨source, line, rfl, hread, hstages, hforeground, hnumber, rfl⟩ :=
            invocation?_step_of_none hbefore h
          refine ⟨⟨events, source, line, [], rfl, hread, hstages, hforeground, hnumber, rfl, rfl,
            h⟩, ?_⟩
          rw [run_concat, step, takeLine_of_foreground _ hread hstages hforeground, hnumber]
          exact Nat.lt_succ_self _
      | some old =>
          obtain ⟨hbegun, hlt⟩ := ih hbefore
          refine ⟨?_, ?_⟩
          · rw [invocation?_step_of_some hbefore] at h
            split at h
            · split at h
              · obtain rfl := Option.some.inj h
                exact hbegun.concat event _
              · cases h
            · obtain rfl := Option.some.inj h
              exact hbegun.concat event old.flight
          · rw [run_concat]
            exact Nat.lt_of_lt_of_le hlt (lines_le_step _ event)

/-- A number that has been used and is not under way stays unused. -/
theorem invocation?_run_of_gone {traffic : Traffic} {number : Nat}
    (hnone : traffic.invocation? number = none) (hused : number < traffic.session.lines)
    (later : List Event) : (traffic.run later).invocation? number = none := by
  induction later generalizing traffic with
  | nil => exact hnone
  | cons event later ih =>
      rw [run_cons]
      refine ih ?_ (Nat.lt_of_lt_of_le hused (lines_le_step traffic event))
      refine Option.eq_none_iff_forall_ne_some.mpr fun invocation hfound => ?_
      obtain ⟨-, -, -, -, -, -, hnumber, -⟩ := invocation?_step_of_none hnone hfound
      exact absurd hnumber (Nat.ne_of_lt hused)

/-- A foreground line whose pipeline has ended stays as it is until it is answered, and is then
gone. -/
theorem invocation?_run_of_ended {traffic : Traffic} {number : Nat} {invocation other : Invocation}
    {ending : Ending} (hfound : traffic.invocation? number = some invocation)
    (hended : invocation.flight.ending? = some ending) (hused : number < traffic.session.lines)
    {later : List Event} (hlater : (traffic.run later).invocation? number = some other) :
    other = invocation := by
  induction later generalizing traffic with
  | nil => exact Option.some.inj (hlater.symm.trans hfound)
  | cons event later ih =>
      rw [run_cons] at hlater
      have hnext := invocation?_step_of_some hfound event
      have hstill := Nat.lt_of_lt_of_le hused (lines_le_step traffic event)
      by_cases hevent : event = .proceed number
      · -- with its answer it is gone, and nothing comes back under its number
        rw [if_pos hevent, if_neg (by simp [hended])] at hnext
        rw [invocation?_run_of_gone hnext hstill] at hlater
        cases hlater
      · rw [if_neg hevent] at hnext
        exact ih hnext hstill hlater

end Traffic
end Conch
