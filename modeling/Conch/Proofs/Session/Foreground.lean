import Conch.Proofs.Session.Background

/-!
# Foreground lines at one go

A line that asks for stages in the foreground is run at one go.  What its pipeline returns is the
answer, and when a handler crashes, the answer says so and the session stays where it is.
-/

namespace Conch

/-- A line asks for stages in the foreground. -/
def Line.Asks (source : String) (stages : List Line.Stage) : Prop :=
  Line.read? source = some ⟨stages, false, source⟩

instance (source : String) (stages : List Line.Stage) : Decidable (Line.Asks source stages) :=
  inferInstanceAs (Decidable (_ = _))

namespace Session

/-- The context in which the next foreground line starts. -/
def nextContext (session : Session) : Context :=
  session.context (.line session.lines)

/-- The machine on which the next foreground line starts. -/
def nextMachine (session : Session) : Machine :=
  session.machine.makeFlag (.line session.lines)

/-- What the next foreground line comes to if it asks for some stages. -/
def nextReport (session : Session) (stages : List Line.Stage) : Pipeline.Report :=
  Pipeline.run session.registry stages session.nextContext session.nextMachine

theorem isFired_nextMachine (session : Session) :
    session.nextMachine.isFired session.nextContext.token = false :=
  session.machine.isFired_makeFlag (.line session.lines)

/-- The session after a foreground line, but for where it moves. -/
def having (session : Session) (report : Pipeline.Report) : Session :=
  { session with
    machine := report.machine
    lines := session.lines + 1
    calls := session.calls ++ report.calls }

theorem execute_of_asks {session : Session} {source : String} {stages : List Line.Stage}
    (hasks : Line.Asks source stages) (hsome : stages ≠ []) :
    session.execute source =
      (session.having (session.nextReport stages)).conclude session.directory
        (session.nextReport stages).context.directory (session.nextReport stages).ending := by
  have hread : Line.read? source = some ⟨stages, false, source⟩ := hasks
  simp only [execute, hread, Line.isEmpty, List.isEmpty_iff, hsome, if_false, Bool.false_eq_true]
  rfl

end Session

end Conch
