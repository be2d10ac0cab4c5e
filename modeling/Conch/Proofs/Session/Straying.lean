import Conch.Builtin.Standard
import Conch.Proofs.Pipeline.Fold
import Conch.Proofs.Session.Directory
import Conch.Proofs.Session.Foreground

/-!
# Failures that move a session

A command that sets the directory does so as soon as its handler has succeeded, before the output
of its stage is written to a file, and nothing takes the session back afterwards.  So a line of
one stage that fails leaves the session where it was, unless its handler has succeeded and only
its output, which is the new directory, cannot be written.
-/

namespace Conch

namespace Pipeline

section Adopt

variable {command : Command} {outcome : Outcome}

theorem adoptDirectory_of_failure (h : outcome.exitCode ≠ 0) (context : Context) :
    adoptDirectory command outcome context = context := by
  simp [adoptDirectory, Outcome.isSuccess, h]

theorem adoptDirectory_of_sets (hsets : command.setsDirectory = true)
    (hsuccess : outcome.isSuccess = true) (hsome : outcome.stdout ≠ "") (context : Context) :
    adoptDirectory command outcome context =
      { context with directory := Path.ofText outcome.stdout } := by
  simp [adoptDirectory, hsets, hsuccess, hsome]

end Adopt

/-- A stage whose output cannot be written fails with exit code 1, whatever the fault. -/
theorem exitCode_outputRefusal (file : String) (fault : Fault) :
    (outputRefusal file fault).exitCode = 1 := by
  cases fault <;> rfl

end Pipeline

namespace Session

/-- A session that nobody else has moved goes where a pipeline has ended, but for the spelling. -/
theorem directory_moveTo (session : Session) (after : Path) :
    (session.moveTo session.directory after).directory =
      if Path.same session.directory after then session.directory else after := by
  unfold moveTo
  split <;> rfl

/-- The next foreground line, of one stage, fails in another directory than the one of the
session: the handler has succeeded and set the directory, and then its output could not be
written to the file. -/
inductive Strays (session : Session) (stage : Line.Stage) : Outcome → Path → Prop
  | unwritten {command : Command} {input : Option String} {outcome : Outcome}
      {after final : Machine} {file : String} {fault : Fault}
      (hcalls : Pipeline.Calls session.registry stage 0 none session.nextContext
        session.nextMachine command input (.returned outcome) after)
      (hsets : command.setsDirectory = true) (hsuccess : outcome.isSuccess = true)
      (hsome : outcome.stdout ≠ "")
      (helsewhere : Path.same session.directory (Path.ofText outcome.stdout) = false)
      (hfile : stage.outputFile? = some file)
      (hwrite : Pipeline.writeOutput
        { session.nextContext with directory := Path.ofText outcome.stdout }
        after file outcome.stdout stage.appends = (.error fault, final)) :
      Strays session stage (Pipeline.outputRefusal file fault) (Path.ofText outcome.stdout)

section Straying

variable {session : Session} {source : String} {stage : Line.Stage}

/-- A foreground line of one stage comes to what the stage comes to. -/
theorem execute_of_single (hasks : Line.Asks source [stage]) {report : Pipeline.Report}
    (hgoes : Pipeline.Goes session.registry stage 0 none session.nextContext session.nextMachine
      report) :
    session.execute source =
      (session.having report).conclude session.directory report.context.directory
        report.ending := by
  have hreport : session.nextReport [stage] = report := by
    rw [nextReport, Pipeline.run_singleton session.registry stage rfl]
    exact Pipeline.goes_iff.mp hgoes
  rw [execute_of_asks hasks (List.cons_ne_nil _ _), hreport]

/-- A session stays where it is if the stage has not set the directory. -/
theorem directory_of_unset (hasks : Line.Asks source [stage]) {report : Pipeline.Report}
    (hgoes : Pipeline.Goes session.registry stage 0 none session.nextContext session.nextMachine
      report) (hunset : report.context = session.nextContext) :
    (session.execute source).2.directory = session.directory := by
  rw [execute_of_single hasks hgoes, hunset]
  cases report.ending with
  | crashed message => rfl
  | returned outcome => exact (directory_moveTo (session.having report) _).trans (ite_self _)

/-- A session takes over the directory that a stage has set, unless it is there already. -/
theorem directory_of_set (hasks : Line.Asks source [stage]) {report : Pipeline.Report}
    (hgoes : Pipeline.Goes session.registry stage 0 none session.nextContext session.nextMachine
      report) {outcome : Outcome} (hreturned : report.ending = .returned outcome)
    {directory : Path} (hset : report.context.directory = directory) :
    (session.execute source).2.directory =
      if Path.same session.directory directory then session.directory
      else directory := by
  rw [execute_of_single hasks hgoes, hreturned, hset]
  exact directory_moveTo (session.having report) directory

/-- A stage that strays takes the session along. -/
theorem execute_of_strays (hasks : Line.Asks source [stage]) {outcome : Outcome}
    {directory : Path} (h : session.Strays stage outcome directory) :
    (session.execute source).1 = outcome ∧ outcome.exitCode = 1 ∧
      (session.execute source).2.directory = directory ∧ directory ≠ session.directory := by
  obtain ⟨hcalls, hsets, hsuccess, hsome, helsewhere, hfile, hwrite⟩ := h
  have hadopted := Pipeline.adoptDirectory_of_sets hsets hsuccess hsome session.nextContext
  have hgoes := Pipeline.Goes.unwritten hcalls hfile (hadopted.symm ▸ hwrite)
  rw [hadopted] at hgoes
  have hmoved := directory_of_set hasks hgoes rfl rfl
  rw [helsewhere] at hmoved
  refine ⟨by rw [execute_of_single hasks hgoes]; rfl, Pipeline.exitCode_outputRefusal _ _, hmoved,
    fun hthere => ?_⟩
  rw [hthere, Path.same_refl] at helsewhere
  cases helsewhere

/-- **A failure moves a session only if it comes after the move.**  A foreground line of one
stage that fails leaves the session where it was, or it strays; and one that strays fails with
exit code 1 and takes the session along. -/
theorem stays_or_strays (hasks : Line.Asks source [stage]) :
    ((session.execute source).1.exitCode ≠ 0 →
      (session.execute source).2.directory = session.directory ∨
        session.Strays stage (session.execute source).1 (session.execute source).2.directory) ∧
      ∀ outcome directory, session.Strays stage outcome directory →
        (session.execute source).1 = outcome ∧ outcome.exitCode = 1 ∧
          (session.execute source).2.directory = directory ∧ directory ≠ session.directory := by
  refine ⟨fun hfails => ?_, fun _ _ hstrays => execute_of_strays hasks hstrays⟩
  obtain ⟨report, hgoes⟩ : ∃ report, Pipeline.Goes session.registry stage 0 none
      session.nextContext session.nextMachine report := ⟨_, Pipeline.goes_iff.mpr rfl⟩
  have hanswer := execute_of_single hasks hgoes
  have hstays := directory_of_unset hasks hgoes
  cases hgoes with
  | cancelled | unknown | refused | unreadable | crashed => exact .inl (hstays rfl)
  | @returned command input outcome after hcalls hfile =>
      have hfailed : outcome.exitCode ≠ 0 := by rwa [hanswer] at hfails
      exact .inl (hstays (Pipeline.adoptDirectory_of_failure hfailed _))
  | @written command input outcome after final file hcalls hfile hwrite =>
      -- the confirmation has the exit code of the handler
      have hfailed : outcome.exitCode ≠ 0 := by rwa [hanswer] at hfails
      exact .inl (hstays (Pipeline.adoptDirectory_of_failure hfailed _))
  | @unwritten command input outcome after final file fault hcalls hfile hwrite =>
      rcases Pipeline.adoptDirectory_cases command outcome session.nextContext with
        hsame | ⟨hsets, hsuccess, hsome, hadopted⟩
      · exact .inl (hstays hsame)
      have hmoved := directory_of_set hasks (.unwritten hcalls hfile hwrite) rfl
        (congrArg Context.directory hadopted)
      have hrefused : (session.execute source).1 = Pipeline.outputRefusal file fault := by
        rw [hanswer]
        rfl
      rw [hadopted] at hwrite
      cases helsewhere : Path.same session.directory (Path.ofText outcome.stdout) with
      | true => exact .inl (hmoved.trans (if_pos helsewhere))
      | false =>
          rw [hrefused, hmoved, helsewhere]
          exact .inr (.unwritten hcalls hsets hsuccess hsome helsewhere hfile hwrite)

end Straying

/-- A session over the standard commands, beside a directory `a`. -/
def inHall : Session :=
  start Builtin.registry .standard [Path.slash]
    { Machine.blank with files := ⟨[([Path.ofText "a"], .directory)], [], []⟩ }

/-- `cd` has moved to `/a` when its output cannot be written. -/
theorem strays_inHall :
    Line.Asks "cd a > b/c" [⟨"cd", ["a"], .inherit, .replace "b/c"⟩] ∧
      inHall.Strays ⟨"cd", ["a"], .inherit, .replace "b/c"⟩
        (Outcome.failure 1
          "Cannot write output file b/c: open b/c: No such file or directory (os error 2)")
        (Path.ofText "/a") := by
  have hasks : Line.Asks "cd a > b/c" [⟨"cd", ["a"], .inherit, .replace "b/c"⟩] := by decide
  have houtcome : (inHall.execute "cd a > b/c").1 = Outcome.failure 1
      "Cannot write output file b/c: open b/c: No such file or directory (os error 2)" := by
    decide +kernel
  have hmoved : (inHall.execute "cd a > b/c").2.directory = Path.ofText "/a" := by decide +kernel
  refine ⟨hasks, ?_⟩
  rcases (stays_or_strays hasks).1 (by rw [houtcome]; decide) with hstays | hstrays
  · exact absurd (hmoved.symm.trans hstays) (by decide)
  · rwa [houtcome, hmoved] at hstrays

/-- A foreground line of one stage can fail and yet move the session. -/
theorem moves_in_failure :
    ¬ ∀ (session : Session) (source : String) (stage : Line.Stage), Line.Asks source [stage] →
      (session.execute source).1.exitCode ≠ 0 →
      (session.execute source).2.directory = session.directory := by
  intro h
  have hstays := h inHall "cd a > b/c" ⟨"cd", ["a"], .inherit, .replace "b/c"⟩ (by decide)
    (by decide +kernel)
  exact absurd hstays (by decide +kernel)

end Session

end Conch
