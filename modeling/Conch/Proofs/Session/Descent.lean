import Conch.Proofs.Path.Route
import Conch.Proofs.Session.Reentry
import Conch.Proofs.Session.Straying

/-!
# Going down step by step

Where a relative path leads does not depend on how one gets to where it starts: a path behind
another one names the same place as the two taken one after the other, and so does a path that
is named in a session after the line `cd` with the other one.  Only, a session goes where `cd` is
shown to lead, which in a directory that is not a text is another place.  An absolute path leads to
the same place from everywhere.
-/

namespace Conch

namespace Builtin

open Pipeline

/-- A stage with `cd` that succeeds ends in the directory that its first argument leads to, as that
is shown. -/
theorem resolve_of_goes_cd {stage : Line.Stage} {index : Nat} {piped : Option String}
    {context : Context} {machine : Machine} {report : Report} {outcome : Outcome}
    (hname : Text.asciiLower stage.name = "cd")
    (hdirectory : Path.isAbsolute context.directory = true)
    (hgoes : Goes registry stage index piped context machine report)
    (hreturned : report.ending = .returned outcome) (hsuccess : outcome.isSuccess = true) :
    ∃ path, Path.resolve stage.args.head? context.directory = .ok path ∧
      report.context.directory = Path.respell path := by
  obtain ⟨command, hknown, hhandler, -, -, hsets⟩ := find?_cd
  have hfound : registry.find? stage.name = some command := by
    have hspelling : Text.asciiLower stage.name = Text.asciiLower "cd" := hname.trans (by decide)
    rw [← hknown, Registry.find?, Registry.find?, hspelling]
  have hadopts : ∀ {found input answer after},
      Calls registry stage index piped context machine found input (.returned answer) after →
        answer.isSuccess = true →
          ∃ path, Path.resolve stage.args.head? context.directory = .ok path ∧
            (adoptDirectory found answer context).directory = Path.respell path := by
    intro found input answer after hcalls hanswer
    obtain rfl : command = found := Option.some.inj (hfound.symm.trans hcalls.admits.known)
    have hends := hcalls.ends
    rw [hhandler] at hends
    obtain rfl := Ending.returned.inj (Prod.mk.inj hends).1
    obtain ⟨path, hresolve, hstdout⟩ := resolve_of_cd hanswer
    have hsome : (cd stage.args { context with stdin := input } machine).stdout ≠ "" := by
      rw [hstdout]
      exact Path.shown_ne_empty (Path.isAbsolute_resolve hdirectory hresolve)
    refine ⟨path, hresolve, ?_⟩
    rw [adoptDirectory_of_sets hsets hanswer hsome, hstdout]
    rfl
  -- the outcome that the stage is left with is a success only if that of the handler is one
  cases hgoes with
  | cancelled | unknown | refused =>
      obtain rfl := Ending.returned.inj hreturned
      cases hsuccess
  | @unreadable command file fault =>
      obtain rfl := Ending.returned.inj hreturned
      cases fault <;> cases hsuccess
  | crashed => cases hreturned
  | returned hcalls =>
      obtain rfl := Ending.returned.inj hreturned
      exact hadopts hcalls hsuccess
  | written hcalls =>
      obtain rfl := Ending.returned.inj hreturned
      exact hadopts hcalls hsuccess
  | @unwritten command input answer after final file fault hcalls =>
      obtain rfl := Ending.returned.inj hreturned
      cases fault <;> cases hsuccess

end Builtin

/-- What is named in two directories is shown alike if the guard's answers are. -/
theorem Context.map_shown_resolve {first later : Context} {target other : Option String}
    (h : (Path.resolve target first.directory).map Path.shown =
      (Path.resolve other later.directory).map Path.shown) :
    (first.resolve target).map Path.shown = (later.resolve other).map Path.shown := by
  cases hfirst : Path.resolve target first.directory <;>
    cases hlater : Path.resolve other later.directory <;>
      simp_all [resolve, Except.map]

namespace Session

/-- A line asks for `cd` alone, in any spelling, and it succeeds. -/
structure Enters (session : Session) (source target : String) : Prop where
  asks : ∃ stage, Line.Asks source [stage] ∧ Text.asciiLower stage.name = "cd" ∧
    stage.args.head? = some target
  succeeds : (session.execute source).1.isSuccess = true

section Entering

variable {session : Session} {source target : String}

/-- A session that has entered a directory resolves what follows as if it were where that is shown
to lead. -/
theorem resolve_of_enters (hregistry : session.registry = Builtin.registry)
    (hdirectory : Path.isAbsolute session.directory = true)
    (h : session.Enters source target) :
    ∃ path, Path.resolve (some target) session.directory = .ok path ∧
      ∀ later, later ≠ "" → Path.resolve (some later) (session.execute source).2.directory =
        Path.resolve (some later) (Path.respell path) := by
  obtain ⟨stage, hasks, hname, hhead⟩ := h.asks
  obtain ⟨report, hgoes⟩ : ∃ report, Pipeline.Goes session.registry stage 0 none
      session.nextContext session.nextMachine report := ⟨_, Pipeline.goes_iff.mpr rfl⟩
  have hsucceeds := h.succeeds
  rw [execute_of_single hasks hgoes] at hsucceeds
  cases hending : report.ending with
  | crashed message =>
      rw [hending] at hsucceeds
      cases hsucceeds
  | returned outcome =>
      rw [hending] at hsucceeds
      have hset := directory_of_set hasks hgoes hending rfl
      rw [hregistry] at hgoes
      obtain ⟨path, hpath, hends⟩ :=
        Builtin.resolve_of_goes_cd hname hdirectory hgoes hending hsucceeds
      rw [hhead] at hpath
      have hthere : Path.isAbsolute (Path.respell path) = true :=
        (Path.isAbsolute_respell path).trans (Path.isAbsolute_resolve hdirectory hpath)
      refine ⟨path, hpath, fun later hlater => ?_⟩
      rw [hset, hends]
      split
      · next hsame =>
          -- the session keeps its own spelling of the place
          simp only [Path.same, Bool.and_eq_true, decide_eq_true_eq] at hsame
          exact Path.resolve_congr hdirectory hthere hlater (Path.route_congr hsame.2)
      · rfl

end Entering

end Session

end Conch
