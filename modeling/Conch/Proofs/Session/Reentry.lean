import Conch.Proofs.Builtin.Readers
import Conch.Proofs.Builtin.Requests
import Conch.Proofs.Files.Delivery
import Conch.Proofs.Files.Spelling
import Conch.Proofs.Pipeline.Fold
import Conch.Proofs.Session.Background
import Conch.Proofs.Session.Straying
import Conch.Proofs.Session.Whereabouts
import Conch.Session.Opening

/-!
# Coming back to where one is

In a session over the standard commands `cd` takes back what `pwd` prints, as long as that is a
directory: the session stays where it is.  Three things come from the directory in which the
session was opened, which no guard has seen.  If it climbs, the guard refuses it when it comes back
from the user.  If it is not folded, `cd` answers with the folded spelling, which names the same
directory, and the session keeps its own.  And if it is not a text, what `pwd` prints names another
directory, and `cd` takes the session there.
-/

namespace Conch

/-! ## `cd` -/

namespace Builtin

section Cd

variable {context : Context} {machine : Machine} {target : String}

/-- `cd` changes to a directory only under the path that its target is resolved to, as that is
shown. -/
theorem resolve_of_changeDirectory {outcome : Outcome}
    (h : changeDirectory target context machine = .ok outcome)
    (hsuccess : outcome.isSuccess = true) :
    ∃ path, Path.resolve (some target) context.directory = .ok path ∧
      outcome.stdout = Path.shown path := by
  unfold changeDirectory at h
  cases hcheck : context.check machine with
  | error fault =>
      rw [hcheck] at h
      cases h
  | ok _ =>
      cases hpath : context.resolve (some target) with
      | error fault =>
          rw [hcheck, hpath] at h
          cases h
      | ok path =>
          simp only [hcheck, hpath, bind, Except.bind, pure, Except.pure] at h
          split at h
          · cases h
          · obtain rfl := Except.ok.inj h
            exact ⟨path, Context.resolve_eq_ok_iff.mp hpath, rfl⟩
          · obtain rfl := Except.ok.inj h
            cases hsuccess

theorem resolve_of_cd {args : List String} (h : (cd args context machine).isSuccess = true) :
    ∃ path, Path.resolve args.head? context.directory = .ok path ∧
      (cd args context machine).stdout = Path.shown path := by
  unfold cd at h ⊢
  cases hhead : args.head? with
  | none =>
      rw [hhead] at h
      cases h
  | some target =>
      cases hchange : changeDirectory target context machine with
      | error fault =>
          simp only [hhead, hchange, Fault.isSuccess_outcome, Bool.false_eq_true] at h
      | ok outcome =>
          simp only [hhead, hchange] at h ⊢
          exact resolve_of_changeDirectory hchange h

variable (hlive : machine.isFired context.token = false)
include hlive

theorem cd_of_directory {path : Path}
    (hpath : Path.resolve (some target) context.directory = .ok path)
    (hthere : machine.files.isDirectory path = true) :
    cd [target] context machine = Outcome.success (Path.shown path) := by
  have hchange : changeDirectory target context machine =
      .ok (Outcome.success (Path.shown path)) := by
    simp only [changeDirectory, Context.check_of_live hlive, Context.resolve_eq_ok_iff.mpr hpath,
      bind, Except.bind, machine.files.status_of_isDirectory hthere]
    rfl
  simp only [cd, List.head?_cons, hchange]

theorem cd_of_traversal {cause : Path.Traversal}
    (hpath : Path.resolve (some target) context.directory = .error cause) :
    cd [target] context machine =
      Outcome.failure 1 ("cd: " ++ (Fault.traversal cause).message) := by
  have hresolve : context.resolve (some target) = .error (.traversal cause) := by
    simp [Context.resolve, hpath]
  have hchange : changeDirectory target context machine = .error (.traversal cause) := by
    simp only [changeDirectory, Context.check_of_live hlive, hresolve]
    rfl
  simp only [cd, List.head?_cons, hchange]
  rfl

end Cd

/-- Of the standard commands only `cd` sets the directory. -/
theorem handler_of_setsDirectory {command : Command} (h : command ∈ registry.commands)
    (hsets : command.setsDirectory = true) : command.handler = reporting cd := by
  rcases Registry.mem_insertCommand h with rfl | h
  · cases hsets
  rcases Registry.mem_foldl_register h with h | h
  · simp only [commands, List.mem_cons, List.not_mem_nil, or_false] at h
    rcases h with rfl | rfl | rfl | rfl | rfl | rfl | rfl | rfl | rfl | rfl | rfl
    · rfl
    all_goals cases hsets
  · simp [Registry.empty] at h

/-- What holds of all that is resolved from where it holds, as it is shown, `cd` keeps. -/
theorem registry_keeps {P : Path → Prop}
    (h : ∀ base target path, P base → Path.resolve target base = .ok path →
      P (Path.respell path)) : registry.Keeps P := by
  intro command hmem hsets args context machine outcome hbefore hreturned hsuccess
  rw [handler_of_setsDirectory hmem hsets] at hreturned
  obtain rfl := Ending.returned.inj hreturned
  obtain ⟨path, hpath, hanswer⟩ := resolve_of_cd hsuccess
  rw [hanswer]
  exact h _ _ path hbefore hpath

theorem find?_cd :
    ∃ command, registry.find? "cd" = some command ∧ command.handler = reporting cd ∧
      command.needsAdmin = false ∧ command.takesInput = false ∧
      command.setsDirectory = true := by
  have hname : commands[0].name = "cd" := by decide +kernel
  have hfound := find?_of_mem (List.getElem_mem (by decide) : commands[0] ∈ commands)
  rw [hname] at hfound
  exact ⟨commands[0], hfound, rfl, rfl, rfl, rfl⟩

/-- A pipeline with `cd` alone comes to what `cd` comes to, and goes there. -/
theorem run_cd {context : Context} {machine : Machine} {target answer : String}
    (hstdin : context.stdin = none) (hlive : machine.isFired context.token = false)
    (hsome : answer ≠ "") (hanswer : cd [target] context machine = Outcome.success answer) :
    ∃ calls, Pipeline.run registry [⟨"cd", [target], .inherit, .inherit⟩] context machine =
      ⟨.returned (Outcome.success answer),
        { context with directory := Path.ofText answer }, machine, calls⟩ := by
  let stage : Line.Stage := ⟨"cd", [target], .inherit, .inherit⟩
  obtain ⟨command, hknown, hhandler, hopen, hdeaf, hsets⟩ := find?_cd
  have hcontext : { context with stdin := none } = context := by rw [← hstdin]
  have hoffers : Pipeline.Offers stage 0 none context machine none := .piped fun _ => rfl
  have hinput : none = if command.takesInput then (none : Option String) else none := by
    rw [hdeaf]
    rfl
  have hfound : registry.find? stage.name = some command := hknown
  have hstage := runStage_of_reporting hfound hhandler hopen hlive rfl hoffers hinput
  rw [hcontext, hanswer, Pipeline.adoptDirectory_of_sets hsets rfl hsome] at hstage
  exact ⟨_, (Pipeline.run_singleton registry stage hstdin machine).trans hstage⟩

end Builtin

/-! ## The directory that is configured -/

/-- A new session of a configuration, with a job table of its own. -/
def Traffic.opened (config : Config) (machine : Machine) : Traffic :=
  ⟨Session.opened config { machine with jobs := Job.Table.empty }, [], []⟩

/-- A session starts in an absolute directory, whatever is configured. -/
theorem Config.isAbsolute_startDirectoryOn (config : Config) (machine : Machine) :
    Path.isAbsolute (config.startDirectoryOn machine) = true := by
  have hcurrent : Path.isAbsolute machine.files.current.path = true := rfl
  unfold startDirectoryOn
  simp only
  split
  · exact hcurrent
  · split
    · exact Path.isAbsolute_join hcurrent _
    · exact hcurrent

/-! ## Coming back -/

namespace Session

/-- The directory of a session as `pwd` prints it. -/
def printed (session : Session) : String :=
  Path.shown session.directory

/-- What `cd` comes to with what `pwd` prints, in a line of the session that nobody has asked to
stop. -/
def reentry (session : Session) (token : Token) : Outcome :=
  let context := session.context token
  let machine := session.machine.makeFlag token
  Builtin.cd [(Builtin.pwd [] context machine).stdout] context machine

/-- The stages of that line. -/
def reentryStages (session : Session) : List Line.Stage :=
  [⟨"cd", [session.printed], .inherit, .inherit⟩]

/-- The path that the printed directory names, folded. -/
def returning (session : Session) : Path :=
  Path.normalize (Path.ofText session.printed)

variable {session : Session} {opening : Path}

theorem returning_eq (session : Session) :
    session.returning = Path.respell (Path.normalize session.directory) :=
  Path.normalize_respell session.directory

theorem isText_returning (session : Session) : Path.IsText session.returning :=
  (Path.isText_ofText session.printed).normalize

theorem isAbsolute_printed (h : Path.Reached opening session.directory) :
    Path.isAbsolute (Path.ofText session.printed) = true :=
  (Path.isAbsolute_respell session.directory).trans h.absolute

/-- A session that does not climb is where its printed directory leads just if it is in a text. -/
theorem same_returning_iff (h : Path.Reached opening session.directory)
    (hclimbs : Path.climbs session.printed.toList = false) :
    Path.same session.directory session.returning = true ↔ Path.IsText session.directory := by
  constructor
  · intro hsame
    simp only [Path.same, Bool.and_eq_true, decide_eq_true_eq] at hsame
    exact (isText_returning session).of_parts hsame.2
  · intro htext
    rw [returning_eq, ← Path.normalize_respell, htext]
    exact Path.same_normalize h.absolute (Path.up_notMem_parts hclimbs)

theorem resolve_printed (h : Path.Reached opening session.directory) :
    Path.resolve (some session.printed) session.directory =
      if Path.climbs session.printed.toList then .error .named else .ok session.returning := by
  have hsome : session.printed ≠ "" := Path.shown_ne_empty h.absolute
  simp only [Path.resolve, String.isEmpty_iff, hsome, if_false, Path.resolveTarget_eq h.absolute,
    Path.join, isAbsolute_printed h, if_true, returning]

/-- What climbs is refused. -/
theorem reentry_of_climbs (h : Path.Reached opening session.directory)
    (hclimbs : Path.climbs session.printed.toList = true) (token : Token) :
    session.reentry token =
      Outcome.failure 1 "cd: Path traversal detected: cannot use .. in paths" := by
  have hresolve := resolve_printed h
  rw [hclimbs, if_pos rfl] at hresolve
  have hmessage : "cd: " ++ (Fault.traversal .named).message =
      "cd: Path traversal detected: cannot use .. in paths" := by decide
  rw [← hmessage]
  exact Builtin.cd_of_traversal (session.machine.isFired_makeFlag token) hresolve

theorem reentry_of_directory (h : Path.Reached opening session.directory)
    (hclimbs : Path.climbs session.printed.toList = false)
    (hthere : session.machine.files.isDirectory (Path.ofText session.printed) = true)
    (token : Token) : session.reentry token = Outcome.success (Path.shown session.returning) := by
  have hresolve := resolve_printed h
  rw [hclimbs, if_neg Bool.false_ne_true] at hresolve
  refine Builtin.cd_of_directory (session.machine.isFired_makeFlag token) hresolve ?_
  have hnames : .up ∉ Path.parts (Path.ofText session.printed) :=
    Path.up_notMem_parts (by rwa [Path.shown_ofText])
  exact session.machine.files.isDirectory_normalize (isAbsolute_printed h) hnames hthere

/-- The line is answered with what `cd` comes to, and takes the session there unless it is there
already. -/
theorem runForeground_reentry (hregistry : session.registry = Builtin.registry) {path : Path}
    (htext : Path.IsText path) (habsolute : Path.isAbsolute path = true)
    (hanswer : session.reentry (.line session.lines) = Outcome.success (Path.shown path)) :
    (session.runForeground session.reentryStages).1 = Outcome.success (Path.shown path) ∧
      (session.runForeground session.reentryStages).2.directory =
        if Path.same session.directory path then session.directory else path := by
  let context := session.context (.line session.lines)
  have hpath : Path.ofText (Path.shown path) = path := htext
  obtain ⟨calls, hrun⟩ : ∃ calls,
      Pipeline.run session.registry session.reentryStages context
          (session.machine.makeFlag context.token) =
        ⟨.returned (Outcome.success (Path.shown path)), { context with directory := path },
          session.machine.makeFlag context.token, calls⟩ := by
    rw [hregistry]
    have hrun := @Builtin.run_cd context _ _ _ rfl
      (session.machine.isFired_makeFlag context.token) (Path.shown_ne_empty habsolute) hanswer
    rwa [hpath] at hrun
  simp only [context] at hrun
  simp only [runForeground, hrun, conclude, true_and]
  exact directory_moveTo _ _

end Session

namespace Traffic

theorem keeps_opened (config : Config) (machine : Machine) :
    (opened config machine).Keeps (Path.Reached (config.startDirectoryOn machine)) :=
  keeps_start (Builtin.registry_keeps fun _ _ _ hbase hpath => hbase.resolve hpath)
    (.refl (config.isAbsolute_startDirectoryOn machine)) _ machine

end Traffic

/-- How a session that was opened in `opening` takes back its own directory as it is printed. -/
structure Session.Reenters (session : Session) (opening : Path) : Prop where
  /-- A directory that climbs is refused. -/
  refuses : Path.climbs session.printed.toList = true → ∀ token,
    session.reentry token =
      Outcome.failure 1 "cd: Path traversal detected: cannot use .. in paths"
  /-- Only a session that was opened in such a directory can be in one. -/
  climbs : Path.climbs session.printed.toList = true →
    Path.climbs (Path.shown opening).toList = true
  /-- Any other directory is entered again under its folded spelling. -/
  enters : Path.climbs session.printed.toList = false →
    session.machine.files.isDirectory (Path.ofText session.printed) = true → ∀ token,
    session.reentry token = Outcome.success (Path.shown session.returning)
  /-- This is how it is printed, unless it is printed as the one the session was opened in. -/
  spelling : Path.shown session.returning = session.printed ∨
    session.printed = Path.shown opening
  /-- A session in a text stays where it is. -/
  stays : Path.climbs session.printed.toList = false →
    session.machine.files.isDirectory (Path.ofText session.printed) = true →
    Path.IsText session.directory →
    (session.runForeground session.reentryStages).1.isSuccess = true ∧
      (session.runForeground session.reentryStages).2.directory = session.directory
  /-- Any other session goes where the printed directory leads, which is elsewhere. -/
  strays : Path.climbs session.printed.toList = false →
    session.machine.files.isDirectory (Path.ofText session.printed) = true →
    ¬ Path.IsText session.directory →
    (session.runForeground session.reentryStages).1.isSuccess = true ∧
      (session.runForeground session.reentryStages).2.directory = session.returning ∧
      Path.same session.directory session.returning = false
  /-- Only a session that nobody has moved can be in a directory that is not a text. -/
  text : Path.IsText session.directory ∨ session.directory = opening

/-- A machine with the directories `/a` and `/a/b`. -/
def shelf : Machine :=
  { Machine.blank with
    files := ⟨[([Path.ofText "a"], .directory), ([Path.ofText "a", Path.ofText "b"], .directory)],
      [], []⟩ }

/-- A machine that runs in a directory whose name is no text, with another one beside it that is
named as the first one is shown. -/
def twins : Machine :=
  { Machine.blank with
    files := ⟨[([[0xFF]], .directory), ([Path.ofText "\ufffd"], .directory)], [[0xFF]], []⟩ }

/-- A configuration with a directory to start in. -/
def Config.startingAt (directory : String) : Config :=
  ⟨.standard, directory, false, "", ""⟩

/-- Whatever is configured and has been done, a session can go where it is, as far as what it
prints tells. -/
theorem Traffic.reenters_perform (config : Config) (machine : Machine) (actions : List Action) :
    ((opened config machine).perform actions).session.Reenters
      (config.startDirectoryOn machine) := by
  let session := ((opened config machine).perform actions).session
  have hreached : Path.Reached (config.startDirectoryOn machine) session.directory :=
    ((keeps_opened config machine).perform actions).directory
  have hregistry : session.registry = Builtin.registry :=
    registry_perform (opened config machine) actions
  have hline : Path.climbs session.printed.toList = false →
      session.machine.files.isDirectory (Path.ofText session.printed) = true →
      (session.runForeground session.reentryStages).1.isSuccess = true ∧
        (session.runForeground session.reentryStages).2.directory =
          if Path.same session.directory session.returning then session.directory
          else session.returning := by
    intro hguarded hthere
    obtain ⟨houtcome, hdirectory⟩ := Session.runForeground_reentry hregistry
      session.isText_returning (Path.isAbsolute_normalize (Session.isAbsolute_printed hreached))
      (Session.reentry_of_directory hreached hguarded hthere _)
    exact ⟨by rw [houtcome]; rfl, hdirectory⟩
  refine
    { refuses := fun hclimbs => Session.reentry_of_climbs hreached hclimbs
      climbs := hreached.climbs
      enters := fun hguarded hthere => Session.reentry_of_directory hreached hguarded hthere
      spelling := hreached.spelling.imp_left fun hfolded => ?_
      stays := fun hguarded hthere htext => ?_
      strays := fun hguarded hthere hodd => ?_
      text := hreached.text }
  · rw [Session.returning_eq, Path.shown_respell, hfolded]
    rfl
  · obtain ⟨hsuccess, hdirectory⟩ := hline hguarded hthere
    have hsame := (Session.same_returning_iff hreached hguarded).mpr htext
    exact ⟨hsuccess, by rw [hdirectory, hsame, if_pos rfl]⟩
  · obtain ⟨hsuccess, hdirectory⟩ := hline hguarded hthere
    have hother := Bool.eq_false_iff.mpr (mt (Session.same_returning_iff hreached hguarded).mp hodd)
    exact ⟨hsuccess, by rw [hdirectory, hother, if_neg Bool.false_ne_true], hother⟩

/-- A session that has left the directory it was opened in, and one that has not. -/
theorem Traffic.reenters_perform_shelf :
    let first := opened (.startingAt "a//b/.") shelf
    let moved := (first.perform [.executes "cd .", .executes "cd /a/./"]).session
    first.session.Reenters (Path.ofText "/a//b/.") ∧ first.session.printed = "/a//b/." ∧
      first.session.reentry (.line 0) = Outcome.success "/a/b" ∧
      moved.Reenters (Path.ofText "/a//b/.") ∧ moved.printed = "/a" ∧
      moved.reentry (.line 0) = Outcome.success "/a" := by
  intro first moved
  have hopening : (Config.startingAt "a//b/.").startDirectoryOn shelf =
      Path.ofText "/a//b/." := by decide +kernel
  have hfirst := reenters_perform (.startingAt "a//b/.") shelf []
  have hmoved := reenters_perform (.startingAt "a//b/.") shelf
    [.executes "cd .", .executes "cd /a/./"]
  rw [hopening] at hfirst hmoved
  exact ⟨hfirst, by decide +kernel, by decide +kernel, hmoved, by decide +kernel,
    by decide +kernel⟩

/-- What `pwd` prints is not always taken back.  `cd` refuses a configured directory that climbs,
and answers with another spelling of one that is not folded.  And from a directory that is not a
text it takes the session to another one. -/
theorem Traffic.reentry_fails :
    ¬ (∀ (config : Config) (machine : Machine) (actions : List Action) (token : Token),
      let session := ((opened config machine).perform actions).session
      session.machine.files.isDirectory (Path.ofText session.printed) = true →
        (session.reentry token).isSuccess = true) ∧
    ¬ (∀ (config : Config) (machine : Machine) (actions : List Action) (token : Token),
      let session := ((opened config machine).perform actions).session
      session.machine.files.isDirectory (Path.ofText session.printed) = true →
        (session.reentry token).isSuccess = true →
          (session.reentry token).stdout = session.printed) ∧
    ¬ (∀ (config : Config) (machine : Machine) (actions : List Action),
      let session := ((opened config machine).perform actions).session
      session.machine.files.isDirectory (Path.ofText session.printed) = true →
        (session.reentry (.line session.lines)).stdout = session.printed →
          (session.runForeground session.reentryStages).2.directory = session.directory) := by
  refine ⟨fun h => ?_, fun h => ?_, fun h => ?_⟩
  · have hrefused := h (.startingAt "a/..") shelf [] (.line 0) (by decide +kernel)
    exact absurd hrefused (by decide +kernel)
  · have hrespelt := h (.startingAt "a//b/.") shelf [] (.line 0) (by decide +kernel)
      (by decide +kernel)
    exact absurd hrespelt (by decide +kernel)
  · have hstays := h (.startingAt "") twins [] (by decide +kernel) (by decide +kernel)
    exact absurd hstays (by decide +kernel)

end Conch
