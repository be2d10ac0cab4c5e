import Conch.Proofs.Files.Edits
import Conch.Proofs.Pipeline.Composition
import Conch.Proofs.Pipeline.Flight

/-!
# What a pipeline writes

`Writes` lists how the write step of a stage can go, and which edit it makes.  A stage
makes no other edit, provided that its handler keeps files as they are, and the edits of a
run are those of its turns, one after another.  The target is seen from the directory that
the stage has set; the handler has been called before on the files as they were then.
-/

namespace Conch

open Files (Edit EditedBy)

/-- No handler of a registry changes files. -/
def Registry.KeepsFiles (registry : Registry) : Prop :=
  ∀ command ∈ registry.commands, ∀ args context machine,
    (command.handler args context machine).2.files = machine.files

namespace Pipeline

/-! ## The write step -/

/-- How the write step of a stage can go: its result, and the edit that it makes. -/
inductive Writes (context : Context) (machine : Machine) (target output : String)
    (append : Bool) : Except Fault Unit → Option Edit → Prop
  /-- The pipeline has been asked to stop. -/
  | cancelled (hfired : machine.isFired context.token = true) :
      Writes context machine target output append (.error .aborted) none
  /-- The target climbs. -/
  | climbing {cause : Path.Traversal} (hlive : machine.isFired context.token = false)
      (hpath : Path.resolve (some target) context.directory = .error cause) :
      Writes context machine target output append (.error (.traversal cause)) none
  /-- The output is too large. -/
  | tooLarge {path : Path} (hlive : machine.isFired context.token = false)
      (hpath : Path.resolve (some target) context.directory = .ok path)
      (hlarge : Limits.fileWrite < (Text.Utf8.encode output.toList).length) :
      Writes context machine target output append
        (.error (.tooLarge ("Output for " ++ target) Limits.fileWrite)) none
  /-- The target cannot be opened. -/
  | unopened {path : Path} {error : Files.OsError}
      (hlive : machine.isFired context.token = false)
      (hpath : Path.resolve (some target) context.directory = .ok path)
      (hsmall : (Text.Utf8.encode output.toList).length ≤ Limits.fileWrite)
      (hopen : machine.files.openForWriting path append = .error error) :
      Writes context machine target output append (.error (.file ("open " ++ target) error)) none
  /-- The target is a regular file, or a name at which one can be made. -/
  | stored {path : Path} {location : Files.Location} {old : Option (List UInt8)}
      (hlive : machine.isFired context.token = false)
      (hpath : Path.resolve (some target) context.directory = .ok path)
      (hsmall : (Text.Utf8.encode output.toList).length ≤ Limits.fileWrite)
      (hleads : machine.files.LeadsTo path location old) :
      Writes context machine target output append (.ok ())
        (some ⟨location, old, append, Text.Utf8.encode output.toList⟩)
  /-- The target is a device that may be written, and which keeps nothing. -/
  | swallowed {path : Path} {location : Files.Location} {kind : Files.Device}
      (hlive : machine.isFired context.token = false)
      (hpath : Path.resolve (some target) context.directory = .ok path)
      (hsmall : (Text.Utf8.encode output.toList).length ≤ Limits.fileWrite)
      (hdevice : machine.files.walkPath .newFile path = .found location (.device kind))
      (hallowed : machine.files.allows location .write = true)
      (htakes : (kind.full && !(Text.Utf8.encode output.toList).isEmpty) = false) :
      Writes context machine target output append (.ok ()) none
  /-- The target is a device that may be written, and which is full. -/
  | full {path : Path} {location : Files.Location} {kind : Files.Device}
      (hlive : machine.isFired context.token = false)
      (hpath : Path.resolve (some target) context.directory = .ok path)
      (hsmall : (Text.Utf8.encode output.toList).length ≤ Limits.fileWrite)
      (hdevice : machine.files.walkPath .newFile path = .found location (.device kind))
      (hallowed : machine.files.allows location .write = true)
      (hfull : (kind.full && !(Text.Utf8.encode output.toList).isEmpty) = true) :
      Writes context machine target output append
        (.error (.file ("write " ++ target) .noSpace)) none

section Writes

variable {context : Context} {machine : Machine} {target output : String} {append : Bool}

/-- The write step does just that. -/
theorem Writes.eq {result : Except Fault Unit} {edit? : Option Edit}
    (h : Writes context machine target output append result edit?) :
    writeOutput context machine target output append =
      (result, { machine with files := machine.files.after edit? }) := by
  unfold writeOutput Context.check Context.isCancelled Context.resolve
  cases h with
  | cancelled hfired => simp only [hfired, if_true]; rfl
  | climbing hlive hpath => simp only [hlive, hpath]; rfl
  | tooLarge hlive hpath hlarge => simp only [hlive, hpath, hlarge]; rfl
  | unopened hlive hpath hsmall hopen =>
      simp only [hlive, hpath, Nat.not_lt.mpr hsmall, hopen]; rfl
  | stored hlive hpath hsmall hleads =>
      obtain ⟨opened, hopen, hwrite⟩ :=
        Files.openForWriting_of_leadsTo hleads append (Text.Utf8.encode output.toList)
      simp only [hlive, hpath, Nat.not_lt.mpr hsmall, hopen, hwrite]; rfl
  | swallowed hlive hpath hsmall hdevice hallowed htakes =>
      obtain ⟨opened, hopen, -, hwrite⟩ :=
        Files.openForWriting_of_device hdevice hallowed append
          (Text.Utf8.encode output.toList)
      simp only [hlive, hpath, Nat.not_lt.mpr hsmall, hopen, hwrite, htakes]; rfl
  | full hlive hpath hsmall hdevice hallowed hfull =>
      obtain ⟨opened, hopen, hstore, hwrite⟩ :=
        Files.openForWriting_of_device hdevice hallowed append
          (Text.Utf8.encode output.toList)
      simp only [hlive, hpath, Nat.not_lt.mpr hsmall, hopen, hwrite, hfull, hstore]; rfl

/-- The write step goes in one of these ways. -/
theorem exists_writes (context : Context) (machine : Machine) (target output : String)
    (append : Bool) :
    ∃ result edit?, Writes context machine target output append result edit? := by
  -- in the order of the checks: the flag, the path, the size, and only then the target is opened
  cases hlive : machine.isFired context.token with
  | true => exact ⟨_, _, .cancelled hlive⟩
  | false =>
      cases hpath : Path.resolve (some target) context.directory with
      | error cause => exact ⟨_, _, .climbing hlive hpath⟩
      | ok path =>
          rcases Nat.lt_or_ge Limits.fileWrite (Text.Utf8.encode output.toList).length with
            hlarge | hsmall
          · exact ⟨_, _, .tooLarge hlive hpath hlarge⟩
          · cases hopen : machine.files.openForWriting path append with
            | error error => exact ⟨_, _, .unopened hlive hpath hsmall hopen⟩
            | ok opened =>
                rcases Files.openForWriting_eq_ok hopen with
                  ⟨location, old, hleads⟩ | ⟨location, kind, hdevice, hallowed⟩
                · exact ⟨_, _, .stored hlive hpath hsmall hleads⟩
                · cases hfull : kind.full && !(Text.Utf8.encode output.toList).isEmpty with
                  | false => exact ⟨_, _, .swallowed hlive hpath hsmall hdevice hallowed hfull⟩
                  | true => exact ⟨_, _, .full hlive hpath hsmall hdevice hallowed hfull⟩

/-- The edit is about what stands there. -/
theorem Writes.fits {result : Except Fault Unit} {edit? : Option Edit}
    (h : Writes context machine target output append result edit?) (edit : Edit)
    (hedit : edit? = some edit) : edit.Fits machine.files := by
  cases h with
  | stored _ _ _ hleads =>
      obtain rfl := Option.some.inj hedit
      exact ⟨hleads.stands.1, hleads.stands.2⟩
  | cancelled | climbing | tooLarge | unopened | swallowed | full => cases hedit

end Writes

/-! ## The edits of a run -/

/-- What a turn does to the files: it makes an edit, or none. -/
inductive Turn.Edits (registry : Registry) (index : Nat) (turn : Turn) : Option Edit → Prop
  /-- The handler does not run. -/
  | uncalled (hcalls : turn.report.calls = []) : Turn.Edits registry index turn none
  /-- The handler crashes. -/
  | crashed {message : String} (hending : turn.report.ending = .crashed message) :
      Turn.Edits registry index turn none
  /-- The handler returns, and its output is not redirected. -/
  | shows {command : Command} {input : Option String} {outcome : Outcome} {after : Machine}
      (hcalls : Calls registry turn.stage index turn.piped turn.context turn.machine command input
        (.returned outcome) after)
      (htarget : turn.stage.outputFile? = none) : Turn.Edits registry index turn none
  /-- The handler returns, having left the files as they were when it was called, and its
  output is written to the target, as seen from the directory that the stage leaves. -/
  | redirects {command : Command} {input : Option String} {outcome : Outcome} {after : Machine}
      {target : String} {result : Except Fault Unit} {edit? : Option Edit}
      (hcalls : Calls registry turn.stage index turn.piped turn.context turn.machine command input
        (.returned outcome) after)
      (hafter : after.files = turn.machine.files)
      (htarget : turn.stage.outputFile? = some target)
      (hcontext : turn.report.context = adoptDirectory command outcome turn.context)
      (hwrites : Writes turn.report.context after target outcome.stdout turn.stage.appends result
        edit?)
      (hending : turn.report.ending = .returned (match result with
        | .ok () => ⟨confirmation turn.stage.appends target, outcome.stderr, outcome.exitCode⟩
        | .error fault => outputRefusal target fault)) :
      Turn.Edits registry index turn edit?

/-- The edits of the turns of a run, the first of which has the index `index`. -/
structure RunEdits (registry : Registry) (index : Nat) (turns : List Turn)
    (edits : List (Option Edit)) : Prop where
  length : edits.length = turns.length
  each : ∀ i (turn : Turn) edit?, turns[i]? = some turn → edits[i]? = some edit? →
    turn.Edits registry (index + i) edit?

section RunEdits

variable {registry : Registry} {index : Nat} {turn : Turn} {turns : List Turn}

theorem RunEdits.cons {edit? : Option Edit} {edits : List (Option Edit)}
    (h : turn.Edits registry index edit?) (hlater : RunEdits registry (index + 1) turns edits) :
    RunEdits registry index (turn :: turns) (edit? :: edits) where
  length := by simp [hlater.length]
  each := by
    intro i other another hturn hedit
    cases i with
    | zero =>
        obtain rfl := Option.some.inj hturn
        obtain rfl := Option.some.inj hedit
        exact h
    | succ i =>
        have hedit := hlater.each i other another (by simpa using hturn) (by simpa using hedit)
        rwa [Nat.add_right_comm] at hedit

variable (hkeeps : registry.KeepsFiles)
include hkeeps

/-- A handler that has been called has left the files as they were. -/
theorem Calls.files {stage : Line.Stage} {piped : Option String} {context : Context}
    {machine after : Machine} {command : Command} {input : Option String} {ending : Ending}
    (h : Calls registry stage index piped context machine command input ending after) :
    after.files = machine.files := by
  have hfiles := hkeeps command (Registry.mem_of_find? h.admits.known) stage.args
    { context with stdin := input } machine
  rwa [h.ends] at hfiles

/-- A turn does nothing else to the files. -/
theorem Turn.exists_edit
    (h : Goes registry turn.stage index turn.piped turn.context turn.machine turn.report) :
    ∃ edit?, turn.Edits registry index edit? ∧
      turn.report.machine.files = turn.machine.files.after edit? ∧
      ∀ edit, edit? = some edit → edit.Fits turn.machine.files := by
  obtain ⟨stage, piped, context, machine, report⟩ := turn
  simp only at h
  cases h with
  | cancelled | unknown | refused | unreadable => exact ⟨none, .uncalled rfl, rfl, by simp⟩
  | crashed hcalls => exact ⟨none, .crashed rfl, hcalls.files hkeeps, by simp⟩
  | returned hcalls hfile => exact ⟨none, .shows hcalls hfile, hcalls.files hkeeps, by simp⟩
  | @written command input outcome after final file hcalls hfile hwrite =>
      obtain ⟨result, edit?, hwrites⟩ := exists_writes (adoptDirectory command outcome context)
        after file outcome.stdout stage.appends
      have hfiles := hcalls.files hkeeps
      obtain ⟨rfl, rfl⟩ := Prod.mk.inj (hwrites.eq.symm.trans hwrite)
      refine ⟨edit?, .redirects hcalls hfiles hfile rfl hwrites rfl, ?_, ?_⟩
      · rw [← hfiles]
      · rw [← hfiles]
        exact hwrites.fits
  | @unwritten command input outcome after final file fault hcalls hfile hwrite =>
      obtain ⟨result, edit?, hwrites⟩ := exists_writes (adoptDirectory command outcome context)
        after file outcome.stdout stage.appends
      have hfiles := hcalls.files hkeeps
      obtain ⟨rfl, rfl⟩ := Prod.mk.inj (hwrites.eq.symm.trans hwrite)
      refine ⟨edit?, .redirects hcalls hfiles hfile rfl hwrites rfl, ?_, ?_⟩
      · rw [← hfiles]
      · rw [← hfiles]
        exact hwrites.fits

/-- All that a run does to the files are the edits of its turns.  The induction is on the
turns; each starts on the machine that the one before has left. -/
theorem exists_edits {last : Turn}
    (hgoes : ∀ i turn, turns[i]? = some turn →
      Goes registry turn.stage (index + i) turn.piped turn.context turn.machine turn.report)
    (hchain : turns.IsChain Turn.HandsOver) (hlast : turns.getLast? = some last)
    {machine : Machine} (hstarts : ∀ turn, turns.head? = some turn → turn.machine = machine) :
    ∃ edits, RunEdits registry index turns edits ∧
      EditedBy machine.files edits last.report.machine.files := by
  induction turns generalizing index machine with
  | nil => cases hlast
  | cons turn rest ih =>
      obtain rfl := hstarts turn rfl
      obtain ⟨edit?, hedit, hfiles, hfits⟩ := Turn.exists_edit hkeeps (hgoes 0 turn rfl)
      cases rest with
      | nil =>
          obtain rfl := Option.some.inj hlast
          refine ⟨[edit?], RunEdits.cons hedit ⟨rfl, by simp⟩, .cons hfits ?_⟩
          rw [← hfiles]
          exact .nil _
      | cons later rest =>
          obtain ⟨hhands, hchain⟩ := List.isChain_cons_cons.mp hchain
          obtain ⟨outcome, -, -, -, -, hmachine⟩ := hhands
          -- the later turns count their indices from the next one
          have hnext : ∀ i other, (later :: rest)[i]? = some other →
              Goes registry other.stage (index + 1 + i) other.piped other.context other.machine
                other.report := fun i other hother => by
            have hgoesOn := hgoes (i + 1) other (by simpa using hother)
            rwa [← Nat.add_assoc, Nat.add_right_comm] at hgoesOn
          obtain ⟨edits, hedits, hafter⟩ := ih hnext hchain
            (by simpa [List.getLast?_cons] using hlast) fun other hother => by
              obtain rfl := Option.some.inj hother
              exact hmachine
          refine ⟨edit? :: edits, RunEdits.cons hedit hedits, .cons hfits ?_⟩
          rw [← hfiles]
          exact hafter

/-- The edits of a pipeline that is executed at one go. -/
theorem exists_edits_run {stages : List Line.Stage} (hsome : stages ≠ [])
    (hcount : stages.length ≤ Limits.stages) (context : Context) (machine : Machine) :
    ∃ turns last edits, turns.getLast? = some last ∧
      IsRun registry 0 context.stdin { context with stdin := none } machine stages turns ∧
      RunEdits registry 0 turns edits ∧
      EditedBy machine.files edits (run registry stages context machine).machine.files := by
  obtain ⟨turns, last, hlast, hturns⟩ := exists_isRun registry hsome context machine
  obtain ⟨edits, hedits, hafter⟩ := exists_edits hkeeps hturns.goes hturns.handsOver hlast
    fun turn hturn => (hturns.starts turn hturn).2.2
  refine ⟨turns, last, edits, hlast, hturns, hedits, ?_⟩
  rw [hturns.run_eq hlast hcount]
  exact hafter

end RunEdits

/-- A pipeline with too many stages leaves the machine as it is. -/
theorem machine_run_of_tooLong (registry : Registry) {stages : List Line.Stage}
    (hlong : Limits.stages < stages.length) (context : Context) (machine : Machine) :
    (run registry stages context machine).machine = machine := by
  unfold run
  rw [if_pos hlong]
  split <;> rfl

/-! ## The edit of a half stage -/

section Leave

variable {command : Command} {stage : Line.Stage} {outcome : Outcome} {context : Context}
  {machine : Machine}

theorem leave_of_none (h : stage.outputFile? = none) :
    leave command stage outcome context machine =
      (outcome, adoptDirectory command outcome context, machine) := by
  simp only [leave, h]

theorem Writes.leave_machine {target : String} {result : Except Fault Unit} {edit? : Option Edit}
    (h : Writes (adoptDirectory command outcome context) machine target outcome.stdout
      stage.appends result edit?) (htarget : stage.outputFile? = some target) :
    (leave command stage outcome context machine).2.2.files = machine.files.after edit? := by
  simp only [leave, htarget, h.eq]
  cases result <;> rfl

end Leave

namespace Flight

/-- What a half stage does to the files: only a half that leaves a stage can make an edit. -/
inductive Edits (flight : Flight) (machine : Machine) : Option Edit → Prop
  /-- No stage is being left. -/
  | elsewhere (hphase : ∀ command outcome, flight.phase ≠ .leaving command outcome) :
      Edits flight machine none
  | runsOut (hstages : flight.stages = []) : Edits flight machine none
  /-- The output of the stage is not redirected. -/
  | shows {command : Command} {outcome : Outcome} {stage : Line.Stage} {rest : List Line.Stage}
      (hphase : flight.phase = .leaving command outcome) (hstages : flight.stages = stage :: rest)
      (htarget : stage.outputFile? = none) : Edits flight machine none
  /-- The output of the stage is written to the target, as seen from the directory that the
  stage sets. -/
  | redirects {command : Command} {outcome : Outcome} {stage : Line.Stage}
      {rest : List Line.Stage} {target : String} {result : Except Fault Unit}
      {edit? : Option Edit} (hphase : flight.phase = .leaving command outcome)
      (hstages : flight.stages = stage :: rest) (htarget : stage.outputFile? = some target)
      (hwrites : Writes (adoptDirectory command outcome flight.context) machine target
        outcome.stdout stage.appends result edit?) :
      Edits flight machine edit?

/-- A half stage does nothing else to the files. -/
theorem exists_edit {registry : Registry} (hkeeps : registry.KeepsFiles) (flight : Flight)
    (machine : Machine) :
    ∃ edit?, flight.Edits machine edit? ∧
      (flight.advance registry machine).2.1.files = machine.files.after edit? ∧
      ∀ edit, edit? = some edit → edit.Fits machine.files := by
  generalize hresult : flight.advance registry machine = result
  cases moves hresult with
  | rests hended =>
      refine ⟨none, .elsewhere fun command outcome hphase => ?_, rfl, by simp⟩
      simp [ending?, hphase] at hended
  | runsOut _ hstages => exact ⟨none, .runsOut hstages, rfl, by simp⟩
  | refused hphase => exact ⟨none, .elsewhere (by simp [hphase]), rfl, by simp⟩
  | @crashed stage _ command input _ _ hphase _ henter hcall
  | @called stage _ command input _ _ hphase _ henter hcall =>
      have hfiles := hkeeps command (Registry.mem_of_find? (enter_eq_ok_iff.mp henter).1.known)
        stage.args { flight.context with stdin := input } machine
      rw [hcall] at hfiles
      exact ⟨none, .elsewhere (by simp [hphase]), hfiles, by simp⟩
  | @left stage _ command outcome _ _ _ hphase hstages hleave =>
      cases htarget : stage.outputFile? with
      | none =>
          rw [leave_of_none htarget] at hleave
          cases hleave
          exact ⟨none, .shows hphase hstages htarget, rfl, by simp⟩
      | some target =>
          obtain ⟨result, edit?, hwrites⟩ := exists_writes
            (adoptDirectory command outcome flight.context) machine target outcome.stdout
            stage.appends
          have hfiles := hwrites.leave_machine htarget
          rw [hleave] at hfiles
          exact ⟨edit?, .redirects hphase hstages htarget hwrites, hfiles, hwrites.fits⟩

/-- A pipeline that is about to leave a stage has just called its handler. -/
theorem calls_of_advance {registry : Registry} {flight : Flight} {machine : Machine}
    {result : Flight × Machine × Option Call} (h : flight.advance registry machine = result)
    {command : Command} {outcome : Outcome} (hphase : result.1.phase = .leaving command outcome) :
    ∃ stage rest input, result.1.stages = stage :: rest ∧
      Calls registry stage result.1.index result.1.piped result.1.context machine command input
        (.returned outcome) result.2.1 := by
  cases moves h with
  | rests hended =>
      have hleaving : flight.phase = .leaving command outcome := hphase
      simp [ending?, hleaving] at hended
  | runsOut | crashed => cases hphase
  | refused | left => exact absurd hphase (afterStage_phase_ne _ _ _ _ _ _)
  | @called stage rest found input result _ _ hstages henter hcall =>
      obtain ⟨rfl, rfl⟩ := Phase.leaving.inj hphase
      obtain ⟨hadmits, hgiven⟩ := enter_eq_ok_iff.mp henter
      exact ⟨stage, rest, input, hstages, hadmits, hgiven, hcall⟩

end Flight

end Pipeline

end Conch
