import Conch.Proofs.Builtin.Handlers

/-!
# What the standard commands answer

The exit code of an outcome says what has happened: 0 is a success, 127 is a command that
nobody knows, and 1 is any other failure.  Failures have an error text and successes have
none.  Every standard command keeps to this, whatever it is given: it returns, and what it
returns is no missing command.
-/

namespace Conch

namespace Outcome

/-- The exit code is one of three, and failures are those with an error text. -/
structure Telling (outcome : Outcome) : Prop where
  code : outcome.exitCode = 0 ∨ outcome.exitCode = 1 ∨ outcome.exitCode = 127
  silent : outcome.exitCode = 0 ↔ outcome.stderr = ""

/-- The exit code also tells whether a command is missing. -/
structure Classed (missing : Prop) (outcome : Outcome) : Prop extends Telling outcome where
  unknown : outcome.exitCode = 127 ↔ missing

theorem classed_success (stdout : String) : (success stdout).Classed False where
  code := .inl rfl
  silent := ⟨fun _ => rfl, fun _ => rfl⟩
  unknown := by simp [success]

theorem classed_failure {stderr : String} (h : stderr ≠ "") : (failure 1 stderr).Classed False where
  code := .inr (.inl rfl)
  silent := by simp [failure, h]
  unknown := by simp [failure]

/-- The output does not matter. -/
theorem Classed.withStdout {missing : Prop} {outcome : Outcome} (h : outcome.Classed missing)
    (stdout : String) : ({ outcome with stdout := stdout } : Outcome).Classed missing :=
  ⟨⟨h.code, h.silent⟩, h.unknown⟩

theorem Classed.congr {missing other : Prop} {outcome : Outcome} (h : outcome.Classed missing)
    (hsame : missing ↔ other) : outcome.Classed other :=
  ⟨h.toTelling, h.unknown.trans hsame⟩

end Outcome

/-- A handler that always returns, and never with a missing command. -/
def Handler.Answers (handler : Handler) : Prop :=
  ∀ args context machine, ∃ outcome after,
    handler args context machine = (.returned outcome, after) ∧ outcome.Classed False

/-- All handlers of a registry are of that kind. -/
def Registry.Answers (registry : Registry) : Prop :=
  ∀ command ∈ registry.commands, command.handler.Answers

/-! ## Attempts -/

/-- An attempt that fails for no missing command. -/
def Plain {α : Type} (attempt : Except Fault α) : Prop :=
  ∀ fault, attempt = .error fault → fault.exitCode = 1

section Plain

variable {α β : Type}

theorem Plain.ok (result : α) : Plain (.ok result : Except Fault α) := by
  intro fault h
  cases h

theorem Plain.error {fault : Fault} (h : fault.exitCode = 1) :
    Plain (.error fault : Except Fault α) := by
  rintro other ⟨⟩
  exact h

theorem Plain.bind {attempt : Except Fault α} {next : α → Except Fault β} (h : Plain attempt)
    (hnext : ∀ result, Plain (next result)) : Plain (attempt >>= next) := by
  cases attempt with
  | error fault => exact .error (h fault rfl)
  | ok result => exact hnext result

theorem Plain.map {attempt : Except Fault α} (h : Plain attempt) (f : α → β) :
    Plain (attempt.map f) := by
  cases attempt with
  | error fault => exact .error (h fault rfl)
  | ok result => exact .ok (f result)

theorem Plain.mapM {action : α → Except Fault β} (h : ∀ item, Plain (action item))
    (items : List α) : Plain (items.mapM action) := by
  induction items with
  | nil => exact .ok []
  | cons item rest ih =>
      rw [List.mapM_cons]
      exact (h item).bind fun _ => ih.bind fun _ => .ok _

end Plain

theorem Fault.classed_outcome {fault : Fault} (h : fault.exitCode = 1) (name : String) :
    (fault.outcome name).Classed False := by
  rw [Fault.outcome, h]
  exact Outcome.classed_failure (by simp)

namespace Context

variable (context : Context) (machine : Machine)

theorem plain_check : Plain (context.check machine) := by
  unfold check
  split
  · exact .error rfl
  · exact .ok ()

theorem plain_resolve (target : Option String) : Plain (context.resolve target) := by
  unfold resolve
  split
  · exact .ok _
  · exact .error rfl

theorem plain_readText (target : String) : Plain (context.readText machine target) := by
  refine (context.plain_check machine).bind fun _ => ?_
  refine (context.plain_resolve _).bind fun path => ?_
  split
  · exact .ok _
  · next cause _ => cases cause <;> exact .error rfl

end Context

namespace Builtin

/-! ## The commands one by one -/

section Commands

variable (context : Context) (machine : Machine)

theorem classed_inputMissing (name : String) : (inputMissing name).Classed False :=
  Outcome.classed_failure (by simp)

theorem classed_outcomeOf {attempt : Except Fault String} (h : Plain attempt) (name : String) :
    (outcomeOf name attempt).Classed False := by
  cases attempt with
  | ok text => exact Outcome.classed_success text
  | error fault => exact Fault.classed_outcome (h fault rfl) name

theorem classed_changeDirectory (target : String) :
    Plain (changeDirectory target context machine) ∧
      ∀ outcome, changeDirectory target context machine = .ok outcome → outcome.Classed False := by
  unfold changeDirectory
  cases hcheck : context.check machine with
  | error fault =>
      exact ⟨.error (context.plain_check machine fault hcheck), fun _ h => by cases h⟩
  | ok _ =>
      cases hpath : context.resolve (some target) with
      | error fault =>
          exact ⟨.error (context.plain_resolve _ fault hpath), fun _ h => by cases h⟩
      | ok path =>
          simp only [bind, Except.bind, pure, Except.pure]
          split
          · exact ⟨.error rfl, fun _ h => by cases h⟩
          · refine ⟨.ok _, fun outcome h => ?_⟩
            obtain rfl := Except.ok.inj h
            exact Outcome.classed_success (Path.shown path)
          · refine ⟨.ok _, fun outcome h => ?_⟩
            obtain rfl := Except.ok.inj h
            exact Outcome.classed_failure (by simp)

theorem classed_cd (args : List String) : (cd args context machine).Classed False := by
  unfold cd
  cases args.head? with
  | none => exact Outcome.classed_failure (by decide)
  | some target =>
      obtain ⟨hplain, hclassed⟩ := classed_changeDirectory context machine target
      simp only
      cases hchange : changeDirectory target context machine with
      | ok outcome => exact hclassed outcome hchange
      | error fault => exact Fault.classed_outcome (hplain fault hchange) "cd"

theorem plain_listing (target : Option String) (detailed : Bool) :
    Plain (listing target detailed context machine) := by
  refine (context.plain_resolve _).bind fun path => ?_
  refine (context.plain_check machine).bind fun _ => ?_
  split
  · exact .error rfl
  · refine (Plain.mapM (fun name => ?_) _).bind fun rows => .ok _
    unfold rowOf
    split
    · exact .ok _
    · exact .error rfl

/-- The error lines of `cat` are not empty. -/
theorem ne_empty_of_mem_readFiles (files : List String) :
    ∀ error ∈ (readFiles context machine files).2, error ≠ "" := by
  induction files with
  | nil => simp [readFiles]
  | cons file rest ih =>
      simp only [readFiles]
      cases context.readText machine file with
      | ok text => exact ih
      | error fault => simpa using ih

/-- Lines that are not empty make a text that is not. -/
theorem intercalate_ne_empty {lines : List String} (hsome : lines ≠ [])
    (h : ∀ line ∈ lines, line ≠ "") (separator : String) : separator.intercalate lines ≠ "" := by
  obtain ⟨first, rest, rfl⟩ := List.exists_cons_of_ne_nil hsome
  have hfirst : first ≠ "" := h first (List.mem_cons_self ..)
  cases rest with
  | nil => simpa using hfirst
  | cons second rest => simp [hfirst]

theorem classed_cat (args : List String) : (cat args context machine).Classed False := by
  unfold cat
  split
  · split
    · exact Outcome.classed_success _
    · exact classed_inputMissing "cat"
  · simp only
    split
    · exact Outcome.classed_success _
    · next herrors =>
        refine Outcome.classed_failure (intercalate_ne_empty ?_ ?_ "\n")
        · simpa using herrors
        · exact ne_empty_of_mem_readFiles context machine args

theorem plain_inputText (file : Option String) : Plain (inputText context machine file) := by
  unfold inputText
  split
  · exact .ok _
  · split
    · exact (context.plain_readText machine _).map some
    · exact .ok none

theorem classed_filterOutcome (name : String) (filter : String → String) (file : Option String) :
    (filterOutcome name filter file context machine).Classed False := by
  unfold filterOutcome
  split
  · exact Outcome.classed_success _
  · exact classed_inputMissing name
  · next fault hfault =>
      exact Fault.classed_outcome (plain_inputText context machine file fault hfault) name

theorem classed_grep (args : List String) : (grep args context machine).Classed False := by
  unfold grep grepWith
  split
  · exact Outcome.classed_failure (by decide)
  · split
    · exact Fault.classed_outcome rfl "grep"
    · exact classed_filterOutcome context machine _ _ _

theorem plain_takeBody (cancelled : Nat → Bool) (broken : Option String) (turn : Nat)
    (taken : List UInt8) (chunks : List (List UInt8)) :
    Plain (takeBody cancelled broken turn taken chunks) := by
  induction chunks generalizing turn taken with
  | nil =>
      unfold takeBody
      split
      · exact .error rfl
      · split
        · exact .error rfl
        · exact .ok taken
  | cons chunk rest ih =>
      unfold takeBody
      split
      · exact .error rfl
      · split
        · exact .ok taken
        · split
          · exact .error rfl
          · exact ih _ _

theorem plain_fetchText (target : String) : Plain (fetchText target context machine) := by
  have hfetchable : Plain (fetchable target) := by
    unfold fetchable
    split
    · exact .ok _
    · exact .error rfl
    · exact .error rfl
  have hremote : ∀ url, Plain (fetchRemote url context machine) := by
    intro url
    unfold fetchRemote
    split
    · exact .error rfl
    · refine (context.plain_check machine).bind fun _ => ?_
      split
      · exact .error rfl
      · refine (context.plain_check machine).bind fun _ => ?_
        exact (plain_takeBody _ _ _ _ _).bind fun _ => .ok _
  unfold fetchText
  split
  · exact hfetchable.bind hremote
  · exact context.plain_readText machine target

theorem classed_fetch (args : List String) : (fetch args context machine).Classed False := by
  unfold fetch
  split
  · exact Outcome.classed_failure (by decide)
  · exact classed_outcomeOf (plain_fetchText context machine _) "fetch"

theorem classed_jobs (args : List String) : (jobs args context machine).Classed False := by
  unfold jobs
  split <;> exact Outcome.classed_success _

theorem classed_nexus (args : List String) : (nexus args context machine).Classed False := by
  unfold nexus
  split
  · exact Outcome.classed_failure (by decide)
  · split
    · exact Outcome.classed_success _
    · simp only
      split
      · next subcommand _ =>
          cases subcommand with
          | env =>
              simp only [Subcommand.run, environmentOutcome]
              split
              · exact Outcome.classed_failure (by decide)
              · exact Outcome.classed_success _
          | status | system | network | users | clear | version | config =>
              exact Outcome.classed_success _
      · exact Outcome.classed_failure (by simp)

end Commands

/-! ## The registry -/

theorem answers_reporting {run : List String → Context → Machine → Outcome}
    (h : ∀ args context machine, (run args context machine).Classed False) :
    (reporting run).Answers :=
  fun args context machine => ⟨_, _, rfl, h args context machine⟩

theorem answers_killjobs : killjobs.Answers := by
  intro args context machine
  unfold killjobs
  split
  · exact ⟨_, _, rfl, Outcome.classed_failure (by decide)⟩
  · split
    · exact ⟨_, _, rfl, Outcome.classed_failure (by decide)⟩
    · split
      · exact ⟨_, _, rfl, Outcome.classed_failure (by simp)⟩
      · exact ⟨_, _, rfl, Outcome.classed_success _⟩

/-- All standard commands always return, and never with a missing command. -/
theorem registry_answers : registry.Answers := by
  intro command h
  rcases Registry.mem_insertCommand h with rfl | h
  · exact answers_reporting fun _ _ _ => Outcome.classed_success _
  rcases Registry.mem_foldl_register h with h | h
  · simp only [commands, List.mem_cons, List.not_mem_nil, or_false] at h
    rcases h with rfl | rfl | rfl | rfl | rfl | rfl | rfl | rfl | rfl | rfl | rfl
    · exact answers_reporting fun args context machine => classed_cd context machine args
    · exact answers_reporting fun _ _ _ => Outcome.classed_success _
    · exact answers_reporting fun _ context machine =>
        classed_outcomeOf (plain_listing context machine _ _) "ls"
    · exact answers_reporting fun args context machine => classed_cat context machine args
    · exact answers_reporting fun args context machine => classed_grep context machine args
    · exact answers_reporting fun _ context machine => classed_filterOutcome context machine _ _ _
    · exact answers_reporting fun _ context machine => classed_filterOutcome context machine _ _ _
    · exact answers_reporting fun args context machine => classed_fetch context machine args
    · exact answers_reporting fun args context machine => classed_jobs context machine args
    · exact answers_killjobs
    · exact answers_reporting fun args context machine => classed_nexus context machine args
  · simp [Registry.empty] at h

end Builtin

end Conch
