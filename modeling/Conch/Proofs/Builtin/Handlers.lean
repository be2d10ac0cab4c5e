import Conch.Builtin.Standard
import Conch.Proofs.Job.Flags
import Conch.Proofs.Pipeline.Local

/-!
# What the standard commands touch

Of the standard commands only `killjobs` changes anything, and it kills one job at most.
But for those that ask the host or look at the jobs, all are local.
-/

namespace Conch

namespace Registry

theorem mem_insertCommand {command other : Command} {commands : List Command}
    (h : other ∈ insertCommand command commands) : other = command ∨ other ∈ commands := by
  induction commands with
  | nil => simpa [insertCommand] using h
  | cons first rest ih =>
      simp only [insertCommand] at h
      split at h
      · simpa using h
      · split at h
        · rcases List.mem_cons.mp h with h | h
          · exact .inl h
          · exact .inr (List.mem_cons_of_mem _ h)
        · rcases List.mem_cons.mp h with h | h
          · exact .inr (by simp [h])
          · rcases ih h with h | h
            · exact .inl h
            · exact .inr (List.mem_cons_of_mem _ h)

theorem mem_foldl_register {registry : Registry} {commands : List Command} {other : Command}
    (h : other ∈ (commands.foldl Registry.register registry).commands) :
    other ∈ commands ∨ other ∈ registry.commands := by
  induction commands generalizing registry with
  | nil => exact .inr h
  | cons command rest ih =>
      rcases ih h with h | h
      · exact .inl (List.mem_cons_of_mem _ h)
      · rcases mem_insertCommand h with rfl | h
        · exact .inl (List.mem_cons_self ..)
        · exact .inr h

end Registry

namespace Builtin

theorem operates_reporting (kind : Job.Table.Op → Prop)
    (run : List String → Context → Machine → Outcome) : (reporting run).Operates kind :=
  fun _ _ _ => ⟨[], by simp, rfl⟩

theorem operates_killjobs : killjobs.Operates fun op => op.isKill = true := by
  intro args context machine
  cases harg : args.head? with
  | none => exact ⟨[], by simp, by simp [killjobs, harg]⟩
  | some arg =>
      cases hid : jobId? arg with
      | none => exact ⟨[], by simp, by simp [killjobs, harg, hid]⟩
      | some id =>
          refine ⟨[.kill id], by simp [Job.Table.Op.isKill], ?_⟩
          cases hkill : machine.jobs.kill id with
          | none => simp [killjobs, harg, hid, hkill, Job.Table.apply]
          | some table => simp [killjobs, harg, hid, hkill, Job.Table.apply]

/-- The standard commands are those of the list and `help`. -/
theorem mem_registry {command : Command} (h : command ∈ registry.commands) :
    command ∈ commands ∨ ∃ run, command.handler = reporting run := by
  rcases Registry.mem_insertCommand h with rfl | h
  · exact .inr ⟨_, rfl⟩
  · rcases Registry.mem_foldl_register h with h | h
    · exact .inl h
    · simp [Registry.empty] at h

/-- A standard command either is `killjobs` or changes nothing. -/
theorem handler_of_mem {command : Command} (h : command ∈ registry.commands) :
    command.handler = killjobs ∨ ∃ run, command.handler = reporting run := by
  rcases mem_registry h with h | h
  · simp only [commands, List.mem_cons, List.not_mem_nil, or_false] at h
    rcases h with rfl | rfl | rfl | rfl | rfl | rfl | rfl | rfl | rfl | rfl | rfl
    case inr.inr.inr.inr.inr.inr.inr.inr.inr.inl => exact .inl rfl
    all_goals exact .inr ⟨_, rfl⟩
  · exact .inr h

/-- The standard commands do nothing to the job table but kill jobs. -/
theorem registry_operates : registry.Operates fun op => op.isKill = true := by
  intro command hmem
  rcases handler_of_mem hmem with hhandler | ⟨run, hhandler⟩
  · rw [hhandler]
    exact operates_killjobs
  · rw [hhandler]
    exact operates_reporting _ run

/-! ## Locality -/

/-- An outcome that is the same wherever the same is shown. -/
def LooksLocally (run : List String → Context → Machine → Outcome) : Prop :=
  ∀ args context other machine another, Alike context other machine another →
    run args other another = run args context machine

theorem LooksLocally.isLocal {run : List String → Context → Machine → Outcome}
    (h : LooksLocally run) : (reporting run).IsLocal := by
  intro args context other machine another halike
  refine ⟨_, machine.files, rfl, ?_⟩
  rw [reporting, h args context other machine another halike, ← halike.files]

section Locality

variable {context other : Context} {machine another : Machine}

theorem looksLocally_cd : LooksLocally cd := by
  intro args context other machine another h
  unfold cd changeDirectory
  simp only [h.check, h.symm.check, h.resolve, h.files]

theorem looksLocally_pwd : LooksLocally pwd := by
  intro args context other machine another h
  simp only [pwd, h.directory]

theorem looksLocally_ls : LooksLocally ls := by
  intro args context other machine another h
  unfold ls listing
  simp only [h.check, h.symm.check, h.resolve, h.files]

theorem readFiles_alike (h : Alike context other machine another) (files : List String) :
    readFiles other another files = readFiles context machine files := by
  induction files with
  | nil => rfl
  | cons file rest ih => simp only [readFiles, ih, h.readText]

theorem looksLocally_cat : LooksLocally cat := by
  intro args context other machine another h
  simp only [cat, h.stdin, readFiles_alike h]

theorem filterOutcome_alike (h : Alike context other machine another) (name : String)
    (filter : String → String) (file : Option String) :
    filterOutcome name filter file other another =
      filterOutcome name filter file context machine := by
  simp only [filterOutcome, inputText, h.stdin, h.readText]

theorem looksLocally_grep : LooksLocally grep := by
  intro args context other machine another h
  unfold grep grepWith
  simp only [filterOutcome_alike h]

theorem looksLocally_sort : LooksLocally sort :=
  fun _ _ _ _ _ h => filterOutcome_alike h _ _ _

theorem looksLocally_unique : LooksLocally unique :=
  fun _ _ _ _ _ h => filterOutcome_alike h _ _ _

theorem looksLocally_help (text : String) : LooksLocally (help text) :=
  fun _ _ _ _ _ _ => rfl

end Locality

/-- The standard commands that ask the host or look at the jobs. -/
def outgoing : List String := ["fetch", "jobs", "killjobs", "nexus"]

/-- All other standard commands are local. -/
theorem isLocal_of_mem {command : Command} (h : command ∈ registry.commands)
    (hname : command.name ∉ outgoing) : command.handler.IsLocal := by
  rcases Registry.mem_insertCommand h with rfl | h
  · exact (looksLocally_help _).isLocal
  rcases Registry.mem_foldl_register h with h | h
  · simp only [commands, List.mem_cons, List.not_mem_nil, or_false] at h
    rcases h with rfl | rfl | rfl | rfl | rfl | rfl | rfl | rfl | rfl | rfl | rfl
    · exact looksLocally_cd.isLocal
    · exact looksLocally_pwd.isLocal
    · exact looksLocally_ls.isLocal
    · exact looksLocally_cat.isLocal
    · exact looksLocally_grep.isLocal
    · exact looksLocally_sort.isLocal
    · exact looksLocally_unique.isLocal
    all_goals exact absurd (by decide) hname
  · simp [Registry.empty] at h

theorem isLocal_of_names {stages : List Line.Stage}
    (h : ∀ stage ∈ stages, Text.asciiLower stage.name ∉ outgoing) :
    Pipeline.IsLocal registry stages := by
  intro stage hmem command hfind
  have hname : command.name = Text.asciiLower stage.name := by
    simpa using List.find?_some hfind
  exact isLocal_of_mem (Registry.mem_of_find? hfind) (hname ▸ h stage hmem)

end Builtin

end Conch
