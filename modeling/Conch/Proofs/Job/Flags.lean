import Conch.Proofs.Job.Lifecycle
import Mathlib.Data.List.Infix

/-!
# What is stored, what runs, and what is fired

For a run of operations the three questions that are asked about an id: which operation
stored its final record, whether it is running, and whether its flag has been fired.  Each
is answered by the operations alone.  The third answer needs that records are handed in
with the flags of their own jobs; the table itself does not look at that.
-/

namespace Conch.Job.Table

/-- Every record that is handed in bears the flag of its own job. -/
def OwnFlags (ops : List Op) : Prop :=
  ∀ record, .update record ∈ ops → record.token = .job record.id

theorem OwnFlags.init {ops : List Op} {op : Op} (h : OwnFlags (ops ++ [op])) : OwnFlags ops :=
  fun record hmem => h record (List.mem_append_left _ hmem)

/-! ## One operation -/

/-- A tracked record was tracked before, or has just been started or handed in. -/
theorem of_get?_apply {table : Table} {op : Op} {id : Nat} {record : Record}
    (hget : (table.apply op).get? id = some record) :
    table.get? id = some record ∨
      (∃ command now, op = .create command now ∧ id = table.lastId + 1 ∧
        record = Record.start id command now) ∨
      (op = .update record ∧ record.id = id ∧ table.phase id = .running) := by
  cases op with
  | create command now =>
      -- a record that is pruned is not tracked any more, so the rest is about what is stored
      rw [apply, create_eq_prune, get?_prune] at hget
      split at hget
      · cases hget
      · rw [get?_begun] at hget
        split at hget
        · next hid =>
            subst hid
            exact .inr (.inl ⟨command, now, rfl, rfl, (Option.some.inj hget).symm⟩)
        · exact .inl hget
  | update handed =>
      cases hupdate : table.update handed with
      | none => exact .inl (by simpa [apply, hupdate] using hget)
      | some updated =>
          obtain ⟨hcurrent, rfl⟩ := update_eq_some_iff.mp hupdate
          simp only [apply, hupdate, Option.getD_some, get?_prune] at hget
          split at hget
          · cases hget
          · rw [get?_store] at hget
            split at hget
            · next hid =>
                obtain rfl := Option.some.inj hget
                subst hid
                exact .inr (.inr ⟨rfl, rfl, phase_eq_running_iff.mpr hcurrent⟩)
            · exact .inl hget
  | kill target =>
      cases hkill : table.kill target with
      | none => exact .inl (by simpa [apply, hkill] using hget)
      | some killed =>
          simp only [apply, hkill, Option.getD_some, get?_kill hkill] at hget
          split at hget
          · cases hget
          · exact .inl hget

/-- A job that has just been started is running, whatever is pruned. -/
theorem Sound.phase_create {table : Table} (h : table.Sound) (command : String) (now : Nat) :
    (table.create command now).2.phase (table.lastId + 1) = .running := by
  have hget : (table.begun command now).get? (table.lastId + 1) =
      some (Record.start (table.lastId + 1) command now) :=
    (get?_begun table command now _).trans (if_pos rfl)
  -- the record is running, and only finished ones are too many
  have hkept : table.lastId + 1 ∉ excess (table.begun command now).records := by
    intro hexcess
    obtain ⟨other, hother, hfinal⟩ := (h.begun command now).get?_of_mem_excess hexcess
    obtain rfl := Option.some.inj (hget.symm.trans hother)
    exact hfinal rfl
  refine phase_eq_running_iff.mpr ⟨Record.start (table.lastId + 1) command now, ?_, rfl⟩
  rw [create_eq_prune, get?_prune, if_neg hkept, hget]

/-- Which ids run after an operation. -/
theorem Sound.running_apply_iff {table : Table} (h : table.Sound) {op : Op} {id : Nat} :
    (table.apply op).phase id = .running ↔
      (table.phase id = .running ∧ op ≠ .kill id ∧
        ∀ record, op = .update record → record.id = id → record.status = .running) ∨
      (op.isCreate = true ∧ id = table.lastId + 1) := by
  constructor
  · intro hafter
    obtain ⟨record, hget, hrunning⟩ := phase_eq_running_iff.mp hafter
    rcases of_get?_apply hget with hbefore | ⟨command, now, rfl, hid, -⟩ | ⟨rfl, rfl, hbefore⟩
    -- The record was tracked before: no kill of the id, and nothing final handed in for it.
    · refine .inl ⟨phase_eq_running_iff.mpr ⟨record, hbefore, hrunning⟩, ?_, ?_⟩
      · rintro rfl
        cases hkill : table.kill id with
        | none => simp [Table.kill, hbefore] at hkill
        | some killed => simp [Table.apply, hkill, get?_kill hkill] at hget
      · rintro handed rfl rfl
        have hupdate := update_eq_some_iff.mpr
          ⟨⟨record, hbefore, hrunning⟩, (rfl : (table.store handed).prune = _)⟩
        simp only [Table.apply, hupdate, Option.getD_some, get?_prune, get?_store, if_true] at hget
        split at hget
        · cases hget
        · obtain rfl := Option.some.inj hget
          exact hrunning
    · exact .inr ⟨rfl, hid⟩
    · refine .inl ⟨hbefore, by simp, ?_⟩
      rintro handed hop -
      obtain rfl := Op.update.inj hop
      exact hrunning
  · rintro (⟨hbefore, hkill, hupdate⟩ | ⟨hcreate, rfl⟩)
    -- What is running stays so, unless the lifecycle says how it ended.
    · have hpath := h.apply_path op id
      rw [hbefore] at hpath
      rcases path_from_running hpath with hnext | ⟨hop, -⟩ | ⟨record, hop, hid, hfinal, -⟩
      · exact hnext
      · exact absurd hop hkill
      · exact absurd (hupdate record hop hid) hfinal
    · cases op with
      | create command now => exact h.phase_create command now
      | update record => simp [Op.isCreate] at hcreate
      | kill target => simp [Op.isCreate] at hcreate

/-- Only a kill of a running job fires a flag. -/
theorem mem_fired_apply_iff {table : Table} {op : Op} {token : Token} :
    token ∈ (table.apply op).fired ↔
      token ∈ table.fired ∨
        ∃ id record, op = .kill id ∧ table.get? id = some record ∧ record.status = .running ∧
          token = record.token := by
  cases op with
  | create command now => simp [apply, create, prune, without, store]
  | update record =>
      cases hupdate : table.update record with
      | none => simp [apply, hupdate]
      | some updated =>
          obtain ⟨-, rfl⟩ := update_eq_some_iff.mp hupdate
          simp [apply, hupdate, prune, without, store]
  | kill target =>
      cases hget : table.get? target with
      | none =>
          have hkill : table.kill target = none := by simp [kill, hget]
          simp [apply, hkill, hget]
      | some record =>
          have hkill : table.kill target = some _ := kill_eq_some_iff.mpr ⟨record, hget, rfl⟩
          by_cases hrunning : record.status = .running
          · simp [apply, hkill, hget, hrunning, or_comm]
          · simp [apply, hkill, hget, hrunning]

/-! ## Runs -/

/-- A final record was handed in for its id while that was running. -/
theorem finished_run {ops : List Op} {id : Nat} {record : Record}
    (h : (run ops).phase id = .finished record) :
    ∃ earlier, earlier ++ [.update record] <+: ops ∧ record.id = id ∧
      (run earlier).phase id = .running := by
  induction ops using List.reverseRecOn with
  | nil =>
      have hget := (phase_eq_finished_iff.mp h).1
      simp [run, get?, empty] at hget
  | append_singleton ops op ih =>
      rw [run_concat] at h
      obtain ⟨hget, hfinal⟩ := phase_eq_finished_iff.mp h
      -- What is started is running; only what is handed in can be final.
      rcases of_get?_apply hget with hbefore | ⟨_, _, -, -, rfl⟩ | ⟨rfl, hid, hrun⟩
      · obtain ⟨earlier, hleads, hstored⟩ := ih (phase_eq_finished_iff.mpr ⟨hbefore, hfinal⟩)
        exact ⟨earlier, hleads.trans (List.prefix_append ops [op]), hstored⟩
      · exact absurd rfl hfinal
      · exact ⟨ops, List.prefix_refl _, hid, hrun⟩

/-- Tracked records bear the flags of their own jobs. -/
theorem OwnFlags.token_eq {ops : List Op} (h : OwnFlags ops) {id : Nat} {record : Record}
    (hget : (run ops).get? id = some record) : record.token = .job id := by
  induction ops using List.reverseRecOn with
  | nil => simp [run, get?, empty] at hget
  | append_singleton ops op ih =>
      rw [run_concat] at hget
      rcases of_get?_apply hget with hbefore | ⟨_, _, -, -, rfl⟩ | ⟨rfl, rfl, -⟩
      · exact ih h.init hbefore
      · rfl
      · exact h record (by simp)

/-- What one more operation fires. -/
theorem OwnFlags.mem_fired_concat_iff {ops : List Op} (h : OwnFlags ops) {op : Op} {token : Token} :
    token ∈ (run (ops ++ [op])).fired ↔
      token ∈ (run ops).fired ∨
        ∃ id, op = .kill id ∧ (run ops).phase id = .running ∧ token = .job id := by
  rw [run_concat, mem_fired_apply_iff]
  refine or_congr_right (exists_congr fun id => ?_)
  constructor
  · rintro ⟨record, hop, hget, hrunning, rfl⟩
    exact ⟨hop, phase_eq_running_iff.mpr ⟨record, hget, hrunning⟩, h.token_eq hget⟩
  · rintro ⟨hop, hphase, rfl⟩
    obtain ⟨record, hget, hrunning⟩ := phase_eq_running_iff.mp hphase
    exact ⟨record, hop, hget, hrunning, (h.token_eq hget).symm⟩

/-- The flags that have been fired are those of the jobs killed while they were running. -/
theorem OwnFlags.mem_fired_iff {ops : List Op} (h : OwnFlags ops) {token : Token} :
    token ∈ (run ops).fired ↔
      ∃ id earlier, token = .job id ∧ earlier ++ [.kill id] <+: ops ∧
        (run earlier).phase id = .running := by
  induction ops using List.reverseRecOn with
  | nil => simp [run, empty]
  | append_singleton ops op ih =>
      rw [h.init.mem_fired_concat_iff, ih h.init]
      constructor
      · rintro (⟨id, earlier, htoken, hleads, hrun⟩ | ⟨id, rfl, hrun, htoken⟩)
        · exact ⟨id, earlier, htoken, hleads.trans (List.prefix_append ops [op]), hrun⟩
        · exact ⟨id, ops, htoken, List.prefix_refl _, hrun⟩
      · rintro ⟨id, earlier, htoken, hleads, hrun⟩
        rcases List.prefix_concat_iff.mp hleads with heq | hleads
        · obtain ⟨rfl, hop⟩ := List.append_inj' heq rfl
          exact .inr ⟨id, (List.cons.inj hop).1.symm, hrun, htoken⟩
        · exact .inl ⟨id, earlier, htoken, hleads, hrun⟩

/-- A flag that has been fired belongs to a job that has been started. -/
theorem OwnFlags.known_of_mem_fired {ops : List Op} (h : OwnFlags ops) {token : Token}
    (hfired : token ∈ (run ops).fired) :
    ∃ id, token = .job id ∧ 1 ≤ id ∧ id ≤ (run ops).lastId := by
  obtain ⟨id, earlier, htoken, ⟨later, rfl⟩, hrun⟩ := h.mem_fired_iff.mp hfired
  obtain ⟨record, hget, -⟩ := phase_eq_running_iff.mp hrun
  obtain ⟨hpos, hle⟩ := (run_sound earlier).id_known hget
  refine ⟨id, htoken, hpos, Nat.le_trans hle ?_⟩
  simp only [lastId_run, List.countP_append]
  omega

/-- After a kill of an id that has been given out, the id is gone for good. -/
theorem phase_after_kill {earlier ops : List Op} {id : Nat} (h : earlier ++ [.kill id] <+: ops)
    (hknown : 1 ≤ id ∧ id ≤ (run earlier).lastId) : (run ops).phase id = .gone := by
  obtain ⟨later, rfl⟩ := h
  rw [run_append]
  refine (run_sound _).gone_foldl ?_ later
  rw [run_concat]
  cases hkill : (run earlier).kill id with
  | none =>
      -- a refused kill finds the id given out and not tracked: it is gone already
      have hget : (run earlier).get? id = none := by simpa [kill] using hkill
      simp only [apply, hkill, Option.getD_none, phase, hget]
      exact if_neg (by omega)
  | some killed =>
      obtain ⟨record, hget, -⟩ := kill_eq_some_iff.mp hkill
      simp only [apply, hkill, Option.getD_some]
      exact phase_of_removed (run_sound earlier) hget (by simp [get?_kill hkill])
        (lastId_kill hkill)

theorem get?_of_gone {table : Table} {id : Nat} (h : table.phase id = .gone) :
    table.get? id = none := by
  cases hget : table.get? id with
  | none => rfl
  | some record =>
      rw [phase_of_get?_some hget] at h
      split at h <;> cases h

/-- A record for an id that is gone is refused. -/
theorem update_of_gone {table : Table} {record : Record} (h : table.phase record.id = .gone) :
    table.update record = none := by
  simp [update, get?_of_gone h]

/-! ## Kills, starts and hand-ins -/

/-- Whether an operation is a kill. -/
def Op.isKill : Op → Bool
  | .kill _ => true
  | _ => false

/-- The ids that records are handed in for, in order. -/
def handedIn (ops : List Op) : List Nat :=
  ops.filterMap fun
    | .update record => some record.id
    | _ => none

@[simp] theorem handedIn_append (ops later : List Op) :
    handedIn (ops ++ later) = handedIn ops ++ handedIn later :=
  List.filterMap_append

theorem handedIn_kills {ops : List Op} (h : ∀ op ∈ ops, op.isKill = true) : handedIn ops = [] := by
  refine List.filterMap_eq_nil_iff.mpr fun op hop => ?_
  have hkill := h op hop
  cases op with
  | kill => rfl
  | create | update => simp [Op.isKill] at hkill

/-- The jobs that run are those that are worked on and that nobody has killed. -/
def RunsWhile (ops : List Op) (busy : Nat → Prop) : Prop :=
  ∀ id, (run ops).phase id = .running ↔ busy id ∧ .job id ∉ (run ops).fired

section RunsWhile

variable {ops : List Op} {busy : Nat → Prop}

theorem OwnFlags.kill (h : OwnFlags ops) (target : Nat) : OwnFlags (ops ++ [.kill target]) := by
  intro record hmem
  rcases List.mem_append.mp hmem with hmem | hmem
  · exact h record hmem
  · simp at hmem

/-- A kill ends the job that it is for, and no other. -/
theorem RunsWhile.kill (h : RunsWhile ops busy) (hown : OwnFlags ops) (target : Nat) :
    RunsWhile (ops ++ [.kill target]) busy := by
  intro id
  rw [hown.mem_fired_concat_iff, run_concat, (run_sound ops).running_apply_iff]
  by_cases hid : target = id
  · subst hid
    constructor
    · rintro (⟨-, hother, -⟩ | ⟨hcreate, -⟩)
      · exact absurd rfl hother
      · simp [Op.isCreate] at hcreate
    · rintro ⟨hbusy, hlive⟩
      have hrun : (run ops).phase target ≠ .running :=
        fun hrun => hlive (.inr ⟨target, rfl, hrun, rfl⟩)
      exact absurd ((h target).mpr ⟨hbusy, fun hfired => hlive (.inl hfired)⟩) hrun
  · have hother : id ≠ target := fun heq => hid heq.symm
    rw [h id]
    simp [hid, hother, Op.isCreate]

theorem RunsWhile.kills (h : RunsWhile ops busy) (hown : OwnFlags ops) {more : List Op}
    (hmore : ∀ op ∈ more, op.isKill = true) :
    RunsWhile (ops ++ more) busy ∧ OwnFlags (ops ++ more) := by
  induction more generalizing ops with
  | nil => simpa using ⟨h, hown⟩
  | cons op more ih =>
      have hop := hmore op (List.mem_cons_self ..)
      cases op with
      | create | update => simp [Op.isKill] at hop
      | kill target =>
          rw [List.append_cons]
          exact ih (h.kill hown target) (hown.kill target) fun op hop =>
            hmore op (List.mem_cons_of_mem _ hop)

/-- A job that is started is worked on. -/
theorem RunsWhile.create (h : RunsWhile ops busy) (hown : OwnFlags ops) (command : String)
    (now : Nat) :
    RunsWhile (ops ++ [.create command now])
      (fun id => busy id ∨ id = (run ops).lastId + 1) := by
  intro id
  rw [hown.mem_fired_concat_iff, run_concat, (run_sound ops).running_apply_iff, h id]
  -- flags are fired for ids that have been given out only
  have hnew : id = (run ops).lastId + 1 → Token.job id ∉ (run ops).fired := by
    rintro rfl hfired
    obtain ⟨known, htoken, -, hle⟩ := hown.known_of_mem_fired hfired
    obtain rfl := Token.job.inj htoken
    omega
  simp only [reduceCtorEq, false_and, exists_false, or_false, ne_eq, not_false_eq_true, true_and,
    Op.isCreate]
  constructor
  · rintro (⟨⟨hbusy, hlive⟩, -⟩ | hid)
    · exact ⟨.inl hbusy, hlive⟩
    · exact ⟨.inr hid, hnew hid⟩
  · rintro ⟨hbusy | hid, hlive⟩
    · exact .inl ⟨⟨hbusy, hlive⟩, by simp⟩
    · exact .inr hid

/-- A job for which a final record is handed in is not worked on any more. -/
theorem RunsWhile.update (h : RunsWhile ops busy) (hown : OwnFlags ops) {record : Record}
    (hfinal : record.status ≠ .running) :
    RunsWhile (ops ++ [.update record]) (fun id => busy id ∧ id ≠ record.id) := by
  intro id
  rw [hown.mem_fired_concat_iff, run_concat, (run_sound ops).running_apply_iff, h id]
  have hstatus : (∀ handed, Op.update record = .update handed → handed.id = id →
      handed.status = .running) ↔ id ≠ record.id := by
    constructor
    · rintro hall rfl
      exact hfinal (hall record rfl rfl)
    · rintro hother handed hop rfl
      obtain rfl := Op.update.inj hop
      exact absurd rfl hother
  rw [hstatus]
  simp [Op.isCreate, and_assoc, and_comm, and_left_comm]

end RunsWhile

end Conch.Job.Table
