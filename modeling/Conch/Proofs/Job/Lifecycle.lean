import Conch.Proofs.Job.Slots
import Mathlib.Data.List.Induction
import Mathlib.Logic.Relation

/-!
# The life of a job

The operations on the job table in any order and with any records whatever: stale,
repeated, still running, or for ids that nobody knows.  For each id the table is in one
phase, which it shows at every time: not yet tracked, running, finished with a record, or
gone.  `Lifecycle` lists the moves between phases that an operation can make, in the order
in which the operation changes the table: storing first, and then pruning.

`lifecycle_of_run` says that ids are given out as 1, 2, 3 and so on, that records are in
the slots of their own ids, and that every operation moves every id along its lifecycle
only.
-/

namespace Conch.Job.Table

/-- An operation on the job table. -/
inductive Op where
  | create (command : String) (now : Nat)
  | update (record : Record)
  | kill (id : Nat)
  deriving DecidableEq, Repr

/-- The table after an operation; one that is refused leaves it as it is. -/
def apply (table : Table) : Op → Table
  | .create command now => (table.create command now).2
  | .update record => (table.update record).getD table
  | .kill id => (table.kill id).getD table

/-- The table of a new session after some operations. -/
def run (ops : List Op) : Table :=
  ops.foldl apply empty

/-- Whether an operation starts a job. -/
def Op.isCreate : Op → Bool
  | .create .. => true
  | _ => false

/-- Where the table stands with an id. -/
inductive Phase where
  /-- The id has not been given out. -/
  | untracked
  | running
  /-- The id is tracked with a final record. -/
  | finished (record : Record)
  /-- The id has been given out and is not tracked any more. -/
  | gone
  deriving DecidableEq, Repr

/-- The phase of an id. -/
def phase (table : Table) (id : Nat) : Phase :=
  match table.get? id with
  | some record => if record.status = .running then .running else .finished record
  | none => if id = 0 ∨ table.lastId < id then .untracked else .gone

/-- The moves of an id from phase to phase that an operation can make. -/
inductive Lifecycle (op : Op) (id : Nat) : Phase → Phase → Prop
  | create {command : String} {now : Nat} (hop : op = .create command now) :
      Lifecycle op id .untracked .running
  /-- A worker hands in a record that is not final. -/
  | refresh {record : Record} (hop : op = .update record) (hid : record.id = id)
      (hrunning : record.status = .running) : Lifecycle op id .running .running
  | finish {record : Record} (hop : op = .update record) (hid : record.id = id)
      (hfinal : record.status ≠ .running) : Lifecycle op id .running (.finished record)
  /-- Only a kill of the id itself takes a running record away. -/
  | killRunning (hop : op = .kill id) : Lifecycle op id .running .gone
  | killFinished {record : Record} (hop : op = .kill id) : Lifecycle op id (.finished record) .gone
  /-- Starting and finishing jobs prunes finished ones. -/
  | prune {record : Record} (hop : ∀ other, op ≠ .kill other) :
      Lifecycle op id (.finished record) .gone

/-! ## Phases behind the parts of an operation -/

theorem phase_of_get?_some {table : Table} {id : Nat} {record : Record}
    (h : table.get? id = some record) :
    table.phase id = if record.status = .running then .running else .finished record := by
  simp [phase, h]

theorem phase_eq_finished_iff {table : Table} {id : Nat} {record : Record} :
    table.phase id = .finished record ↔
      table.get? id = some record ∧ record.status ≠ .running := by
  unfold phase
  cases hget : table.get? id with
  | none => by_cases hnew : id = 0 ∨ table.lastId < id <;> simp [hnew]
  | some current =>
      by_cases hrunning : current.status = .running
      · simp only [hrunning, if_true, reduceCtorEq, Option.some.injEq, false_iff]
        rintro ⟨rfl, hfinal⟩
        exact hfinal hrunning
      · simp only [hrunning, if_false, Phase.finished.injEq, Option.some.injEq]
        constructor
        · rintro rfl
          exact ⟨rfl, hrunning⟩
        · exact And.left

theorem phase_eq_running_iff {table : Table} {id : Nat} :
    table.phase id = .running ↔
      ∃ record, table.get? id = some record ∧ record.status = .running := by
  unfold phase
  cases hget : table.get? id with
  | none => by_cases hnew : id = 0 ∨ table.lastId < id <;> simp [hnew]
  | some current => by_cases hrunning : current.status = .running <;> simp [hrunning]

/-- What is handed in for a running job is stored. -/
theorem update_of_running {table : Table} {record : Record}
    (h : table.phase record.id = .running) :
    table.update record = some (table.store record).prune :=
  update_eq_some_iff.mpr ⟨phase_eq_running_iff.mp h, rfl⟩

theorem isSome_update_iff {table : Table} {record : Record} :
    (table.update record).isSome = true ↔ table.phase record.id = .running := by
  constructor
  · intro hsome
    obtain ⟨updated, hupdate⟩ := Option.isSome_iff_exists.mp hsome
    exact phase_eq_running_iff.mpr (update_eq_some_iff.mp hupdate).1
  · intro hrunning
    rw [update_of_running hrunning]
    rfl

/-- The slot of a running job holds a running record. -/
theorem Sound.status_of_running {table : Table} (h : table.Sound) {id : Nat}
    (hrunning : table.phase id = .running) {record : Record} (hslot : (id, record) ∈ table.slots) :
    record.status = .running := by
  obtain ⟨current, hget, hcurrent⟩ := phase_eq_running_iff.mp hrunning
  rw [h.mem_slots_iff, hget] at hslot
  rwa [← Option.some.inj hslot]

/-- The phase of an id depends on nothing but its slot and whether it has been given out. -/
theorem phase_congr {table other : Table} {id : Nat} (hget : other.get? id = table.get? id)
    (hnew : (id = 0 ∨ other.lastId < id) ↔ (id = 0 ∨ table.lastId < id)) :
    other.phase id = table.phase id := by
  simp only [phase, hget, hnew]

theorem phase_of_removed {table other : Table} (h : table.Sound) {id : Nat} {record : Record}
    (hbefore : table.get? id = some record) (hafter : other.get? id = none)
    (hlast : other.lastId = table.lastId) : other.phase id = .gone := by
  obtain ⟨hpos, hle⟩ := h.id_known hbefore
  simp only [phase, hafter, hlast]
  exact if_neg (by omega)

/-- Pruning leaves an id in its phase or removes its finished record. -/
theorem Sound.phase_prune {table : Table} (h : table.Sound) (id : Nat) :
    table.prune.phase id = table.phase id ∨
      ∃ record, table.phase id = .finished record ∧ table.prune.phase id = .gone := by
  by_cases hexcess : id ∈ excess table.records
  · obtain ⟨record, hget, hfinal⟩ := h.get?_of_mem_excess hexcess
    refine .inr ⟨record, phase_eq_finished_iff.mpr ⟨hget, hfinal⟩, ?_⟩
    exact phase_of_removed h hget (by rw [get?_prune, if_pos hexcess]) rfl
  · exact .inl (phase_congr (by rw [get?_prune, if_neg hexcess]) Iff.rfl)

theorem Sound.prune_path {table : Table} (h : table.Sound) {op : Op}
    (hop : ∀ other, op ≠ .kill other) (id : Nat) :
    Relation.ReflTransGen (Lifecycle op id) (table.phase id) (table.prune.phase id) := by
  rcases h.phase_prune id with hsame | ⟨record, hbefore, hafter⟩
  · rw [hsame]
  · rw [hbefore, hafter]
    exact .single (.prune hop)

/-! ## Operations -/

/-- An id that has not been given out is not tracked. -/
theorem Sound.phase_next {table : Table} (h : table.Sound) :
    table.phase (table.lastId + 1) = .untracked := by
  have hnone : table.get? (table.lastId + 1) = none := by
    refine Option.eq_none_iff_forall_ne_some.mpr fun record hsome => ?_
    exact absurd (h.id_known hsome).2 (Nat.not_succ_le_self _)
  simp only [phase, hnone]
  exact if_pos (.inr (Nat.lt_succ_self _))

/-- Starting a job gives the next id a running record. -/
theorem Sound.create_path {table : Table} (h : table.Sound) (command : String) (now id : Nat) :
    Relation.ReflTransGen (Lifecycle (.create command now) id) (table.phase id)
      ((table.create command now).2.phase id) := by
  -- Pruning comes last, and its moves are known: what is left is the storing.
  refine Relation.ReflTransGen.trans ?_ ((h.begun command now).prune_path (by simp) id)
  by_cases hid : id = table.lastId + 1
  · subst hid
    have hafter : (table.begun command now).phase (table.lastId + 1) = .running :=
      phase_eq_running_iff.mpr ⟨_, (get?_begun table command now _).trans (if_pos rfl), rfl⟩
    rw [h.phase_next, hafter]
    exact .single (.create rfl)
  · have hget : (table.begun command now).get? id = table.get? id := by
      rw [get?_begun, if_neg hid]
    have hnew : (id = 0 ∨ table.lastId + 1 < id) ↔ (id = 0 ∨ table.lastId < id) := by omega
    rw [phase_congr hget hnew]

/-- A record that is stored moves its own id, and only that. -/
theorem Sound.update_path {table updated : Table} (h : table.Sound) {record : Record}
    (hupdate : table.update record = some updated) (id : Nat) :
    Relation.ReflTransGen (Lifecycle (.update record) id) (table.phase id)
      (updated.phase id) := by
  obtain ⟨⟨current, hcurrent, hrunning⟩, rfl⟩ := update_eq_some_iff.mp hupdate
  have hstored : (table.store record).Sound := h.store (h.id_known hcurrent)
  refine Relation.ReflTransGen.trans ?_ (hstored.prune_path (by simp) id)
  by_cases hid : id = record.id
  · subst hid
    have hbefore : table.phase record.id = .running :=
      phase_eq_running_iff.mpr ⟨current, hcurrent, hrunning⟩
    have hget : (table.store record).get? record.id = some record := by simp
    rw [hbefore, phase_of_get?_some hget]
    split
    · next hrunning => exact .single (.refresh rfl rfl hrunning)
    · next hfinal => exact .single (.finish rfl rfl hfinal)
  · have hsame : (table.store record).phase id = table.phase id :=
      phase_congr (by simp [hid]) Iff.rfl
    rw [hsame]

/-- A kill moves its own id, and only that. -/
theorem Sound.kill_path {table killed : Table} (h : table.Sound) {target : Nat}
    (hkill : table.kill target = some killed) (id : Nat) :
    Relation.ReflTransGen (Lifecycle (.kill target) id) (table.phase id) (killed.phase id) := by
  obtain ⟨record, hget, -⟩ := kill_eq_some_iff.mp hkill
  by_cases hid : id = target
  · subst hid
    have hafter : killed.phase id = .gone :=
      phase_of_removed h hget (by rw [get?_kill hkill, if_pos rfl]) (lastId_kill hkill)
    rw [hafter, phase_of_get?_some hget]
    split
    · exact .single (.killRunning rfl)
    · exact .single (.killFinished rfl)
  · have hsame : killed.phase id = table.phase id :=
      phase_congr (by rw [get?_kill hkill, if_neg hid]) (by rw [lastId_kill hkill])
    rw [hsame]

theorem Sound.apply {table : Table} (h : table.Sound) (op : Op) : (table.apply op).Sound := by
  cases op with
  | create command now => exact h.create command now
  | update record =>
      cases hupdate : table.update record with
      | none => simpa [Table.apply, hupdate] using h
      | some updated => simpa [Table.apply, hupdate] using h.update hupdate
  | kill id =>
      cases hkill : table.kill id with
      | none => simpa [Table.apply, hkill] using h
      | some killed => simpa [Table.apply, hkill] using h.kill hkill

/-- An operation moves every id along its lifecycle. -/
theorem Sound.apply_path {table : Table} (h : table.Sound) (op : Op) (id : Nat) :
    Relation.ReflTransGen (Lifecycle op id) (table.phase id) ((table.apply op).phase id) := by
  cases op with
  | create command now => exact h.create_path command now id
  | update record =>
      cases hupdate : table.update record with
      | none => simpa [Table.apply, hupdate] using Relation.ReflTransGen.refl
      | some updated => simpa [Table.apply, hupdate] using h.update_path hupdate id
  | kill target =>
      cases hkill : table.kill target with
      | none => simpa [Table.apply, hkill] using Relation.ReflTransGen.refl
      | some killed => simpa [Table.apply, hkill] using h.kill_path hkill id

/-! ## Where a lifecycle leads -/

section Paths

variable {op : Op} {id : Nat} {next : Phase}

theorem path_from_gone (h : Relation.ReflTransGen (Lifecycle op id) .gone next) :
    next = .gone := by
  induction h with
  | refl => rfl
  | tail _ hmove ih =>
      subst ih
      cases hmove

theorem path_from_finished {record : Record}
    (h : Relation.ReflTransGen (Lifecycle op id) (.finished record) next) :
    next = .finished record ∨ next = .gone := by
  induction h with
  | refl => exact .inl rfl
  | tail _ hmove ih =>
      -- No move leads from one final record to another.
      rcases ih with rfl | rfl
      · cases hmove <;> exact .inr rfl
      · cases hmove

/-- A running record is taken away by a kill of its id, or replaced by the final record
that the same operation hands in for the id, which pruning may then take away at once. -/
theorem path_from_running (h : Relation.ReflTransGen (Lifecycle op id) .running next) :
    next = .running ∨ (op = .kill id ∧ next = .gone) ∨
      ∃ record, op = .update record ∧ record.id = id ∧ record.status ≠ .running ∧
        (next = .finished record ∨ next = .gone) := by
  induction h with
  | refl => exact .inl rfl
  | tail _ hmove ih =>
      -- The operation is the same all along, so a kill and a final record exclude each other.
      rcases ih with rfl | ⟨-, rfl⟩ | ⟨record, hop, hid, hfinal, rfl | rfl⟩
      · cases hmove with
        | refresh => exact .inl rfl
        | finish hop hid hfinal => exact .inr (.inr ⟨_, hop, hid, hfinal, .inl rfl⟩)
        | killRunning hop => exact .inr (.inl ⟨hop, rfl⟩)
      · cases hmove
      · exact .inr (.inr ⟨record, hop, hid, hfinal, by cases hmove <;> exact .inr rfl⟩)
      · cases hmove

end Paths

/-! ## Runs -/

theorem run_append (ops later : List Op) : run (ops ++ later) = later.foldl apply (run ops) :=
  List.foldl_append

theorem run_concat (ops : List Op) (op : Op) : run (ops ++ [op]) = (run ops).apply op :=
  run_append ops [op]

theorem Sound.foldl {table : Table} (h : table.Sound) (ops : List Op) :
    (ops.foldl Table.apply table).Sound := by
  induction ops generalizing table with
  | nil => exact h
  | cons op ops ih => exact ih (h.apply op)

theorem run_sound (ops : List Op) : (run ops).Sound :=
  sound_empty.foldl ops

/-- Handing in a record fires no flag, and does not look at those that are fired. -/
theorem apply_update_withFlags (table : Table) (fired : List Token) (record : Record) :
    { table with fired := fired }.apply (.update record) =
      { table.apply (.update record) with fired := fired } := by
  simp only [apply, update, get?]
  cases table.slots.lookup record.id with
  | none => rfl
  | some current =>
      by_cases hrunning : current.status = .running
      · simp only [hrunning, if_true]
        rfl
      · simp only [hrunning, if_false]
        rfl

theorem fired_apply_update (table : Table) (record : Record) :
    (table.apply (.update record)).fired = table.fired := by
  have hsame : table.apply (.update record) =
      { table.apply (.update record) with fired := table.fired } :=
    apply_update_withFlags table table.fired record
  rw [hsame]

theorem lastId_apply (table : Table) (op : Op) :
    (table.apply op).lastId = table.lastId + if op.isCreate then 1 else 0 := by
  cases op with
  | create command now => rfl
  | update record =>
      cases hupdate : table.update record with
      | none => simp [apply, hupdate, Op.isCreate]
      | some updated =>
          obtain ⟨-, rfl⟩ := update_eq_some_iff.mp hupdate
          simp [apply, hupdate, Op.isCreate, prune, without, store]
  | kill id =>
      cases hkill : table.kill id with
      | none => simp [apply, hkill, Op.isCreate]
      | some killed => simp [apply, hkill, Op.isCreate, lastId_kill hkill]

/-- The last id counts the jobs that are started. -/
theorem lastId_foldl (table : Table) (ops : List Op) :
    (ops.foldl apply table).lastId = table.lastId + ops.countP Op.isCreate := by
  induction ops generalizing table with
  | nil => rfl
  | cons op ops ih =>
      rw [List.foldl_cons, ih, lastId_apply, List.countP_cons]
      omega

/-- The last id is the number of jobs started. -/
theorem lastId_run (ops : List Op) : (run ops).lastId = ops.countP Op.isCreate :=
  (lastId_foldl empty ops).trans (Nat.zero_add _)

/-- What no operation brings back stays gone. -/
theorem Sound.gone_foldl {table : Table} (h : table.Sound) {id : Nat}
    (hgone : table.phase id = .gone) (ops : List Op) :
    (ops.foldl Table.apply table).phase id = .gone := by
  induction ops generalizing table with
  | nil => exact hgone
  | cons op ops ih =>
      have hpath := h.apply_path op id
      rw [hgone] at hpath
      exact ih (h.apply op) (path_from_gone hpath)

/-- A final record is kept as it is or removed for good. -/
theorem Sound.finished_foldl {table : Table} (h : table.Sound) {id : Nat} {record : Record}
    (hfinished : table.phase id = .finished record) (ops : List Op) :
    (ops.foldl Table.apply table).phase id = .finished record ∨
      (ops.foldl Table.apply table).phase id = .gone := by
  induction ops generalizing table with
  | nil => exact .inl hfinished
  | cons op ops ih =>
      have hpath := h.apply_path op id
      rw [hfinished] at hpath
      rcases path_from_finished hpath with hnext | hnext
      · exact ih (h.apply op) hnext
      · exact .inr ((h.apply op).gone_foldl hnext ops)

/-- Whatever the operations: the ids of jobs count up from one, every record is in the slot
of its own id, and every operation moves every id along its lifecycle only.  Seen from
outside the operations, a running record stays tracked until a kill of its id, or until the
final record of its id is stored; a final record is never altered; and an id that has left
the table is never tracked again. -/
theorem lifecycle_of_run (ops : List Op) :
    (∀ command now, ((run ops).create command now).1.id = ops.countP Op.isCreate + 1) ∧
      (∀ slot ∈ (run ops).slots, slot.2.id = slot.1 ∧ (run ops).get? slot.1 = some slot.2) ∧
      (∀ op id, Relation.ReflTransGen (Lifecycle op id) ((run ops).phase id)
        ((run (ops ++ [op])).phase id)) ∧
      (∀ op id, (run ops).phase id = .running → (run (ops ++ [op])).phase id ≠ .running →
        op = .kill id ∨
          ∃ record, op = .update record ∧ record.id = id ∧ record.status ≠ .running ∧
            (((run ops).store record).phase id = .finished record) ∧
            run (ops ++ [op]) = ((run ops).store record).prune) ∧
      (∀ later id record, (run ops).phase id = .finished record →
        (run (ops ++ later)).phase id = .finished record ∨
          (run (ops ++ later)).phase id = .gone) ∧
      (∀ later id, (run ops).phase id = .gone → (run (ops ++ later)).phase id = .gone) := by
  have hsound := run_sound ops
  refine ⟨fun command now => ?_, fun slot hslot => ?_, fun op id => ?_,
    fun op id hbefore hafter => ?_, fun later id record hfinished => ?_,
    fun later id hgone => ?_⟩
  · rw [← lastId_run]
    rfl
  · exact ⟨hsound.own slot hslot, hsound.mem_slots_iff.mp hslot⟩
  · rw [run_concat]
    exact hsound.apply_path op id
  · have hpath := hsound.apply_path op id
    rw [run_concat] at hafter ⊢
    rw [hbefore] at hpath
    rcases path_from_running hpath with hnext | ⟨hop, -⟩ | ⟨record, rfl, rfl, hfinal, -⟩
    · exact absurd hnext hafter
    · exact .inl hop
    · refine .inr ⟨record, rfl, rfl, hfinal, phase_eq_finished_iff.mpr ⟨by simp, hfinal⟩, ?_⟩
      have hupdate := update_eq_some_iff.mpr
        ⟨phase_eq_running_iff.mp hbefore, (rfl : ((run ops).store record).prune = _)⟩
      simp [apply, hupdate]
  · rw [run_append]
    exact hsound.finished_foldl hfinished later
  · rw [run_append]
    exact hsound.gone_foldl hgone later

/-- A record that comes in after a kill does not bring the job back. -/
theorem lifecycle_of_run_late :
    (run [.create "ls" 5, .kill 1]).phase 1 = .gone ∧
      (run ([.create "ls" 5, .kill 1] ++
        [.update ((Record.start 1 "ls" 5).complete Outcome.empty 9)])).phase 1 = .gone :=
  have hgone : (run [.create "ls" 5, .kill 1]).phase 1 = .gone := by
    simp [run, apply, create, store, prune, excess, records, kill, get?, phase, empty, insertSlot,
      without, Record.start, Status.isTerminal, Limits.finishedJobs]
  ⟨hgone, (lifecycle_of_run _).2.2.2.2.2 _ 1 hgone⟩

end Conch.Job.Table
