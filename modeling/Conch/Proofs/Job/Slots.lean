import Conch.Job.Table
import Mathlib.Data.List.Basic
import Mathlib.Data.List.Pairwise

/-!
# The job table as a map

Looking a record up behind each operation on the slots, and the invariant of tables:
slots stand in the order of their ids, hold records of their own id, and belong to ids
that have been given out.  Of the ids that pruning removes, only that they belong to
finished records is said here, not that they are the oldest.
-/

namespace Conch.Job.Table

/-! ## Looking up -/

theorem lookup_slot_cons (slot : Nat × Record) (rest : List (Nat × Record)) (key : Nat) :
    (slot :: rest).lookup key = if key = slot.1 then some slot.2 else rest.lookup key := by
  rw [List.lookup_cons]
  by_cases hkey : key = slot.1
  · simp [hkey]
  · rw [beq_false_of_ne hkey, if_neg hkey]

theorem lookup_insertSlot (id : Nat) (record : Record) (slots : List (Nat × Record)) (key : Nat) :
    (insertSlot id record slots).lookup key =
      if key = id then some record else slots.lookup key := by
  induction slots with
  | nil => exact lookup_slot_cons _ _ _
  | cons slot rest ih =>
      unfold insertSlot
      split
      · exact lookup_slot_cons _ _ _
      · next hle =>
          split
          · next heq =>
              rw [lookup_slot_cons, lookup_slot_cons]
              by_cases hkey : key = id
              · simp [hkey]
              · simp [hkey, ← heq]
          · next hne =>
              rw [lookup_slot_cons, ih, lookup_slot_cons]
              by_cases hkey : key = slot.1
              · have hother : key ≠ id := fun h => hne (h ▸ hkey)
                simp [hkey, hkey ▸ hother]
              · simp [hkey]

theorem lookup_filter_not_contains (gone : List Nat) (slots : List (Nat × Record)) (key : Nat) :
    (slots.filter fun slot => !gone.contains slot.1).lookup key =
      if key ∈ gone then none else slots.lookup key := by
  induction slots with
  | nil => simp
  | cons slot rest ih =>
      rw [lookup_slot_cons, List.filter_cons]
      by_cases hgone : slot.1 ∈ gone
      · rw [if_neg (by simpa using hgone), ih]
        by_cases hkey : key = slot.1
        · simp [hkey, hgone]
        · simp [hkey]
      · rw [if_pos (by simpa using hgone), lookup_slot_cons, ih]
        by_cases hkey : key = slot.1
        · simp [hkey, hgone]
        · simp [hkey]

/-- Among slots in the order of their ids each one is found. -/
theorem lookup_eq_some_iff {slots : List (Nat × Record)}
    (h : slots.Pairwise fun a b => a.1 < b.1) {key : Nat} {record : Record} :
    slots.lookup key = some record ↔ (key, record) ∈ slots := by
  induction slots with
  | nil => simp
  | cons slot rest ih =>
      obtain ⟨place, stored⟩ := slot
      obtain ⟨hfirst, hrest⟩ := List.pairwise_cons.mp h
      rw [lookup_slot_cons, List.mem_cons]
      by_cases hkey : key = place
      · subst hkey
        -- the keys behind the first are greater, so none is met twice
        have hnot : (key, record) ∉ rest :=
          fun hmem => Nat.lt_irrefl key (hfirst (key, record) hmem)
        simp [hnot, eq_comm]
      · simp [hkey, ih hrest]

@[simp] theorem get?_store (table : Table) (record : Record) (id : Nat) :
    (table.store record).get? id = if id = record.id then some record else table.get? id :=
  lookup_insertSlot record.id record table.slots id

@[simp] theorem get?_without (table : Table) (gone : List Nat) (id : Nat) :
    (table.without gone).get? id = if id ∈ gone then none else table.get? id :=
  lookup_filter_not_contains gone table.slots id

theorem get?_prune (table : Table) (id : Nat) :
    table.prune.get? id = if id ∈ excess table.records then none else table.get? id :=
  get?_without table _ id

/-! ## The invariant -/

/-- What every table keeps up. -/
structure Sound (table : Table) : Prop where
  ordered : table.slots.Pairwise fun a b => a.1 < b.1
  own : ∀ slot ∈ table.slots, slot.2.id = slot.1
  known : ∀ slot ∈ table.slots, 1 ≤ slot.1 ∧ slot.1 ≤ table.lastId

namespace Sound

variable {table : Table}

theorem mem_slots_iff (h : table.Sound) {id : Nat} {record : Record} :
    (id, record) ∈ table.slots ↔ table.get? id = some record :=
  (lookup_eq_some_iff h.ordered).symm

theorem id_known (h : table.Sound) {id : Nat} {record : Record}
    (hget : table.get? id = some record) : 1 ≤ id ∧ id ≤ table.lastId :=
  h.known _ (h.mem_slots_iff.mpr hget)

theorem get?_record (h : table.Sound) {record : Record} (hmem : record ∈ table.records) :
    table.get? record.id = some record := by
  obtain ⟨⟨id, stored⟩, hslot, rfl⟩ := List.mem_map.mp hmem
  rw [show stored.id = id from h.own _ hslot]
  exact h.mem_slots_iff.mp hslot

end Sound

theorem sound_empty : empty.Sound :=
  ⟨List.Pairwise.nil, by simp [empty], by simp [empty]⟩

theorem mem_insertSlot {id : Nat} {record : Record} {slots : List (Nat × Record)}
    {slot : Nat × Record} (h : slot ∈ insertSlot id record slots) :
    slot = (id, record) ∨ slot ∈ slots := by
  induction slots with
  | nil => simpa [insertSlot] using h
  | cons first rest ih =>
      simp only [insertSlot] at h
      split at h
      · simpa using h
      · split at h
        · rcases List.mem_cons.mp h with h | h
          · exact .inl h
          · exact .inr (List.mem_cons_of_mem _ h)
        · rcases List.mem_cons.mp h with h | h
          · exact .inr (by simp [h])
          · rcases ih h with h | h
            · exact .inl h
            · exact .inr (List.mem_cons_of_mem _ h)

theorem pairwise_insertSlot (id : Nat) (record : Record) {slots : List (Nat × Record)}
    (h : slots.Pairwise fun a b => a.1 < b.1) :
    (insertSlot id record slots).Pairwise fun a b => a.1 < b.1 := by
  induction slots with
  | nil => simp [insertSlot]
  | cons first rest ih =>
      obtain ⟨hfirst, hrest⟩ := List.pairwise_cons.mp h
      simp only [insertSlot]
      split
      · next hlt =>
          refine List.pairwise_cons.mpr ⟨fun slot hslot => ?_, h⟩
          rcases List.mem_cons.mp hslot with rfl | hslot
          · exact hlt
          · exact Nat.lt_trans hlt (hfirst slot hslot)
      · next hle =>
          split
          · next heq =>
              exact List.pairwise_cons.mpr ⟨fun slot hslot => heq ▸ hfirst slot hslot, hrest⟩
          · next hne =>
              refine List.pairwise_cons.mpr ⟨fun slot hslot => ?_, ih hrest⟩
              rcases mem_insertSlot hslot with rfl | hslot
              · show first.1 < id
                omega
              · exact hfirst slot hslot

theorem Sound.store {table : Table} (h : table.Sound) {record : Record}
    (hknown : 1 ≤ record.id ∧ record.id ≤ table.lastId) : (table.store record).Sound where
  ordered := pairwise_insertSlot record.id record h.ordered
  own := by
    intro slot hslot
    rcases mem_insertSlot hslot with rfl | hslot
    · rfl
    · exact h.own slot hslot
  known := by
    intro slot hslot
    rcases mem_insertSlot hslot with rfl | hslot
    · exact hknown
    · exact h.known slot hslot

theorem Sound.without {table : Table} (h : table.Sound) (gone : List Nat) :
    (table.without gone).Sound where
  ordered := h.ordered.filter _
  own slot hslot := h.own slot (List.mem_filter.mp hslot).1
  known slot hslot := h.known slot (List.mem_filter.mp hslot).1

/-- Flags play no part in the invariant. -/
theorem Sound.withFlags {table : Table} (h : table.Sound) (fired : List Token) :
    ({ table with fired := fired } : Table).Sound :=
  ⟨h.ordered, h.own, h.known⟩

/-- Ids may be given out without being used. -/
theorem Sound.withLastId {table : Table} (h : table.Sound) {last : Nat}
    (hlast : table.lastId ≤ last) : ({ table with lastId := last } : Table).Sound :=
  ⟨h.ordered, h.own, fun slot hslot =>
    ⟨(h.known slot hslot).1, Nat.le_trans (h.known slot hslot).2 hlast⟩⟩

theorem Sound.prune {table : Table} (h : table.Sound) : table.prune.Sound :=
  h.without _

/-- The table that has started a job and has not been pruned yet. -/
def begun (table : Table) (command : String) (now : Nat) : Table :=
  ({ table with lastId := table.lastId + 1 } : Table).store
    (Record.start (table.lastId + 1) command now)

theorem create_eq_prune (table : Table) (command : String) (now : Nat) :
    (table.create command now).2 = (table.begun command now).prune :=
  rfl

theorem get?_begun (table : Table) (command : String) (now id : Nat) :
    (table.begun command now).get? id =
      if id = table.lastId + 1 then some (Record.start (table.lastId + 1) command now)
      else table.get? id :=
  get?_store _ _ id

theorem Sound.begun {table : Table} (h : table.Sound) (command : String) (now : Nat) :
    (table.begun command now).Sound :=
  (h.withLastId (Nat.le_succ _)).store ⟨Nat.succ_pos _, Nat.le_refl _⟩

theorem Sound.create {table : Table} (h : table.Sound) (command : String) (now : Nat) :
    (table.create command now).2.Sound :=
  (h.begun command now).prune

/-- What a kill of a tracked job does. -/
theorem kill_eq_some_iff {table killed : Table} {id : Nat} :
    table.kill id = some killed ↔
      ∃ record, table.get? id = some record ∧
        killed =
          { table.without [id] with
            fired :=
              if record.status = .running then record.token :: table.fired else table.fired } := by
  rw [kill, Option.map_eq_some_iff]
  exact exists_congr fun record => and_congr_right fun _ => eq_comm

theorem get?_kill {table killed : Table} {id : Nat} (hkill : table.kill id = some killed)
    (key : Nat) : killed.get? key = if key = id then none else table.get? key := by
  obtain ⟨record, -, rfl⟩ := kill_eq_some_iff.mp hkill
  simpa [get?] using get?_without table [id] key

theorem lastId_kill {table killed : Table} {id : Nat} (hkill : table.kill id = some killed) :
    killed.lastId = table.lastId := by
  obtain ⟨record, -, rfl⟩ := kill_eq_some_iff.mp hkill
  rfl

theorem Sound.kill {table killed : Table} (h : table.Sound) {id : Nat}
    (hkill : table.kill id = some killed) : killed.Sound := by
  obtain ⟨record, -, rfl⟩ := kill_eq_some_iff.mp hkill
  exact (h.without [id]).withFlags _

/-- What is stored was accepted for a tracked and running job. -/
theorem update_eq_some_iff {table updated : Table} {record : Record} :
    table.update record = some updated ↔
      (∃ current, table.get? record.id = some current ∧ current.status = .running) ∧
        updated = (table.store record).prune := by
  unfold update
  cases hget : table.get? record.id with
  | none => simp
  | some current =>
      by_cases hrunning : current.status = .running
      · simp [hrunning, eq_comm]
      · simp [hrunning]

theorem Sound.update {table updated : Table} (h : table.Sound) {record : Record}
    (hupdate : table.update record = some updated) : updated.Sound := by
  obtain ⟨⟨current, hget, -⟩, rfl⟩ := update_eq_some_iff.mp hupdate
  exact (h.store (h.id_known hget)).prune

/-- Only finished records are too many. -/
theorem finished_of_mem_excess {records : List Record} {id : Nat} (h : id ∈ excess records) :
    ∃ record ∈ records, record.id = id ∧ record.status ≠ .running := by
  obtain ⟨key, hkey, rfl⟩ := List.mem_map.mp h
  have hsorted := List.mem_of_mem_take hkey
  -- what is taken of the sorted keys was among the keys
  rw [List.mem_mergeSort] at hsorted
  obtain ⟨record, hrecord, rfl⟩ := List.mem_map.mp hsorted
  obtain ⟨hmem, hterminal⟩ := List.mem_filter.mp hrecord
  exact ⟨record, hmem, rfl, by simpa [Status.isTerminal] using hterminal⟩

theorem Sound.get?_of_mem_excess {table : Table} (h : table.Sound) {id : Nat}
    (hexcess : id ∈ excess table.records) :
    ∃ record, table.get? id = some record ∧ record.status ≠ .running := by
  obtain ⟨record, hmem, rfl, hterminal⟩ := finished_of_mem_excess hexcess
  exact ⟨record, h.get?_record hmem, hterminal⟩

end Conch.Job.Table
