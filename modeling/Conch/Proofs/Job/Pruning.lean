import Conch.Proofs.Job.Lifecycle
import Mathlib.Data.List.Nodup
import Mathlib.Data.List.Perm.Subperm

/-!
# What pruning keeps

The finished records of a table, and which of them survive when it is pruned.  `Keeps` says
what it is to keep the latest of some records: at most so many are kept, and what is missing
comes before all of a full number.  It can be composed: what has been crowded out once could
not have come back later (`Keeps.trans`).
-/

namespace Conch.Job

/-- In the order of retention a record comes before another: it ended earlier, or at the
same time with the smaller id.  A record without an end counts as ended at zero. -/
def Record.Before (record other : Record) : Prop :=
  record.endedAt.getD 0 < other.endedAt.getD 0 ∨
    record.endedAt.getD 0 = other.endedAt.getD 0 ∧ record.id < other.id

instance : DecidableRel Record.Before :=
  fun _ _ => inferInstanceAs (Decidable (_ ∨ _ ∧ _))

theorem Record.Before.trans {a b c : Record} (hab : a.Before b) (hbc : b.Before c) :
    a.Before c := by
  unfold Record.Before at *
  omega

theorem Record.Before.irrefl (record : Record) : ¬record.Before record := by
  unfold Record.Before
  omega

namespace Table

/-! ## Finished records -/

/-- The finished records, in the order of their ids. -/
def finished (table : Table) : List Record :=
  table.records.filter fun record => record.status.isTerminal

theorem mem_finished_iff {table : Table} (h : table.Sound) {record : Record} :
    record ∈ table.finished ↔ table.phase record.id = .finished record := by
  rw [phase_eq_finished_iff, finished, List.mem_filter]
  constructor
  · rintro ⟨hmem, hfinal⟩
    exact ⟨h.get?_record hmem, by simpa [Status.isTerminal] using hfinal⟩
  · rintro ⟨hget, hfinal⟩
    exact ⟨List.mem_map.mpr ⟨_, h.mem_slots_iff.mpr hget, rfl⟩,
      by simpa [Status.isTerminal] using hfinal⟩

/-- The ids of the records are those of their slots. -/
theorem Sound.ids_records {table : Table} (h : table.Sound) :
    table.records.map Record.id = table.slots.map (·.1) := by
  rw [records, List.map_map]
  exact List.map_congr_left fun slot hslot => h.own slot hslot

theorem Sound.nodup_ids_finished {table : Table} (h : table.Sound) :
    (table.finished.map Record.id).Nodup := by
  have hslots : (table.slots.map (·.1)).Nodup :=
    (List.pairwise_map.mpr h.ordered).imp fun hlt => Nat.ne_of_lt hlt
  rw [← h.ids_records] at hslots
  exact hslots.sublist (List.filter_sublist.map Record.id)

theorem Sound.nodup_finished {table : Table} (h : table.Sound) : table.finished.Nodup :=
  h.nodup_ids_finished.of_map _

theorem finished_without {table : Table} (h : table.Sound) (gone : List Nat) :
    (table.without gone).finished =
      table.finished.filter fun record => !gone.contains record.id := by
  have hslots : (table.slots.filter fun slot => !gone.contains slot.1) =
      table.slots.filter fun slot => !gone.contains slot.2.id :=
    List.filter_congr fun slot hslot => by rw [h.own slot hslot]
  simp only [finished, records, without, hslots, List.filter_filter, List.filter_map]
  congr 1
  exact List.filter_congr fun slot _ => Bool.and_comm _ _

/-- Storing a record in the place of none or of a running one adds it to the finished
records if it is final, and else changes none of them. -/
theorem finished_store_perm {table : Table} {record : Record}
    (hplace : ∀ old, (record.id, old) ∈ table.slots → old.status = .running) :
    (table.store record).finished.Perm
      ((if record.status = .running then [] else [record]) ++ table.finished) := by
  have hslots : ∀ slots : List (Nat × Record),
      (∀ old, (record.id, old) ∈ slots → old.status = .running) →
      (((insertSlot record.id record slots).map (·.2)).filter fun r => r.status.isTerminal).Perm
        ((if record.status = .running then [] else [record]) ++
          (slots.map (·.2)).filter fun r => r.status.isTerminal) := by
    intro slots
    induction slots with
    | nil =>
        intro _
        by_cases hrunning : record.status = .running <;>
          simp [insertSlot, Status.isTerminal, hrunning]
    | cons slot rest ih =>
        intro hplace
        simp only [insertSlot]
        split
        · by_cases hrunning : record.status = .running <;>
            simp [Status.isTerminal, hrunning]
        · split
          · next heq =>
              -- what is replaced is running, so it was not among the finished ones
              have hold : slot.2.status = .running := hplace slot.2 (by simp [heq])
              by_cases hrunning : record.status = .running <;>
                simp [Status.isTerminal, hrunning, hold]
          · have hrest := ih fun old hold => hplace old (List.mem_cons_of_mem _ hold)
            simp only [List.map_cons]
            by_cases hold : slot.2.status = .running
            · simpa [Status.isTerminal, hold] using hrest
            · rw [List.filter_cons_of_pos (by simp [Status.isTerminal, hold]),
                List.filter_cons_of_pos (by simp [Status.isTerminal, hold])]
              exact (hrest.cons slot.2).trans List.perm_middle.symm
  exact hslots table.slots hplace

/-! ## What pruning keeps -/

/-- Of the records on offer some are kept, of full number if any is missing, and then each
missing one comes before all of these. -/
structure Keeps (offered kept : List Record) : Prop where
  subset : ∀ record ∈ kept, record ∈ offered
  atMost : kept.length ≤ Limits.finishedJobs
  crowded : ∀ record ∈ offered, record ∉ kept →
    kept.length = Limits.finishedJobs ∧ ∀ other ∈ kept, record.Before other

/-- A record is among so many of the latest. -/
def AmongLatest (count : Nat) (records : List Record) (record : Record) : Prop :=
  record ∈ records ∧ (records.filter fun other => record.Before other).length < count

/-- The order in which the records are listed plays no part. -/
theorem AmongLatest.perm {count : Nat} {records others : List Record} {record : Record}
    (h : AmongLatest count records record) (hperm : records.Perm others) :
    AmongLatest count others record :=
  ⟨hperm.mem_iff.mp h.1, (hperm.filter _).length_eq ▸ h.2⟩

namespace Keeps

variable {offered kept : List Record}

/-- What is kept are the latest. -/
theorem mem_iff (h : Keeps offered kept) (hoffered : offered.Nodup) (hkept : kept.Nodup)
    {record : Record} :
    record ∈ kept ↔ AmongLatest Limits.finishedJobs offered record := by
  constructor
  · intro hmem
    -- what comes after a kept record is kept as well
    have hlater : (offered.filter fun other => record.Before other) ⊆
        kept.filter fun other => record.Before other := by
      intro other hother
      obtain ⟨hoff, hbefore⟩ := List.mem_filter.mp hother
      refine List.mem_filter.mpr ⟨?_, hbefore⟩
      by_contra hmissing
      have hback := (h.crowded other hoff hmissing).2 record hmem
      exact Record.Before.irrefl record ((by simpa using hbefore : record.Before other).trans hback)
    have hle := ((hoffered.filter _).subperm hlater).length_le
    have hlt : (kept.filter fun other => record.Before other).length < kept.length :=
      List.length_filter_lt_length_iff_exists.mpr
        ⟨record, hmem, by simpa using Record.Before.irrefl record⟩
    exact ⟨h.subset record hmem, by have hmost := h.atMost; omega⟩
  · rintro ⟨hoff, hfew⟩
    by_contra hmissing
    obtain ⟨hfull, hbefore⟩ := h.crowded record hoff hmissing
    have hall : kept ⊆ offered.filter fun other => record.Before other := fun other hother =>
      List.mem_filter.mpr ⟨h.subset other hother, by simpa using hbefore other hother⟩
    have hle := (hkept.subperm hall).length_le
    omega

/-- Keeping of what has been kept before and of something new comes to keeping of all that
has ever been on offer. -/
theorem trans (h : Keeps offered kept) (hkept : kept.Nodup) {new union next : List Record}
    (hunion : ∀ record, record ∈ union ↔ record ∈ kept ∨ record ∈ new)
    (hnext : Keeps union next) : Keeps (offered ++ new) next where
  subset record hmem := by
    rcases (hunion record).mp (hnext.subset record hmem) with hold | hnew
    · exact List.mem_append_left _ (h.subset record hold)
    · exact List.mem_append_right _ hnew
  atMost := hnext.atMost
  crowded record hmem hmissing := by
    by_cases hrecent : record ∈ union
    · exact hnext.crowded record hrecent hmissing
    -- the record has been crowded out long ago
    have hlost : record ∉ kept := fun hold => hrecent ((hunion record).mpr (.inl hold))
    have hold : record ∈ offered := by
      rcases List.mem_append.mp hmem with hold | hnew
      · exact hold
      · exact absurd ((hunion record).mpr (.inr hnew)) hrecent
    obtain ⟨hfull, hbefore⟩ := h.crowded record hold hlost
    by_cases hstay : kept ⊆ next
    · -- the full table is kept, so there is room for nothing else
      have hsub := hkept.subperm hstay
      have hle := hsub.length_le
      have hmost := hnext.atMost
      have hperm := hsub.perm_of_length_le (by omega)
      exact ⟨by rw [← hperm.length_eq, hfull],
        fun other hother => hbefore other (hperm.mem_iff.mpr hother)⟩
    · obtain ⟨middle, hmiddle, hout⟩ : ∃ middle ∈ kept, middle ∉ next := by
        by_contra hnone
        push Not at hnone
        exact hstay hnone
      obtain ⟨hsize, hafter⟩ := hnext.crowded middle ((hunion middle).mpr (.inl hmiddle)) hout
      exact ⟨hsize, fun other hother => (hbefore middle hmiddle).trans (hafter other hother)⟩

end Keeps

/-! ## The order of retention -/

theorem keyLe_total (a b : Nat × Nat) : (keyLe a b || keyLe b a) = true := by
  simp only [keyLe, Bool.or_eq_true, Bool.and_eq_true, decide_eq_true_eq]
  omega

theorem keyLe_trans (a b c : Nat × Nat) (hab : keyLe a b = true) (hbc : keyLe b c = true) :
    keyLe a c = true := by
  simp only [keyLe, Bool.or_eq_true, Bool.and_eq_true, decide_eq_true_eq] at *
  omega

/-- With the keys of two records it orders the records themselves. -/
theorem before_of_keyLe {record other : Record} (hid : record.id ≠ other.id)
    (hle : keyLe record.retentionKey other.retentionKey = true) : record.Before other := by
  simp only [keyLe, Bool.or_eq_true, Bool.and_eq_true, decide_eq_true_eq] at hle
  unfold Record.Before
  simp only [Record.retentionKey] at hle
  omega

/-- The keys of the finished records, the first to be dropped in front. -/
def retentionOrder (table : Table) : List (Nat × Nat) :=
  (table.finished.map Record.retentionKey).mergeSort keyLe

/-- How many finished records are too many. -/
def surplus (table : Table) : Nat :=
  table.finished.length - Limits.finishedJobs

theorem perm_retentionOrder (table : Table) :
    table.retentionOrder.Perm (table.finished.map Record.retentionKey) :=
  List.mergeSort_perm _ _

theorem length_retentionOrder (table : Table) :
    table.retentionOrder.length = table.finished.length := by
  rw [table.perm_retentionOrder.length_eq, List.length_map]

theorem excess_eq (table : Table) :
    excess table.records = (table.retentionOrder.take table.surplus).map (·.2) := by
  rw [surplus, ← length_retentionOrder]
  rfl

/-- As long as there are not too many finished records, none is dropped. -/
theorem prune_eq_self {table : Table} (h : table.finished.length ≤ Limits.finishedJobs) :
    table.prune = table := by
  have hnone : excess table.records = [] := by
    rw [excess_eq, surplus, Nat.sub_eq_zero_of_le h]
    rfl
  simp [Table.prune, hnone, without]

section Sound

variable {table : Table}

theorem Sound.nodup_ids_order (h : table.Sound) : (table.retentionOrder.map (·.2)).Nodup := by
  have hperm := table.perm_retentionOrder.map (·.2)
  rw [List.map_map] at hperm
  exact hperm.nodup_iff.mpr h.nodup_ids_finished

/-- Dropped and kept keys belong to different ids. -/
theorem Sound.not_mem_excess (h : table.Sound) {key : Nat × Nat}
    (hkey : key ∈ table.retentionOrder.drop table.surplus) : key.2 ∉ excess table.records := by
  have hids := h.nodup_ids_order
  rw [← List.take_append_drop table.surplus table.retentionOrder, List.map_append] at hids
  rw [excess_eq]
  exact fun hgone => (List.nodup_append.mp hids).2.2 _ hgone _ (List.mem_map_of_mem hkey) rfl

theorem Sound.finished_prune (h : table.Sound) :
    table.prune.finished =
      table.finished.filter fun record => !(excess table.records).contains record.id :=
  finished_without h _

/-- The keys that are kept are the last ones. -/
theorem Sound.keys_prune (h : table.Sound) :
    (table.prune.finished.map Record.retentionKey).Perm
      (table.retentionOrder.drop table.surplus) := by
  have hlast : (table.retentionOrder.filter fun key => !(excess table.records).contains key.2) =
      table.retentionOrder.drop table.surplus := by
    conv_lhs => rw [← List.take_append_drop table.surplus table.retentionOrder]
    rw [List.filter_append, List.filter_eq_nil_iff.mpr, List.filter_eq_self.mpr, List.nil_append]
    · intro key hkey
      simpa using h.not_mem_excess hkey
    · intro key hkey
      have hgone : key.2 ∈ excess table.records := by
        rw [excess_eq]
        exact List.mem_map_of_mem hkey
      simpa using hgone
  rw [h.finished_prune, ← hlast]
  refine List.Perm.trans (List.Perm.of_eq ?_) (table.perm_retentionOrder.filter _).symm
  rw [List.filter_map]
  rfl

theorem Sound.length_prune (h : table.Sound) :
    table.prune.finished.length = table.finished.length - table.surplus := by
  rw [← List.length_map (f := Record.retentionKey), h.keys_prune.length_eq, List.length_drop,
    length_retentionOrder]

/-- A dropped record comes before every record that is kept. -/
theorem Sound.before_of_dropped (h : table.Sound) {record other : Record}
    (hmem : record ∈ table.finished) (hgone : record ∉ table.prune.finished)
    (hother : other ∈ table.prune.finished) : record.Before other := by
  have hsorted : table.retentionOrder.Pairwise fun a b => keyLe a b = true :=
    List.pairwise_mergeSort keyLe_trans keyLe_total _
  rw [← List.take_append_drop table.surplus table.retentionOrder] at hsorted
  have hexcess : record.id ∈ excess table.records := by
    by_contra hnot
    exact hgone (by rw [h.finished_prune]; exact List.mem_filter.mpr ⟨hmem, by simpa using hnot⟩)
  have hlast : other.retentionKey ∈ table.retentionOrder.drop table.surplus :=
    h.keys_prune.mem_iff.mp (List.mem_map_of_mem hother)
  have hfirst : record.retentionKey ∈ table.retentionOrder.take table.surplus := by
    have hkey : record.retentionKey ∈ table.retentionOrder :=
      table.perm_retentionOrder.mem_iff.mpr (List.mem_map_of_mem hmem)
    rw [← List.take_append_drop table.surplus table.retentionOrder] at hkey
    rcases List.mem_append.mp hkey with hfirst | hlater
    · exact hfirst
    · exact absurd hexcess (h.not_mem_excess hlater)
  refine before_of_keyLe (fun heq => ?_) ((List.pairwise_append.mp hsorted).2.2 _ hfirst _ hlast)
  rw [heq] at hexcess
  exact h.not_mem_excess hlast hexcess

/-- Pruning keeps the latest of the finished records. -/
theorem Sound.keeps_prune (h : table.Sound) : Keeps table.finished table.prune.finished := by
  have hlength := h.length_prune
  unfold surplus at hlength
  refine ⟨fun record hmem => ?_, by omega, fun record hmem hgone => ⟨?_, fun other hother =>
    h.before_of_dropped hmem hgone hother⟩⟩
  · rw [h.finished_prune] at hmem
    exact (List.mem_filter.mp hmem).1
  · have hlt : table.prune.finished.length < table.finished.length := by
      rw [h.finished_prune] at hgone ⊢
      exact List.length_filter_lt_length_iff_exists.mpr
        ⟨record, hmem, fun hkept => hgone (List.mem_filter.mpr ⟨hmem, hkept⟩)⟩
    omega

end Sound

end Table
end Conch.Job
