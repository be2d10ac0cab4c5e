import Conch.Proofs.Job.Retention
import Mathlib

/-!
# What it means that a record is accepted

A record that is handed in is accepted if its job is running, and a record that is refused
changes nothing.  An accepted record is stored before the table is pruned, so it may be
dropped by the very operation that has stored it: that happens to a final record for which
the table holds as many later ones as are kept.  `accepted_of_run` says that this is the only
way in which an accepted record is not found in the table right after.
-/

namespace Conch.Job.Table

/-- A final record for which there are already as many later ones as are kept. -/
def CrowdedOut (table : Table) (record : Record) : Prop :=
  record.status ≠ .running ∧
    Limits.finishedJobs ≤ (table.finished.filter fun other => record.Before other).length

instance (table : Table) (record : Record) : Decidable (table.CrowdedOut record) :=
  inferInstanceAs (Decidable (_ ∧ _))

/-- An accepted final record is one of the finished ones, beside those from before. -/
theorem Sound.finished_store {table : Table} (h : table.Sound) {record : Record}
    (hrunning : table.phase record.id = .running) (hfinal : record.status ≠ .running) :
    (table.store record).finished.Perm (record :: table.finished) := by
  have hplace : ∀ old, (record.id, old) ∈ table.slots → old.status = .running :=
    fun _ => h.status_of_running hrunning
  simpa [hfinal] using finished_store_perm hplace

/-- A final record that has just been stored is kept unless it is crowded out. -/
theorem Sound.mem_finished_prune_store {table : Table} (h : table.Sound) {record : Record}
    (hrunning : table.phase record.id = .running) (hfinal : record.status ≠ .running) :
    record ∈ (table.store record).prune.finished ↔ ¬table.CrowdedOut record := by
  obtain ⟨current, hget, -⟩ := phase_eq_running_iff.mp hrunning
  have hstored : (table.store record).Sound := h.store (h.id_known hget)
  have hperm := h.finished_store hrunning hfinal
  -- the record does not come after itself
  have hlater : ((table.store record).finished.filter fun other => record.Before other).length =
      (table.finished.filter fun other => record.Before other).length := by
    rw [(hperm.filter _).length_eq,
      List.filter_cons_of_neg (by simpa using Record.Before.irrefl record)]
  have hmem : record ∈ (table.store record).finished :=
    hperm.mem_iff.mpr (List.mem_cons_self ..)
  rw [hstored.keeps_prune.mem_iff hstored.nodup_finished hstored.prune.nodup_finished,
    AmongLatest, hlater, CrowdedOut, ← Nat.not_le]
  exact ⟨fun ⟨_, hfew⟩ hcrowded => hfew hcrowded.2, fun hnot => ⟨hmem, fun hmany =>
    hnot ⟨hfinal, hmany⟩⟩⟩

/-- What is found of a record that has just been accepted. -/
theorem Sound.get?_prune_store {table : Table} (h : table.Sound) {record : Record}
    (hrunning : table.phase record.id = .running) :
    (table.store record).prune.get? record.id =
      if table.CrowdedOut record then none else some record := by
  obtain ⟨current, hget, -⟩ := phase_eq_running_iff.mp hrunning
  have hstored : (table.store record).Sound := h.store (h.id_known hget)
  have hplace : (table.store record).get? record.id = some record := by simp
  by_cases hfinal : record.status = .running
  · -- a record that is still running is never one too many
    have hkept : record.id ∉ excess (table.store record).records := by
      intro hexcess
      obtain ⟨other, hother, hother_final⟩ := hstored.get?_of_mem_excess hexcess
      obtain rfl := Option.some.inj (hplace.symm.trans hother)
      exact hother_final hfinal
    rw [get?_prune, if_neg hkept, hplace, if_neg fun hcrowded => hcrowded.1 hfinal]
  · have hkept := h.mem_finished_prune_store hrunning hfinal
    rw [mem_finished_iff hstored.prune, phase_eq_finished_iff] at hkept
    by_cases hcrowded : table.CrowdedOut record
    · rw [if_pos hcrowded, get?_prune, hplace]
      rw [get?_prune, hplace] at hkept
      split
      · rfl
      · next hmissing =>
          rw [if_neg hmissing] at hkept
          exact absurd hcrowded (hkept.mp ⟨rfl, hfinal⟩)
    · rw [if_neg hcrowded]
      exact (hkept.mpr hcrowded).1

/-- In every table that operations lead to: a record is accepted exactly if its job is
running.  An accepted record is what is found for its id right after, unless it is final and
crowded out, when nothing is found; and a record that is refused changes nothing. -/
theorem accepted_of_run (ops : List Op) (record : Record) :
    (((run ops).update record).isSome = true ↔ (run ops).phase record.id = .running) ∧
      (((run ops).update record).isSome = true →
        (run ops).update record = some (run (ops ++ [.update record])) ∧
          (run (ops ++ [.update record])).get? record.id =
            if (run ops).CrowdedOut record then none else some record) ∧
      ((run ops).update record = none → run (ops ++ [.update record]) = run ops) := by
  refine ⟨isSome_update_iff, fun haccepted => ?_, fun hrefused => ?_⟩
  · have hrunning := isSome_update_iff.mp haccepted
    have hupdate := update_of_running hrunning
    have hafter : run (ops ++ [.update record]) = ((run ops).store record).prune := by
      simp [run_concat, apply, hupdate]
    rw [hafter]
    exact ⟨hupdate, (run_sound ops).get?_prune_store hrunning⟩
  · simp [run_concat, apply, hrefused]

/-- One job more than are kept once they have finished; all but the last one have handed in,
with end times from 1001 on. -/
def crowd : List Op :=
  (List.replicate 21 (.create "ls" 5)) ++
    (List.range 20).map fun n =>
      .update ((Record.start (n + 1) "ls" 5).complete Outcome.empty (1001 + n))

/-- The record of the last job of the crowd, by the time at which it ended. -/
def lastOfCrowd (ended : Nat) : Record :=
  (Record.start 21 "ls" 5).complete Outcome.empty ended

theorem accepted_of_run_crowd :
    ((run crowd).update (lastOfCrowd 2000)).isSome = true ∧
      (run (crowd ++ [.update (lastOfCrowd 2000)])).get? 21 = some (lastOfCrowd 2000) := by
  have haccepted : ((run crowd).update (lastOfCrowd 2000)).isSome = true := by cbv
  have hnone : ((run crowd).finished.filter fun other => (lastOfCrowd 2000).Before other) = [] := by
    cbv
  have hroom : ¬(run crowd).CrowdedOut (lastOfCrowd 2000) := by
    rintro ⟨-, hmany⟩
    rw [hnone] at hmany
    cases hmany
  obtain ⟨-, hfound⟩ := (accepted_of_run crowd (lastOfCrowd 2000)).2.1 haccepted
  exact ⟨haccepted, hfound.trans (if_neg hroom)⟩

/-- A record that is accepted and not found right after: all that are kept ended later. -/
theorem accepted_and_dropped :
    ((run crowd).update (lastOfCrowd 10)).isSome = true ∧
      (run (crowd ++ [.update (lastOfCrowd 10)])).get? (lastOfCrowd 10).id = none := by
  constructor <;> cbv

end Conch.Job.Table
