import Conch.Proofs.Job.Flags
import Conch.Proofs.Job.Pruning

/-!
# Which finished jobs are kept

Pruning works on what the table holds at the moment, and what it drops is lost.  Yet the
finished records in a table are always the latest of all that have ever been accepted, as
long as nobody kills a finished job.  So the order in which records are handed in does not
matter: `retained_of_run` says when two runs end with the same records.

Nothing is claimed about the flags that kills fire, which are not part of any record.
-/

namespace Conch.Job.Table

/-! ## What has been accepted -/

/-- The final record that an operation hands in, if the table accepts it. -/
def accepts? (table : Table) : Op → Option Record
  | .update record =>
      if record.status ≠ .running ∧ (table.update record).isSome then some record else none
  | _ => none

/-- The final records that the table accepts, one after another. -/
def acceptedFrom (table : Table) : List Op → List Record
  | [] => []
  | op :: later => (table.accepts? op).toList ++ acceptedFrom (table.apply op) later

/-- The final records that have been accepted in a run. -/
def accepted (ops : List Op) : List Record :=
  acceptedFrom empty ops

theorem accepted_concat (ops : List Op) (op : Op) :
    accepted (ops ++ [op]) = accepted ops ++ ((run ops).accepts? op).toList := by
  have hfrom : ∀ table : Table, acceptedFrom table (ops ++ [op]) =
      acceptedFrom table ops ++ ((ops.foldl apply table).accepts? op).toList := by
    induction ops with
    | nil => intro table; simp [acceptedFrom]
    | cons first ops ih => intro table; simp [acceptedFrom, ih]
  exact hfrom empty

theorem accepts?_eq_some_iff {table : Table} {op : Op} {record : Record} :
    table.accepts? op = some record ↔
      op = .update record ∧ record.status ≠ .running ∧ table.phase record.id = .running := by
  cases op with
  | create | kill => simp [accepts?]
  | update handed =>
      simp only [accepts?, isSome_update_iff]
      split
      · next h =>
          constructor
          · intro heq
            obtain rfl := Option.some.inj heq
            exact ⟨rfl, h⟩
          · rintro ⟨heq, -⟩
            rw [Op.update.inj heq]
      · next h =>
          simp only [reduceCtorEq, Op.update.injEq, false_iff]
          rintro ⟨rfl, hrest⟩
          exact h hrest

/-- The job of a record that has been accepted never runs again. -/
theorem phase_of_accepted {ops : List Op} {record : Record} (h : record ∈ accepted ops) :
    (run ops).phase record.id = .finished record ∨ (run ops).phase record.id = .gone := by
  induction ops using List.reverseRecOn with
  | nil => simp [accepted, acceptedFrom] at h
  | append_singleton ops op ih =>
      have hpath := (run_sound ops).apply_path op record.id
      rw [run_concat]
      rw [accepted_concat] at h
      rcases List.mem_append.mp h with h | h
      · rcases ih h with hbefore | hbefore
        · rw [hbefore] at hpath
          exact path_from_finished hpath
        · rw [hbefore] at hpath
          exact .inr (path_from_gone hpath)
      · obtain ⟨rfl, hfinal, hrunning⟩ := accepts?_eq_some_iff.mp (Option.mem_toList.mp h)
        rw [hrunning] at hpath
        rcases path_from_running hpath with hnext | ⟨hop, -⟩ | ⟨_, hop, -, -, hnext⟩
        · rcases (run_sound ops).running_apply_iff.mp hnext with ⟨-, -, hupdate⟩ | ⟨hcreate, -⟩
          · exact absurd (hupdate record rfl rfl) hfinal
          · simp [Op.isCreate] at hcreate
        · cases hop
        · obtain rfl := Op.update.inj hop
          exact hnext

/-- No record is accepted twice. -/
theorem nodup_accepted (ops : List Op) : (accepted ops).Nodup := by
  induction ops using List.reverseRecOn with
  | nil => exact List.nodup_nil
  | append_singleton ops op ih =>
      rw [accepted_concat]
      cases haccepts : (run ops).accepts? op with
      | none => simpa using ih
      | some record =>
          obtain ⟨-, -, hrunning⟩ := accepts?_eq_some_iff.mp haccepts
          have hnew : record ∉ accepted ops := by
            intro hold
            rcases phase_of_accepted hold with hphase | hphase
            · rw [hphase] at hrunning
              cases hrunning
            · rw [hphase] at hrunning
              cases hrunning
          exact List.Nodup.append ih (List.nodup_singleton record) (by simpa using hnew)

/-! ## Runs -/

/-- Nobody kills a job that has finished. -/
def SparesFinished (ops : List Op) : Prop :=
  ∀ earlier id record, earlier ++ [.kill id] <+: ops → (run earlier).phase id ≠ .finished record

theorem SparesFinished.init {ops : List Op} {op : Op} (h : SparesFinished (ops ++ [op])) :
    SparesFinished ops :=
  fun earlier id record hleads => h earlier id record (hleads.trans (List.prefix_append ops [op]))

section Sound

variable {table : Table}

theorem Sound.finished_begun (h : table.Sound) (command : String) (now : Nat) :
    (table.begun command now).finished.Perm table.finished := by
  refine @finished_store_perm { table with lastId := table.lastId + 1 } _ ?_
  -- the next id has no slot yet
  intro old hold
  exact absurd (h.known _ hold).2 (Nat.not_succ_le_self _)

/-- A record that is handed in joins the finished ones if it is accepted as final. -/
theorem Sound.mem_finished_store (h : table.Sound) {record : Record}
    (hrunning : table.phase record.id = .running) (other : Record) :
    other ∈ (table.store record).finished ↔
      other ∈ table.finished ∨ other ∈ (table.accepts? (.update record)).toList := by
  have hplace : ∀ old, (record.id, old) ∈ table.slots → old.status = .running :=
    fun _ => h.status_of_running hrunning
  rw [(finished_store_perm hplace).mem_iff, List.mem_append, or_comm]
  by_cases hfinal : record.status = .running <;>
    simp [accepts?, update_of_running hrunning, hfinal]

/-- A job that has not finished leaves the finished ones alone when it is killed. -/
theorem Sound.finished_kill (h : table.Sound) {killed : Table} {id : Nat}
    (hkill : table.kill id = some killed) (hspared : ∀ record, table.phase id ≠ .finished record) :
    killed.finished = table.finished := by
  obtain ⟨current, -, rfl⟩ := kill_eq_some_iff.mp hkill
  refine (finished_without h [id]).trans (List.filter_eq_self.mpr fun record hmem => ?_)
  have hother : record.id ≠ id := by
    rintro rfl
    exact hspared record ((mem_finished_iff h).mp hmem)
  simpa using hother

/-- What has been accepted so far is kept as it should be after one more operation. -/
theorem Sound.keeps_apply (h : table.Sound) {op : Op}
    (hspared : ∀ id record, op = .kill id → table.phase id ≠ .finished record)
    {offered : List Record} (hkeeps : Keeps offered table.finished) :
    Keeps (offered ++ (table.accepts? op).toList) (table.apply op).finished := by
  cases op with
  | create command now =>
      refine hkeeps.trans h.nodup_finished (fun record => ?_) (h.begun command now).keeps_prune
      simp [(h.finished_begun command now).mem_iff, accepts?]
  | update record =>
      by_cases hrunning : table.phase record.id = .running
      · obtain ⟨current, hget, -⟩ := phase_eq_running_iff.mp hrunning
        simp only [Table.apply, update_of_running hrunning, Option.getD_some]
        exact hkeeps.trans h.nodup_finished (h.mem_finished_store hrunning)
          (h.store (h.id_known hget)).keeps_prune
      · -- a refused record changes nothing
        have hupdate : table.update record = none := by
          rwa [← isSome_update_iff, Option.not_isSome_iff_eq_none] at hrunning
        simpa [Table.apply, hupdate, accepts?] using hkeeps
  | kill id =>
      cases hkill : table.kill id with
      | none => simpa [Table.apply, hkill, accepts?] using hkeeps
      | some killed =>
          simpa [Table.apply, hkill, accepts?, h.finished_kill hkill fun record =>
            hspared id record rfl] using hkeeps

/-- No operation leaves too many finished records behind. -/
theorem Sound.finished_apply_le (h : table.Sound)
    (hmost : table.finished.length ≤ Limits.finishedJobs) (op : Op) :
    (table.apply op).finished.length ≤ Limits.finishedJobs := by
  cases op with
  | create command now => exact (h.begun command now).keeps_prune.atMost
  | update record =>
      cases hupdate : table.update record with
      | none => simpa [Table.apply, hupdate] using hmost
      | some updated =>
          obtain ⟨⟨current, hget, -⟩, rfl⟩ := update_eq_some_iff.mp hupdate
          simpa [Table.apply, hupdate] using (h.store (h.id_known hget)).keeps_prune.atMost
  | kill id =>
      cases hkill : table.kill id with
      | none => simpa [Table.apply, hkill] using hmost
      | some killed =>
          obtain ⟨current, -, rfl⟩ := kill_eq_some_iff.mp hkill
          have hless := List.length_filter_le (fun record => !([id].contains record.id))
            table.finished
          rw [← finished_without h [id]] at hless
          simp only [Table.apply, hkill, Option.getD_some]
          exact hless.trans hmost

end Sound

theorem keeps_run {ops : List Op} (h : SparesFinished ops) :
    Keeps (accepted ops) (run ops).finished := by
  induction ops using List.reverseRecOn with
  | nil => exact ⟨by simp [run, finished, records, empty], by simp [run, finished, records, empty],
      by simp [accepted, acceptedFrom]⟩
  | append_singleton ops op ih =>
      rw [accepted_concat, run_concat]
      refine (run_sound ops).keeps_apply (fun id record hop => ?_) (ih h.init)
      exact h ops id record (hop ▸ List.prefix_refl _)

theorem finished_run_le (ops : List Op) :
    (run ops).finished.length ≤ Limits.finishedJobs := by
  induction ops using List.reverseRecOn with
  | nil => simp [run, finished, records, empty]
  | append_singleton ops op ih =>
      rw [run_concat]
      exact (run_sound ops).finished_apply_le ih op

/-! ## The order of delivery -/

/-- A kill has found the job running. -/
def Killed (ops : List Op) (id : Nat) : Prop :=
  ∃ earlier, earlier ++ [.kill id] <+: ops ∧ (run earlier).phase id = .running

/-- The records that are handed in, in order. -/
def handed (ops : List Op) : List Record :=
  ops.filterMap fun
    | .update record => some record
    | _ => none

/-- The commands and times with which jobs are started, in the order of their ids. -/
def starts (ops : List Op) : List (String × Nat) :=
  ops.filterMap fun
    | .create command now => some (command, now)
    | _ => none

/-- The jobs hand in final records, each one at most, after it has been started, and none if
it is killed; and nobody kills a finished job. -/
structure Delivers (ops : List Op) : Prop where
  final : ∀ record ∈ handed ops, record.status ≠ .running
  once : ((handed ops).map Record.id).Nodup
  started : ∀ earlier record, earlier ++ [.update record] <+: ops →
    1 ≤ record.id ∧ record.id ≤ earlier.countP Op.isCreate
  alive : ∀ record ∈ handed ops, ¬Killed ops record.id
  spares : SparesFinished ops

/-- Every job that is not killed hands in a record. -/
def Settles (ops : List Op) : Prop :=
  ∀ id, 1 ≤ id → id ≤ ops.countP Op.isCreate → ¬Killed ops id → id ∈ (handed ops).map Record.id

/-- The same jobs are started and killed in two runs, and the same records are handed in; which
jobs are killed need not be said where every other job hands in. -/
structure SameWork (ops other : List Op) : Prop where
  starts : starts ops = starts other
  handed : (handed ops).Perm (handed other)
  kills : (∀ id, Killed ops id ↔ Killed other id) ∨ Settles ops ∧ Settles other

theorem killed_concat_iff {ops : List Op} {op : Op} {id : Nat} :
    Killed (ops ++ [op]) id ↔ Killed ops id ∨ op = .kill id ∧ (run ops).phase id = .running := by
  constructor
  · rintro ⟨earlier, hleads, hrunning⟩
    rcases List.prefix_concat_iff.mp hleads with heq | hleads
    · obtain ⟨rfl, hop⟩ := List.append_inj' heq rfl
      exact .inr ⟨(List.cons.inj hop).1.symm, hrunning⟩
    · exact .inl ⟨earlier, hleads, hrunning⟩
  · rintro (⟨earlier, hleads, hrunning⟩ | ⟨rfl, hrunning⟩)
    · exact ⟨earlier, hleads.trans (List.prefix_append ops [op]), hrunning⟩
    · exact ⟨ops, List.prefix_refl _, hrunning⟩

theorem Killed.known {ops : List Op} {id : Nat} (h : Killed ops id) :
    1 ≤ id ∧ id ≤ ops.countP Op.isCreate := by
  obtain ⟨earlier, ⟨later, rfl⟩, hrunning⟩ := h
  obtain ⟨record, hget, -⟩ := phase_eq_running_iff.mp hrunning
  obtain ⟨hpos, hle⟩ := (run_sound earlier).id_known hget
  rw [lastId_run] at hle
  simp only [List.countP_append]
  omega

theorem handed_append (ops later : List Op) : handed (ops ++ later) = handed ops ++ handed later :=
  List.filterMap_append

theorem starts_append (ops later : List Op) : starts (ops ++ later) = starts ops ++ starts later :=
  List.filterMap_append

theorem length_starts (ops : List Op) : (starts ops).length = ops.countP Op.isCreate := by
  induction ops with
  | nil => rfl
  | cons op ops ih =>
      cases op with
      | create command now =>
          rw [List.countP_cons_of_pos rfl, ← ih]
          rfl
      | update | kill =>
          rw [List.countP_cons_of_neg (by simp [Op.isCreate]), ← ih]
          rfl

@[simp] theorem handed_create (command : String) (now : Nat) : handed [.create command now] = [] :=
  rfl

@[simp] theorem handed_update (record : Record) : handed [.update record] = [record] :=
  rfl

@[simp] theorem handed_kill (id : Nat) : handed [.kill id] = [] :=
  rfl

namespace Delivers

variable {ops : List Op}

theorem init {op : Op} (h : Delivers (ops ++ [op])) : Delivers ops where
  final record hmem := h.final record (by rw [handed_append]; exact List.mem_append_left _ hmem)
  once := by
    have honce := h.once
    rw [handed_append, List.map_append] at honce
    exact (List.nodup_append.mp honce).1
  started earlier record hleads :=
    h.started earlier record (hleads.trans (List.prefix_append ops [op]))
  alive record hmem hkilled :=
    h.alive record (by rw [handed_append]; exact List.mem_append_left _ hmem)
      (killed_concat_iff.mpr (.inl hkilled))
  spares := h.spares.init

theorem known (h : Delivers ops) {record : Record} (hmem : record ∈ handed ops) :
    1 ≤ record.id ∧ record.id ≤ ops.countP Op.isCreate := by
  obtain ⟨op, hop, hrecord⟩ := List.mem_filterMap.mp hmem
  obtain ⟨earlier, later, rfl⟩ := List.append_of_mem hop
  cases op with
  | create | kill => simp at hrecord
  | update other =>
      obtain rfl := Option.some.inj hrecord
      have hstarted := h.started earlier other ⟨later, by simp⟩
      simp only [List.countP_append]
      omega

/-- An id that is still to be given out belongs to no job that has been killed or has handed
in. -/
theorem fresh (h : Delivers ops) {id : Nat} (hid : ops.countP Op.isCreate < id) :
    ¬Killed ops id ∧ id ∉ (handed ops).map Record.id := by
  refine ⟨fun hkilled => absurd hkilled.known.2 (Nat.not_le.mpr hid), fun hmem => ?_⟩
  obtain ⟨record, hrecord, rfl⟩ := List.mem_map.mp hmem
  exact absurd (h.known hrecord).2 (Nat.not_le.mpr hid)

/-- The jobs that run are those that have been started, are not killed and have not handed
in. -/
theorem running_iff (h : Delivers ops) (id : Nat) :
    (run ops).phase id = .running ↔
      (1 ≤ id ∧ id ≤ ops.countP Op.isCreate) ∧ ¬Killed ops id ∧
        id ∉ (handed ops).map Record.id := by
  induction ops using List.reverseRecOn with
  | nil =>
      have hnone : (run []).phase id ≠ .running := by
        simp [phase_eq_running_iff, run, get?, empty]
      simp only [hnone, false_iff, List.countP_nil]
      omega
  | append_singleton ops op ih =>
      have hbefore := ih h.init
      rw [run_concat, (run_sound ops).running_apply_iff, killed_concat_iff, handed_append,
        lastId_run, List.countP_append, hbefore]
      cases op with
      | create command now =>
          -- one more job runs, and its id has not been in use
          simp only [reduceCtorEq, ne_eq, not_false_eq_true, true_and, false_and, or_false,
            IsEmpty.forall_iff, implies_true, and_true, Op.isCreate, List.countP_singleton,
            if_true, handed_create, List.append_nil]
          constructor
          · rintro (⟨⟨hpos, hle⟩, halive⟩ | rfl)
            · exact ⟨⟨hpos, by omega⟩, halive⟩
            · exact ⟨⟨by omega, by omega⟩, h.init.fresh (Nat.lt_succ_self _)⟩
          · rintro ⟨⟨hpos, hle⟩, halive⟩
            rcases Nat.lt_or_ge (ops.countP Op.isCreate) id with hnew | hold
            · exact .inr (by omega)
            · exact .inl ⟨⟨hpos, hold⟩, halive⟩
      | update record =>
          -- the job of the record runs no more, and all others go on
          have hfinal : record.status ≠ .running := h.final record (by simp [handed_append])
          have hother : (∀ handed, Op.update record = .update handed → handed.id = id →
              handed.status = .running) ↔ id ≠ record.id := by
            constructor
            · rintro hall rfl
              exact hfinal (hall record rfl rfl)
            · rintro hne handed hop rfl
              exact absurd (congrArg Record.id (Op.update.inj hop)).symm hne
          simp only [hother, reduceCtorEq, ne_eq, not_false_eq_true, true_and, false_and, or_false,
            Op.isCreate, Bool.false_eq_true, List.countP_singleton, if_false, Nat.add_zero,
            handed_update, List.map_append, List.map_cons, List.map_nil, List.mem_append,
            List.mem_singleton, not_or]
          tauto
      | kill target =>
          simp only [reduceCtorEq, ne_eq, IsEmpty.forall_iff, implies_true, and_true, false_and,
            or_false, Op.isCreate, Bool.false_eq_true, List.countP_singleton, if_false,
            Nat.add_zero, handed_kill, List.append_nil, Op.kill.injEq]
          tauto

/-- Every record that is handed in is accepted. -/
theorem accepted_eq (h : Delivers ops) : accepted ops = handed ops := by
  induction ops using List.reverseRecOn with
  | nil => rfl
  | append_singleton ops op ih =>
      rw [accepted_concat, handed_append, ih h.init]
      congr 1
      cases op with
      | create | kill => rfl
      | update record =>
          have hmem : record ∈ handed (ops ++ [.update record]) := by simp [handed_append]
          have hnew : record.id ∉ (handed ops).map Record.id := by
            have honce := h.once
            rw [handed_append, List.map_append] at honce
            exact fun hold => (List.nodup_append.mp honce).2.2 _ hold _ (by simp) rfl
          have hrunning : (run ops).phase record.id = .running :=
            (h.init.running_iff record.id).mpr ⟨h.started ops record (List.prefix_refl _),
              fun hkilled => h.alive record hmem (killed_concat_iff.mpr (.inl hkilled)), hnew⟩
          rw [accepts?_eq_some_iff.mpr ⟨rfl, h.final record hmem, hrunning⟩]
          rfl

/-- A running job still has the record with which it was started. -/
theorem started_of_running (h : Delivers ops) {id : Nat} {record : Record}
    (hget : (run ops).get? id = some record) (hrunning : record.status = .running) :
    ∃ command now, (starts ops)[id - 1]? = some (command, now) ∧
      record = Record.start id command now := by
  induction ops using List.reverseRecOn with
  | nil => simp [run, get?, empty] at hget
  | append_singleton ops op ih =>
      rw [run_concat] at hget
      rcases of_get?_apply hget with hbefore | ⟨command, now, rfl, hid, hrecord⟩ | ⟨rfl, -, -⟩
      · obtain ⟨command, now, hstart, hrecord⟩ := ih h.init hbefore
        obtain ⟨hlt, -⟩ := List.getElem?_eq_some_iff.mp hstart
        exact ⟨command, now, by rw [starts_append, List.getElem?_append_left hlt, hstart], hrecord⟩
      · have hplace : id - 1 = (starts ops).length := by
          rw [length_starts, hid, lastId_run]
          rfl
        refine ⟨command, now, ?_, hrecord⟩
        rw [starts_append, hplace]
        exact List.getElem?_concat_length
      · exact absurd hrunning (h.final record (by simp [handed_append]))

end Delivers

theorem Sound.nodup_slots {table : Table} (h : table.Sound) : table.slots.Nodup := by
  refine h.ordered.imp ?_
  rintro a b hlt rfl
  exact Nat.lt_irrefl _ hlt

/-- The records that can be looked up determine the slots. -/
theorem Sound.slots_ext {table other : Table} (h : table.Sound) (hother : other.Sound)
    (hget : ∀ id record, table.get? id = some record ↔ other.get? id = some record) :
    table.slots = other.slots := by
  have hperm : table.slots.Perm other.slots := by
    rw [List.perm_ext_iff_of_nodup h.nodup_slots hother.nodup_slots]
    rintro ⟨id, record⟩
    rw [h.mem_slots_iff, hother.mem_slots_iff, hget]
  refine hperm.eq_of_pairwise ?_ h.ordered hother.ordered
  intro a b _ _ hab hba
  exact absurd hab (Nat.lt_asymm hba)

/-! ## Runs that can be checked place by place -/

/-- At its place in a run, a kill finds its job running, and a record is handed in for a job
that has been started. -/
def isTimely (ops : List Op) (place : Nat) : Bool :=
  match ops[place]? with
  | some (.kill id) => (run (ops.take place)).phase id = .running
  | some (.update record) =>
      1 ≤ record.id && record.id ≤ (ops.take place).countP Op.isCreate
  | _ => true

theorem exists_place_of_prefix {earlier ops : List Op} {op : Op} (h : earlier ++ [op] <+: ops) :
    ∃ place < ops.length, ops[place]? = some op ∧ earlier = ops.take place := by
  obtain ⟨later, rfl⟩ := h
  exact ⟨earlier.length, by simp, by simp, by simp⟩

theorem delivers_of_timely {ops : List Op}
    (hfinal : ∀ record ∈ handed ops, record.status ≠ .running)
    (honce : ((handed ops).map Record.id).Nodup)
    (halive : ∀ record ∈ handed ops, .kill record.id ∉ ops)
    (htimely : ∀ place < ops.length, isTimely ops place = true) : Delivers ops where
  final := hfinal
  once := honce
  started := by
    intro earlier record hleads
    obtain ⟨place, hplace, hop, rfl⟩ := exists_place_of_prefix hleads
    simpa [isTimely, hop] using htimely place hplace
  alive := by
    rintro record hmem ⟨earlier, hleads, -⟩
    exact halive record hmem (hleads.subset (by simp))
  spares := by
    intro earlier id record hleads hfinished
    obtain ⟨place, hplace, hop, rfl⟩ := exists_place_of_prefix hleads
    have hrunning := htimely place hplace
    simp [isTimely, hop, hfinished] at hrunning

theorem settles_of_timely {ops : List Op}
    (htimely : ∀ place < ops.length, isTimely ops place = true)
    (hends : ∀ id ≤ ops.countP Op.isCreate, 1 ≤ id →
      .kill id ∈ ops ∨ id ∈ (handed ops).map Record.id) : Settles ops := by
  intro id hpos hle halive
  rcases hends id hle hpos with hkill | hhanded
  · obtain ⟨place, hlt, hop⟩ := List.getElem_of_mem hkill
    refine absurd ⟨ops.take place, ?_, ?_⟩ halive
    · rw [← hop, List.take_append_getElem hlt]
      exact List.take_prefix _ _
    · simpa [isTimely, List.getElem?_eq_getElem hlt, hop] using htimely place hlt
  · exact hhanded

namespace SameWork

variable {ops other : List Op}

theorem symm (h : SameWork ops other) : SameWork other ops where
  starts := h.starts.symm
  handed := h.handed.symm
  kills := h.kills.imp (fun hsame id => (hsame id).symm) And.symm

theorem countP_eq (h : SameWork ops other) :
    ops.countP Op.isCreate = other.countP Op.isCreate := by
  rw [← length_starts, ← length_starts, h.starts]

theorem running (h : SameWork ops other) (hops : Delivers ops) (hother : Delivers other) {id : Nat}
    (hrunning : (run ops).phase id = .running) : (run other).phase id = .running := by
  obtain ⟨⟨hpos, hle⟩, halive, hnew⟩ := (hops.running_iff id).mp hrunning
  have hperm := (h.handed.map Record.id).mem_iff (a := id)
  rcases h.kills with hsame | ⟨hsettles, -⟩
  · exact (hother.running_iff id).mpr
      ⟨⟨hpos, h.countP_eq ▸ hle⟩, (hsame id).not.mp halive, hperm.not.mp hnew⟩
  · exact absurd (hsettles id hpos hle halive) hnew

/-- What one run ends with, the other ends with, too. -/
theorem get?_eq_some (h : SameWork ops other) (hops : Delivers ops) (hother : Delivers other)
    {id : Nat} {record : Record} (hget : (run ops).get? id = some record) :
    (run other).get? id = some record := by
  by_cases hrunning : record.status = .running
  · obtain ⟨command, now, hstart, rfl⟩ := hops.started_of_running hget hrunning
    obtain ⟨another, hanother, hlive⟩ := phase_eq_running_iff.mp
      (h.running hops hother (phase_eq_running_iff.mpr ⟨_, hget, hrunning⟩))
    obtain ⟨_, _, hsame, rfl⟩ := hother.started_of_running hanother hlive
    rw [← h.starts, hstart] at hsame
    obtain ⟨rfl, rfl⟩ := Prod.mk.inj (Option.some.inj hsame)
    exact hanother
  · obtain rfl : record.id = id :=
      (run_sound ops).own _ ((run_sound ops).mem_slots_iff.mpr hget)
    have hlatest := ((keeps_run hops.spares).mem_iff (nodup_accepted ops)
      (run_sound ops).nodup_finished).mp
        ((mem_finished_iff (run_sound ops)).mpr (phase_eq_finished_iff.mpr ⟨hget, hrunning⟩))
    rw [hops.accepted_eq] at hlatest
    have hkept := ((keeps_run hother.spares).mem_iff (nodup_accepted other)
      (run_sound other).nodup_finished).mpr (by
        rw [hother.accepted_eq]
        exact hlatest.perm h.handed)
    exact (phase_eq_finished_iff.mp ((mem_finished_iff (run_sound other)).mp hkept)).1

end SameWork

/-- Whatever the operations, there are never too many finished records, and starting a job
prunes none.  As long as nobody kills a finished job, the finished records are the latest of
all that have been accepted.  Hence the order in which the jobs hand in makes no difference:
two runs in which the same is done end with the same records. -/
theorem retained_of_run (ops : List Op) :
    (SparesFinished ops → ∀ record, record ∈ (run ops).finished ↔
      AmongLatest Limits.finishedJobs (accepted ops) record) ∧
    (∀ other, Delivers ops → Delivers other → SameWork ops other →
      (run ops).slots = (run other).slots ∧ (run ops).lastId = (run other).lastId) ∧
    (run ops).finished.length ≤ Limits.finishedJobs ∧
    ∀ command now, ((run ops).create command now).2 = (run ops).begun command now := by
  have hsound := run_sound ops
  refine ⟨fun hspares record => ?_, fun other hops hother hsame => ⟨?_, ?_⟩, finished_run_le ops,
    fun command now => ?_⟩
  · exact (keeps_run hspares).mem_iff (nodup_accepted ops) hsound.nodup_finished
  · exact hsound.slots_ext (run_sound other) fun id record =>
      ⟨hsame.get?_eq_some hops hother, hsame.symm.get?_eq_some hother hops⟩
  · rw [lastId_run, lastId_run, hsame.countP_eq]
  · rw [create_eq_prune]
    refine prune_eq_self ?_
    rw [(hsound.finished_begun command now).length_eq]
    exact finished_run_le ops

/-- Three jobs, of which the second hands in before the first and the third is killed. -/
def overtaken : List Op :=
  [.create "ls" 5, .create "pwd" 6, .create "cat" 6, .kill 3,
    .update ((Record.start 2 "pwd" 6).complete Outcome.empty 7),
    .update ((Record.start 1 "ls" 5).complete Outcome.empty 8)]

/-- The same three jobs, of which the first two hand in in turn. -/
def inTurn : List Op :=
  [.create "ls" 5, .create "pwd" 6, .create "cat" 6,
    .update ((Record.start 1 "ls" 5).complete Outcome.empty 8), .kill 3,
    .update ((Record.start 2 "pwd" 6).complete Outcome.empty 7)]

theorem retained_of_run_overtaken :
    SparesFinished overtaken ∧ Delivers overtaken ∧ Delivers inTurn ∧ SameWork overtaken inTurn ∧
      (∀ record, record ∈ (run overtaken).finished ↔
        AmongLatest Limits.finishedJobs (accepted overtaken) record) ∧
      (run overtaken).slots = (run inTurn).slots := by
  have htimely : ∀ place < overtaken.length, isTimely overtaken place = true := by
    decide +kernel
  have hother : ∀ place < inTurn.length, isTimely inTurn place = true := by decide +kernel
  have hfirst := delivers_of_timely (by decide) (by decide) (by decide) htimely
  have hsecond := delivers_of_timely (by decide) (by decide) (by decide) hother
  have hsame : SameWork overtaken inTurn := ⟨by decide, by decide,
    .inr ⟨settles_of_timely htimely (by decide), settles_of_timely hother (by decide)⟩⟩
  obtain ⟨hlatest, horder, -⟩ := retained_of_run overtaken
  exact ⟨hfirst.spares, hfirst, hsecond, hsame, hlatest hfirst.spares,
    (horder inTurn hfirst hsecond hsame).1⟩

end Conch.Job.Table
