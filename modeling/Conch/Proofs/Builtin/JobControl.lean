import Conch.Builtin.JobControl
import Conch.Proofs.Job.Flags
import Mathlib.Algebra.Ring.Nat

/-!
# Jobs that are named and killed

An argument of `killjobs` denotes an id if it writes it in decimal digits, behind at most one
number sign and then at most one plus sign.  `killjobs_hits` says that the job with that id is
forgotten if it is tracked, and that nothing else changes then; any other argument is refused
and changes nothing.  What `jobs` writes at the start of a row denotes the id of that row.
That records are handed in with the flags of their own jobs is an assumption on a table alone;
`Traffic.killjobs_of_run` shows that it is met in every session that events lead to.

Ids are counted in 64 bits, and an argument cannot denote a greater one.
-/

namespace Conch

namespace Text

theorem isDigit_eq (c : Char) : isDigit c = c.isDigit :=
  rfl

/-- A text of digits has the value that it writes, whatever zeros it starts with. -/
theorem digitsValue?_eq_some_iff {s : List Char} {n : Nat} :
    digitsValue? s = some n ↔
      s ≠ [] ∧ (∀ c ∈ s, c.isDigit = true) ∧ Nat.ofDigitChars 10 s 0 = n := by
  have hvalue : s.foldl (fun n c => 10 * n + (c.toNat - 48)) 0 = Nat.ofDigitChars 10 s 0 :=
    Nat.ofDigitChars_eq_foldl.symm
  have hguard : (s.isEmpty || !s.all isDigit) = true ↔
      ¬(s ≠ [] ∧ ∀ c ∈ s, c.isDigit = true) := by
    simp only [isDigit_eq, Bool.or_eq_true, List.isEmpty_iff, Bool.not_eq_true', not_and_or,
      not_not, ← Bool.not_eq_true, List.all_eq_true, ne_eq]
  rw [digitsValue?, hvalue]
  by_cases hdigits : s ≠ [] ∧ ∀ c ∈ s, c.isDigit = true
  · rw [if_neg fun h => hguard.mp h hdigits, Option.some.injEq]
    exact ⟨fun h => ⟨hdigits.1, hdigits.2, h⟩, fun h => h.2.2⟩
  · rw [if_pos (hguard.mpr hdigits)]
    exact iff_of_false (by simp) fun h => hdigits ⟨h.1, h.2.1⟩

/-- A text without the character `c` at its start, if it is there. -/
def dropMark (c : Char) : List Char → List Char
  | [] => []
  | first :: rest => if first = c then rest else first :: rest

theorem dropMark_self (c : Char) (rest : List Char) : dropMark c (c :: rest) = rest :=
  if_pos rfl

theorem dropMark_of_ne {c : Char} {s : List Char} (h : ∀ rest, s = c :: rest → False) :
    dropMark c s = s := by
  cases s with
  | nil => rfl
  | cons first rest => exact if_neg fun hsame => h rest (by rw [hsame])

/-- At most one mark is taken off. -/
theorem eq_append_dropMark (c : Char) (s : List Char) :
    ∃ mark, (mark = [] ∨ mark = [c]) ∧ s = mark ++ dropMark c s := by
  cases s with
  | nil => exact ⟨[], .inl rfl, rfl⟩
  | cons first rest =>
      by_cases hmark : first = c
      · exact ⟨[c], .inr rfl, by simp [dropMark, hmark]⟩
      · exact ⟨[], .inl rfl, by simp [dropMark, hmark]⟩

/-- A mark is taken off before what does not start with one. -/
theorem dropMark_append {c : Char} {mark s : List Char} (hmark : mark = [] ∨ mark = [c])
    (hs : s.head? ≠ some c) : dropMark c (mark ++ s) = s := by
  rcases hmark with rfl | rfl
  · cases s with
    | nil => rfl
    | cons first rest =>
        have hother : first ≠ c := by simpa using hs
        simp [dropMark, hother]
  · simp [dropMark]

end Text

namespace Builtin

/-! ## Arguments that denote ids -/

/-- An argument writes an id in digits, behind at most one number sign and then at most one plus
sign. -/
def Denotes (arg : String) (id : Nat) : Prop :=
  ∃ mark sign digits : List Char,
    arg.toList = mark ++ (sign ++ digits) ∧ (mark = [] ∨ mark = ['#']) ∧
      (sign = [] ∨ sign = ['+']) ∧ digits ≠ [] ∧ (∀ c ∈ digits, c.isDigit = true) ∧
      Nat.ofDigitChars 10 digits 0 = id ∧ 1 ≤ id ∧ id ≤ 2 ^ 64 - 1

theorem dropMark_number (s : List Char) :
    (match s with
      | '#' :: rest => rest
      | all => all) = Text.dropMark '#' s := by
  split
  · exact (Text.dropMark_self '#' _).symm
  · next hother => exact (Text.dropMark_of_ne hother).symm

theorem dropMark_plus (s : List Char) :
    (match s with
      | '+' :: rest => rest
      | all => all) = Text.dropMark '+' s := by
  split
  · exact (Text.dropMark_self '+' _).symm
  · next hother => exact (Text.dropMark_of_ne hother).symm

theorem jobId?_eq (arg : String) :
    jobId? arg =
      (Text.digitsValue? (Text.dropMark '+' (Text.dropMark '#' arg.toList))).filter fun id =>
        1 ≤ id && id ≤ maxJobId := by
  unfold jobId?
  dsimp only
  split
  · next id hvalue =>
      have hdigits :
          Text.digitsValue? (Text.dropMark '+' (Text.dropMark '#' arg.toList)) = some id := by
        rw [← dropMark_plus, ← dropMark_number]
        exact hvalue
      rw [hdigits]
      rfl
  · next hvalue =>
      have hdigits :
          Text.digitsValue? (Text.dropMark '+' (Text.dropMark '#' arg.toList)) = none := by
        rw [← dropMark_plus, ← dropMark_number]
        exact hvalue
      rw [hdigits]
      rfl

theorem jobId?_eq_some_iff {arg : String} {id : Nat} : jobId? arg = some id ↔ Denotes arg id := by
  have hmax : maxJobId = 2 ^ 64 - 1 := rfl
  rw [jobId?_eq, Option.filter_eq_some_iff, Text.digitsValue?_eq_some_iff, Bool.and_eq_true,
    decide_eq_true_eq, decide_eq_true_eq, hmax]
  constructor
  · rintro ⟨⟨hsome, hdigits, hvalue⟩, hpos, hle⟩
    obtain ⟨mark, hmark, harg⟩ := Text.eq_append_dropMark '#' arg.toList
    obtain ⟨sign, hsign, hrest⟩ := Text.eq_append_dropMark '+' (Text.dropMark '#' arg.toList)
    exact ⟨mark, sign, _, harg.trans (by rw [← hrest]), hmark, hsign, hsome, hdigits, hvalue,
      hpos, hle⟩
  · rintro ⟨mark, sign, digits, harg, hmark, hsign, hsome, hdigits, hvalue, hpos, hle⟩
    have hstart : ∀ c, c.isDigit = false → digits.head? ≠ some c := by
      intro c hother hhead
      rw [hdigits c (List.mem_of_head? hhead)] at hother
      cases hother
    have hbehind : (sign ++ digits).head? ≠ some '#' := by
      rcases hsign with rfl | rfl
      · exact hstart '#' (by decide)
      · simp
    rw [harg, Text.dropMark_append hmark hbehind,
      Text.dropMark_append hsign (hstart '+' (by decide))]
    exact ⟨⟨hsome, hdigits, hvalue⟩, hpos, hle⟩

/-! ## The rows of the jobs -/

/-- How a row names its job. -/
def rowMark (id : Nat) : String :=
  "#" ++ toString id

/-- What a row starts with: how it names its job, and where that job stands. -/
def rowHead (job : Job.Record) : String :=
  rowMark job.id ++ " [" ++ job.status.name ++ "] "

/-- Where a row tells the exit code, if there is one. -/
def rowExit (job : Job.Record) : String :=
  match job.exitCode with
  | some code => " exit:" ++ toString code
  | none => ""

/-- What a row ends with: the exit code, and the time that has been taken. -/
def rowEnd (now : Nat) (job : Job.Record) : String :=
  rowExit job ++ " (" ++ seconds (job.duration now) ++ "s)"

theorem jobRow_eq (now : Nat) (job : Job.Record) :
    jobRow now job = rowHead job ++ job.command ++ rowEnd now job := by
  have hshape : jobRow now job = "#" ++ toString job.id ++ " [" ++ job.status.name ++ "] " ++
      job.command ++ rowExit job ++ " (" ++ seconds (job.duration now) ++ "s)" := rfl
  simp only [hshape, rowHead, rowMark, rowEnd, String.append_assoc]

theorem denotes_rowMark {id : Nat} (hpos : 1 ≤ id) (hle : id ≤ 2 ^ 64 - 1) :
    Denotes (rowMark id) id := by
  refine ⟨['#'], [], Nat.toDigits 10 id, by simp [rowMark], .inr rfl, .inl rfl,
    Nat.toDigits_ne_nil, fun c hmem => ?_, Nat.ofDigitChars_ten_toDigits, hpos, hle⟩
  exact Nat.isDigit_of_mem_toDigits (by decide) (by decide) hmem

/-! ## What a kill does -/

/-- A machine after the record of a job has been removed. -/
structure Removes (record : Job.Record) (before after : Machine) : Prop where
  /-- The table is without the record, and is otherwise the same. -/
  slots : after.jobs.slots = before.jobs.slots.filter fun slot => slot.1 ≠ record.id
  gone : after.jobs.get? record.id = none
  others : ∀ id, id ≠ record.id → after.jobs.get? id = before.jobs.get? id
  lastId : after.jobs.lastId = before.jobs.lastId
  /-- No flag but that of the record is touched, and that only if the job was running. -/
  flags : ∀ token, after.isFired token =
    (before.isFired token || decide (record.status = .running ∧ token = record.token))
  /-- All that is not in the job table is left as it was. -/
  rest : after = { before with jobs := after.jobs }

theorem removes_of_kill {record : Job.Record} {machine : Machine} {killed : Job.Table}
    (hget : machine.jobs.get? record.id = some record)
    (hkill : machine.jobs.kill record.id = some killed) :
    Removes record machine { machine with jobs := killed } := by
  obtain ⟨current, hcurrent, rfl⟩ := Job.Table.kill_eq_some_iff.mp hkill
  obtain rfl := Option.some.inj (hget.symm.trans hcurrent)
  refine ⟨?_, by rw [Job.Table.get?_kill hkill, if_pos rfl],
    fun id hother => by rw [Job.Table.get?_kill hkill, if_neg hother], rfl, fun token => ?_, rfl⟩
  · simp [Job.Table.without]
  · by_cases hrunning : record.status = .running
    · by_cases htoken : token = record.token <;> simp [Machine.isFired, hrunning, htoken]
    · simp [Machine.isFired, hrunning]

section Kill

variable {arg : String} {rest : List String} {context : Context} {machine : Machine}

theorem killjobs_of_tracked {record : Job.Record} (harg : jobId? arg = some record.id)
    (hget : machine.jobs.get? record.id = some record) :
    ∃ after,
      killjobs (arg :: rest) context machine =
          (.returned (Outcome.success ("Terminated job #" ++ toString record.id)), after) ∧
        Removes record machine after := by
  have hkill := Job.Table.kill_eq_some_iff.mpr ⟨record, hget, rfl⟩
  refine ⟨_, ?_, removes_of_kill hget hkill⟩
  simp only [killjobs, List.head?_cons, harg, hkill]

theorem killjobs_of_untracked {id : Nat} (harg : jobId? arg = some id)
    (hget : machine.jobs.get? id = none) :
    killjobs (arg :: rest) context machine =
      (.returned (Outcome.failure 1 ("killjobs: job #" ++ toString id ++ " not found")),
        machine) := by
  have hkill : machine.jobs.kill id = none := by simp [Job.Table.kill, hget]
  simp only [killjobs, List.head?_cons, harg, hkill]

theorem killjobs_of_none (harg : jobId? arg = none) :
    killjobs (arg :: rest) context machine =
      (.returned (Outcome.failure 1 "killjobs: invalid job id"), machine) := by
  simp only [killjobs, List.head?_cons, harg]

end Kill

/-- In every table that operations lead to, `killjobs` hits its target and nothing else.  Which id
an argument means can be read off it: the digits behind the marks.  If the id is tracked, its
record is removed, and no flag but that of the record is touched, which is the flag of the job
itself where records are handed in with the flags of their own jobs.  In all other cases the
command fails and changes nothing.  And what the row of a job starts with means that job. -/
theorem killjobs_hits (ops : List Job.Table.Op) (arg : String) (rest : List String)
    (context : Context) (machine : Machine) (htable : machine.jobs = Job.Table.run ops) :
    (∀ id, jobId? arg = some id ↔ Denotes arg id) ∧
      (∀ id record, Denotes arg id → machine.jobs.get? id = some record →
        record.id = id ∧
          (∃ after,
            killjobs (arg :: rest) context machine =
                (.returned (Outcome.success ("Terminated job #" ++ toString id)), after) ∧
              Removes record machine after) ∧
          (Job.Table.OwnFlags ops → record.token = .job id)) ∧
      ((∀ id record, Denotes arg id → machine.jobs.get? id ≠ some record) →
        ∃ stderr,
          killjobs (arg :: rest) context machine =
            (.returned (Outcome.failure 1 stderr), machine)) ∧
      ∀ record ∈ machine.jobs.records, record.id ≤ 2 ^ 64 - 1 →
        (∃ row, jobRow machine.clock record = rowHead record ++ row) ∧
          ∃ after,
            killjobs (rowMark record.id :: rest) context machine =
                (.returned (Outcome.success ("Terminated job #" ++ toString record.id)), after) ∧
              Removes record machine after := by
  have hsound : machine.jobs.Sound := htable ▸ Job.Table.run_sound ops
  refine ⟨fun id => jobId?_eq_some_iff, fun id record hdenotes hget => ?_, fun hmissed => ?_,
    fun record hmem hle => ⟨⟨_, (jobRow_eq machine.clock record).trans String.append_assoc⟩, ?_⟩⟩
  · obtain rfl : record.id = id := hsound.own _ (hsound.mem_slots_iff.mpr hget)
    refine ⟨rfl, killjobs_of_tracked (jobId?_eq_some_iff.mpr hdenotes) hget, fun hown => ?_⟩
    rw [htable] at hget
    exact hown.token_eq hget
  · cases harg : jobId? arg with
    | none => exact ⟨_, killjobs_of_none harg⟩
    | some id =>
        have hget : machine.jobs.get? id = none := Option.eq_none_iff_forall_ne_some.mpr
          fun record => hmissed id record (jobId?_eq_some_iff.mp harg)
        exact ⟨_, killjobs_of_untracked harg hget⟩
  · have hget := hsound.get?_record hmem
    have hdenotes := denotes_rowMark (hsound.id_known hget).1 hle
    exact killjobs_of_tracked (jobId?_eq_some_iff.mpr hdenotes) hget

/-- A machine with two jobs, of which the first has finished. -/
def twoJobs : Machine :=
  { Machine.blank with
    jobs := Job.Table.run [.create "ls" 5, .create "cat f" 6,
      .update ((Job.Record.start 1 "ls" 5).complete Outcome.empty 8)] }

/-- The second job is killed under a name with both marks and a zero in front. -/
theorem killjobs_hits_marked :
    Denotes "#+02" 2 ∧ twoJobs.jobs.get? 2 = some (Job.Record.start 2 "cat f" 6) ∧
      ∃ after,
        killjobs ["#+02"] ⟨.standard, [Path.slash], none, .line 0⟩ twoJobs =
            (.returned (Outcome.success "Terminated job #2"), after) ∧
          Removes (Job.Record.start 2 "cat f" 6) twoJobs after := by
  have hget : twoJobs.jobs.get? 2 = some (Job.Record.start 2 "cat f" 6) := by decide +kernel
  obtain ⟨hdenotes, htracked, -, -⟩ := killjobs_hits _ "#+02" []
    ⟨.standard, [Path.slash], none, .line 0⟩ twoJobs rfl
  have harg : Denotes "#+02" 2 := (hdenotes 2).mp (by decide)
  exact ⟨harg, hget, (htracked 2 _ harg hget).2.1⟩

end Builtin

end Conch
