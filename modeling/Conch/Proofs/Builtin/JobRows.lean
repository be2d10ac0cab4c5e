import Conch.Proofs.Builtin.JobControl
import Conch.Proofs.Json.Rendering
import Conch.Proofs.Text.Lines
import Mathlib.Data.List.Forall2

/-!
# Rows of jobs

Of the parts of a row only the command can hold a line feed, so a listing of jobs has a line for
each job and one for each line feed in a command.  `faithful_iff` says when the lines of the
listing can be taken for the rows of the jobs: exactly if no command holds a line feed.  What
stands behind a line feed begins a line of its own, and may begin it as the row of any job does.
-/

namespace Conch

/-! ## Parts of a row -/

namespace Number

theorem isOneLine_digitsPadded (width n : Nat) : IsOneLine (digitsPadded width n) :=
  isOneLine_ofList (by simp [newline_notMem_toDigits])

theorem isOneLine_fixedRatio (places num den : Nat) : IsOneLine (fixedRatio places num den) := by
  unfold fixedRatio
  split
  · exact isOneLine_toString _
  · exact ((isOneLine_toString _).append (by decide)).append (isOneLine_digitsPadded _ _)

theorem isOneLine_toString_int (n : Int) : IsOneLine (toString n) := by
  cases n with
  | ofNat n => exact isOneLine_toString n
  | negSucc n =>
      have hsign : IsOneLine "-" := by decide
      exact hsign.append (isOneLine_toString (n + 1))

end Number

namespace Builtin

theorem isOneLine_rowHead (job : Job.Record) : IsOneLine (rowHead job) := by
  have hmark : IsOneLine (rowMark job.id) :=
    IsOneLine.append (by decide) (Number.isOneLine_toString job.id)
  have hstatus : IsOneLine job.status.name := by cases job.status <;> decide
  exact ((hmark.append (by decide)).append hstatus).append (by decide)

theorem isOneLine_rowExit (job : Job.Record) : IsOneLine (rowExit job) := by
  unfold rowExit
  split
  · exact IsOneLine.append (by decide) (Number.isOneLine_toString_int _)
  · decide

theorem isOneLine_rowEnd (now : Nat) (job : Job.Record) : IsOneLine (rowEnd now job) :=
  (((isOneLine_rowExit job).append (by decide)).append
    (Number.isOneLine_fixedRatio _ _ _)).append (by decide)

/-- The number of line feeds in a text. -/
def feeds (text : String) : Nat :=
  text.toList.count '\n'

theorem feeds_append (text more : String) : feeds (text ++ more) = feeds text + feeds more := by
  simp [feeds]

theorem isOneLine_iff_feeds {text : String} : IsOneLine text ↔ feeds text = 0 :=
  List.count_eq_zero.symm

/-- The line feeds of a row are those of its command. -/
theorem feeds_jobRow (now : Nat) (job : Job.Record) :
    feeds (jobRow now job) = feeds job.command := by
  rw [jobRow_eq, feeds_append, feeds_append, isOneLine_iff_feeds.mp (isOneLine_rowHead job),
    isOneLine_iff_feeds.mp (isOneLine_rowEnd now job), Nat.zero_add, Nat.add_zero]

theorem getLast?_jobRow (now : Nat) (job : Job.Record) :
    (jobRow now job).toList.getLast? = some ')' := by
  have hclose : (rowEnd now job).toList.getLast? = some ')' := by
    rw [rowEnd, String.toList_append, List.getLast?_append_of_ne_nil _ (by decide)]
    rfl
  rw [jobRow_eq, String.toList_append, List.getLast?_append, hclose]
  rfl

/-! ## Lines that name jobs -/

/-- A line begins as a row of the job with this id does. -/
def Names (line : String) (id : Nat) : Prop :=
  ∃ rest, line = rowMark id ++ " [" ++ rest

theorem names_of_rowHead {line rest : String} {job : Job.Record} (h : line = rowHead job ++ rest) :
    Names line job.id :=
  ⟨job.status.name ++ "] " ++ rest, by simp only [h, rowHead, String.append_assoc]⟩

/-- A line names one job only: the digits of the id end where the blank stands. -/
theorem Names.inj {line : String} {id other : Nat} (h : Names line id) (hother : Names line other) :
    id = other := by
  have hdigits : ∀ {id : Nat}, Names line id →
      (line.toList.drop 1).takeWhile Char.isDigit = Nat.toDigits 10 id := by
    rintro id ⟨rest, rfl⟩
    have hall : ∀ c ∈ Nat.toDigits 10 id, c.isDigit = true := fun c hmem =>
      Nat.isDigit_of_mem_toDigits (by decide) (by decide) hmem
    simp [rowMark, List.takeWhile_append_of_pos hall]
  have hsame := congrArg (Nat.ofDigitChars 10 · 0) ((hdigits h).symm.trans (hdigits hother))
  simpa only [Nat.ofDigitChars_ten_toDigits] using hsame

/-- The lines of a listing tell of some jobs, and each of one job only. -/
structure Faithful (records : List Job.Record) (lines : List String) : Prop where
  /-- There are as many lines as jobs, and each begins as the row of the job in its place. -/
  rows : List.Forall₂ (fun job line => ∃ rest, line = rowHead job ++ rest) records lines
  /-- No job is left out, and none is made up. -/
  named : ∀ id, (∃ line ∈ lines, Names line id) ↔ ∃ job ∈ records, job.id = id
  /-- No two lines name the same job. -/
  apart : lines.Pairwise fun line other => ∀ id, Names line id → ¬Names other id

theorem Faithful.length_eq {records : List Job.Record} {lines : List String}
    (h : Faithful records lines) : lines.length = records.length :=
  h.rows.length_eq.symm

/-! ## Listings -/

/-- The lines that `jobs` writes for some records. -/
def jobLines (now : Nat) (records : List Job.Record) : List String :=
  Text.linesOf (Text.unlines (records.map (jobRow now)))

theorem jobs_of_tracked {machine : Machine} (hsome : machine.jobs.records ≠ [])
    (args : List String) (context : Context) :
    jobs args context machine =
      Outcome.success (Text.unlines (machine.jobs.records.map (jobRow machine.clock))) := by
  rw [jobs, if_neg (by simpa using hsome)]
  rfl

section Listing

variable {now : Nat} {records : List Job.Record}

/-- The rows of some jobs, as they are joined. -/
def rows (now : Nat) (records : List Job.Record) : List (List Char) :=
  records.map fun job => (jobRow now job).toList

theorem toList_unlines_rows :
    (Text.unlines (records.map (jobRow now))).toList = Text.join (rows now records) := by
  rw [Text.unlines, String.toList_intercalate, List.map_map, Text.join,
    Text.joinWith_eq_intercalate]
  rfl

theorem getLast?_of_mem_rows {row : List Char} (h : row ∈ rows now records) :
    row.getLast? = some ')' := by
  obtain ⟨job, -, rfl⟩ := List.mem_map.mp h
  exact getLast?_jobRow now job

theorem ne_nil_of_mem_rows {row : List Char} (h : row ∈ rows now records) : row ≠ [] := by
  rintro rfl
  have hlast := getLast?_of_mem_rows h
  cases hlast

/-- There is a line for each job, and one for each line feed in a command. -/
theorem length_jobLines (hsome : records ≠ []) :
    (jobLines now records).length =
      records.length + (records.map fun job => feeds job.command).sum := by
  have hfeeds : (rows now records).map (·.count '\n') =
      records.map fun job => feeds job.command := by
    simp only [rows, List.map_map, Function.comp_def, ← feeds_jobRow now]
    simp only [feeds]
  calc (jobLines now records).length
      = (Text.lines (Text.join (rows now records))).length := by
        rw [jobLines, Text.linesOf, List.length_map, toList_unlines_rows]
    _ = (rows now records).length + ((rows now records).map (·.count '\n')).sum :=
        Text.length_lines_join (by simpa [rows] using hsome) fun row hrow =>
          ⟨ne_nil_of_mem_rows hrow, by rw [getLast?_of_mem_rows hrow]; decide⟩
    _ = records.length + (records.map fun job => feeds job.command).sum := by
        rw [hfeeds, rows, List.length_map]

/-- Rows of one line each are the lines of the listing. -/
theorem jobLines_of_isOneLine (hplain : ∀ job ∈ records, IsOneLine job.command) :
    jobLines now records = records.map (jobRow now) := by
  have hwhole : ∀ row ∈ rows now records, '\n' ∉ row := by
    intro row hrow
    obtain ⟨job, hjob, rfl⟩ := List.mem_map.mp hrow
    have hplain := isOneLine_iff_feeds.mp (hplain job hjob)
    rw [← feeds_jobRow now] at hplain
    exact isOneLine_iff_feeds.mpr hplain
  have hlasts : Text.Lasts (rows now records) :=
    ⟨fun hempty => ne_nil_of_mem_rows (List.mem_of_getLast? hempty) rfl,
      fun row hrow => by rw [getLast?_of_mem_rows (List.mem_of_mem_dropLast hrow)]; decide⟩
  rw [jobLines, Text.linesOf, toList_unlines_rows, Text.lines_join hwhole,
    Text.carried_eq_self_iff.mpr hlasts, rows, List.map_map]
  exact List.map_congr_left fun job _ => String.ofList_toList

theorem faithful_rows (hordered : records.Pairwise fun job other => job.id < other.id) :
    Faithful records (records.map (jobRow now)) := by
  have hnames : ∀ job, Names (jobRow now job) job.id := fun job =>
    names_of_rowHead ((jobRow_eq now job).trans String.append_assoc)
  refine ⟨?_, fun id => ⟨?_, ?_⟩, List.pairwise_map.mpr (hordered.imp ?_)⟩
  · rw [List.forall₂_map_right_iff, List.forall₂_same]
    exact fun job _ => ⟨_, (jobRow_eq now job).trans String.append_assoc⟩
  · rintro ⟨line, hline, hnamed⟩
    obtain ⟨job, hjob, rfl⟩ := List.mem_map.mp hline
    exact ⟨job, hjob, (hnames job).inj hnamed⟩
  · rintro ⟨job, hjob, rfl⟩
    exact ⟨_, List.mem_map_of_mem hjob, hnames job⟩
  · intro job other hless id hnamed hboth
    obtain rfl := (hnames job).inj hnamed
    have hsame := (hnames other).inj hboth
    omega

/-- The listing of some jobs is faithful exactly if no command holds a line feed. -/
theorem faithful_iff (hsome : records ≠ [])
    (hordered : records.Pairwise fun job other => job.id < other.id) :
    Faithful records (jobLines now records) ↔ ∀ job ∈ records, IsOneLine job.command := by
  constructor
  · intro hfaithful job hjob
    have hnone : (records.map fun job => feeds job.command).sum = 0 := by
      have hlength := hfaithful.length_eq
      rw [length_jobLines hsome] at hlength
      omega
    exact isOneLine_iff_feeds.mpr
      (List.sum_eq_zero_iff_forall_eq_nat.mp hnone _ (List.mem_map_of_mem hjob))
  · intro hplain
    rw [jobLines_of_isOneLine hplain]
    exact faithful_rows hordered

end Listing

end Builtin

end Conch
