import Conch.Proofs.Builtin.Filters
import Conch.Proofs.Text.Order

/-!
# Sorted lines have one order

`sort` orders the lines that are not empty by their lower-case forms and, where these are the
same, by the lines themselves.  The second part makes the order antisymmetric whatever the
lower-case forms are.  So there is one sorted list of the lines only, and `sort_canonical` says
that the output depends on nothing but which lines there are and how often.
-/

namespace Conch.Builtin

/-- The place of a line in the order of `sort`: by its lower-case form, and then by itself. -/
def sortPlace (line : List Char) : List Char ×ₗ List Char :=
  toLex (Text.lowercase line, line)

theorem sortPlace_injective : Function.Injective sortPlace := by
  intro line other hsame
  exact congrArg Prod.snd (toLex.injective hsame)

/-- The lines of a text that are not empty, in the order in which they stand there. -/
def filledLines (text : String) : List (List Char) :=
  (Text.lines text.toList).filter fun line => !line.isEmpty

/-! ## The lines that are sorted -/

theorem sortedLines_perm (lines : List (List Char)) :
    (sortedLines lines).Perm (lines.filter fun line => !line.isEmpty) := by
  have hkeyed := (List.mergeSort_perm ((lines.filter fun line => !line.isEmpty).map fun line =>
    (Text.lowercase line, line)) Text.keyedLe).map (·.2)
  simpa [sortedLines, List.map_map, Function.comp_def] using hkeyed

/-- What is sorted are the lines with their own lower-case forms. -/
theorem key_of_mem_keyed {lines : List (List Char)} {keyed : List Char × List Char}
    (h : keyed ∈ (lines.map fun line => (Text.lowercase line, line)).mergeSort Text.keyedLe) :
    toLex keyed = sortPlace keyed.2 := by
  rw [List.mem_mergeSort] at h
  obtain ⟨line, -, rfl⟩ := List.mem_map.mp h
  rfl

theorem pairwise_sortedLines (lines : List (List Char)) :
    (sortedLines lines).Pairwise fun line next => sortPlace line ≤ sortPlace next := by
  have hkeyed := List.pairwise_mergeSort Text.keyedLe_trans Text.keyedLe_total
    ((lines.filter fun line => !line.isEmpty).map fun line => (Text.lowercase line, line))
  refine List.pairwise_map.mpr (hkeyed.imp_of_mem fun {keyed next} hmem hnext hle => ?_)
  rw [← key_of_mem_keyed hmem, ← key_of_mem_keyed hnext]
  exact Text.keyedLe_iff.mp hle

/-- Two sorted lists of the same lines are the same list. -/
theorem eq_of_pairwise_sortPlace {lines others : List (List Char)} (hperm : lines.Perm others)
    (hlines : lines.Pairwise fun line next => sortPlace line ≤ sortPlace next)
    (hothers : others.Pairwise fun line next => sortPlace line ≤ sortPlace next) :
    lines = others := by
  refine hperm.eq_of_pairwise (fun line other _ _ hle hge => ?_) hlines hothers
  exact sortPlace_injective (le_antisymm hle hge)

/-- Only the lines that are not empty count, and not in which order they stand. -/
theorem sortedLines_congr {lines others : List (List Char)}
    (h : (lines.filter fun line => !line.isEmpty).Perm (others.filter fun line => !line.isEmpty)) :
    sortedLines lines = sortedLines others := by
  have hperm : (sortedLines lines).Perm (sortedLines others) :=
    (sortedLines_perm lines).trans (h.trans (sortedLines_perm others).symm)
  exact eq_of_pairwise_sortPlace hperm (pairwise_sortedLines lines) (pairwise_sortedLines others)

/-! ## The output -/

section Output

variable {args : List String} {context : Context} {machine : Machine} {text : String}

theorem sort_of_text (hinput : inputText context machine args.head? = .ok (some text)) :
    sort args context machine =
      Outcome.success (String.ofList (Text.join (sortedLines (Text.lines text.toList)))) := by
  rw [sort, filterOutcome, hinput]
  rfl

/-- Whatever the text that `sort` is given: it succeeds, and its output is the lines of the text
that are not empty, joined, each of them at most the next one.  No other order of these lines is
like that, and every text with the same lines has the same outcome, wherever it comes from. -/
theorem sort_canonical (hinput : inputText context machine args.head? = .ok (some text)) :
    ∃ sorted : List (List Char),
      sort args context machine = Outcome.success (String.ofList (Text.join sorted)) ∧
      sorted.Perm (filledLines text) ∧
      (sorted.Pairwise fun line next => sortPlace line ≤ sortPlace next) ∧
      (∀ others : List (List Char), others.Perm (filledLines text) →
        (others.Pairwise fun line next => sortPlace line ≤ sortPlace next) → others = sorted) ∧
      ∀ (moreArgs : List String) (elsewhere : Context) (another : Machine) (other : String),
        inputText elsewhere another moreArgs.head? = .ok (some other) →
        (filledLines other).Perm (filledLines text) →
        sort moreArgs elsewhere another = sort args context machine := by
  refine ⟨sortedLines (Text.lines text.toList), sort_of_text hinput, sortedLines_perm _,
    pairwise_sortedLines _, fun others hperm hothers => ?_,
    fun moreArgs elsewhere another other hother hsame => ?_⟩
  · exact eq_of_pairwise_sortPlace (hperm.trans (sortedLines_perm _).symm) hothers
      (pairwise_sortedLines _)
  · rw [sort_of_text hother, sort_of_text hinput, sortedLines_congr hsame]

end Output

/-- Two texts with the same lines, in another order and with other line ends, and two lines of
them with the same lower-case form. -/
theorem sort_canonical_shuffled :
    inputText (fed "b\nA\n\na\n") Machine.blank none = .ok (some "b\nA\n\na\n") ∧
      inputText (fed "a\r\nb\r\nA") Machine.blank none = .ok (some "a\r\nb\r\nA") ∧
      sort [] (fed "a\r\nb\r\nA") Machine.blank = sort [] (fed "b\nA\n\na\n") Machine.blank := by
  have hfirst : inputText (fed "b\nA\n\na\n") Machine.blank ([] : List String).head? =
      .ok (some "b\nA\n\na\n") := rfl
  have hsecond : inputText (fed "a\r\nb\r\nA") Machine.blank ([] : List String).head? =
      .ok (some "a\r\nb\r\nA") := rfl
  obtain ⟨-, -, -, -, -, hsame⟩ := sort_canonical hfirst
  exact ⟨hfirst, hsecond, hsame [] _ _ _ hsecond (by decide)⟩

end Conch.Builtin
