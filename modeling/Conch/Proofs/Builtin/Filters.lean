import Conch.Builtin.Standard
import Conch.Proofs.Text.Lines

/-!
# Lines from filter to filter

The line filters differ in the lines that they select, and in nothing else.  They join what they
select without a line feed at its end, and the next filter cuts it again.  `lines_of_filter`
says what comes of this: the lines stay in order and none are merged, but each line before the
last one is taken without one carriage return at its end, and a last line that is empty is lost.
-/

namespace Conch.Builtin

/-- What a line filter selects from the lines of its input. -/
inductive Selection where
  /-- Those that match. -/
  | matching (isMatch : List Char → Bool)
  /-- Those that are not empty, in order. -/
  | sorted
  /-- The first one of all that are alike. -/
  | first

namespace Selection

/-- The lines selected. -/
def select : Selection → List (List Char) → List (List Char)
  | .matching isMatch => matchingLines isMatch
  | .sorted => sortedLines
  | .first => firstLines

/-- The output of the filter on a text. -/
def output : Selection → String → String
  | .matching isMatch => grepText isMatch
  | .sorted => filterText sortedLines
  | .first => filterText firstLines

end Selection

/-- The line filters with their names, the words that they take before a file, and what they
select then, given a way of reading patterns. -/
inductive IsFilter (readPattern : String → Except String (List Char → Bool)) :
    String → (List String → Context → Machine → Outcome) → List String → Selection → Prop
  | grep {pattern : String} {isMatch : List Char → Bool}
      (hpattern : readPattern pattern = .ok isMatch) :
      IsFilter readPattern "grep" (grepWith readPattern) [pattern] (.matching isMatch)
  | sort : IsFilter readPattern "sort" sort [] .sorted
  | unique : IsFilter readPattern "unique" unique [] .first

/-! ## What is selected -/

theorem mem_sortedLines {lines : List (List Char)} {line : List Char} :
    line ∈ sortedLines lines ↔ line ∈ lines ∧ line ≠ [] := by
  simp [sortedLines, List.mem_mergeSort]

theorem mem_unseenLines {seen lines : List (List Char)} {line : List Char} :
    line ∈ unseenLines seen lines ↔ line ∈ lines ∧ line ∉ seen := by
  induction lines generalizing seen with
  | nil => simp [unseenLines]
  | cons first rest ih =>
      by_cases hline : line = first
      · subst hline
        by_cases hseen : line ∈ seen <;> simp [unseenLines, hseen, ih]
      · by_cases hseen : first ∈ seen <;> simp [unseenLines, hseen, hline, ih]

namespace Selection

/-- All that is selected has been there. -/
theorem select_subset (selection : Selection) (lines : List (List Char)) :
    selection.select lines ⊆ lines := by
  intro line hmem
  cases selection with
  | matching isMatch => exact List.mem_of_mem_filter hmem
  | sorted => exact (mem_sortedLines.mp hmem).1
  | first => exact (mem_unseenLines.mp hmem).1

/-- The output is the selected lines, joined, if there are any. -/
theorem output_of_some (selection : Selection) {text : String}
    (hsome : selection.select (Text.lines text.toList) ≠ []) :
    selection.output text =
      String.ofList (Text.join (selection.select (Text.lines text.toList))) := by
  cases selection with
  | matching isMatch =>
      have hmatches : matchingLines isMatch (Text.lines text.toList) ≠ [] := hsome
      simp only [output, grepText, List.isEmpty_iff, hmatches, if_false]
      rfl
  | sorted | first => rfl

end Selection

/-! ## What a filter comes to -/

section Run

variable {readPattern : String → Except String (List Char → Bool)} {name : String}
  {run : List String → Context → Machine → Outcome} {words : List String}
  {selection : Selection} {context : Context} {machine : Machine} {rest : List String}

/-- A filter works on its input or on the file behind its words. -/
theorem IsFilter.run_eq (h : IsFilter readPattern name run words selection)
    (rest : List String) (context : Context) (machine : Machine) :
    run (words ++ rest) context machine =
      filterOutcome name selection.output rest.head? context machine := by
  cases h with
  | grep hpattern => simp only [grepWith, List.singleton_append, hpattern]; rfl
  | sort | unique => rfl

theorem IsFilter.run_of_text (h : IsFilter readPattern name run words selection) {text : String}
    (hinput : inputText context machine rest.head? = .ok (some text)) :
    run (words ++ rest) context machine = Outcome.success (selection.output text) := by
  rw [h.run_eq, filterOutcome, hinput]

theorem IsFilter.run_of_none (h : IsFilter readPattern name run words selection)
    (hinput : inputText context machine rest.head? = .ok none) :
    run (words ++ rest) context machine = inputMissing name := by
  rw [h.run_eq, filterOutcome, hinput]

/-- How selected lines come out of the output of a filter when it is cut into lines again. -/
structure Hands (selected : List (List Char)) (stdout : String) : Prop where
  /-- In order, each without a carriage return at its end, the last one as it is unless it is
  empty. -/
  carried : Text.lines stdout.toList = Text.carried selected
  /-- None are merged, and none but an empty last one is lost. -/
  count : (Text.lines stdout.toList).length =
    selected.length - if selected.getLast? = some [] then 1 else 0
  /-- They are the same exactly if nothing is lost at their ends. -/
  same_iff : Text.lines stdout.toList = selected ↔ Text.Lasts selected

/-- What a filter selects, the next one finds in its output, but for the ends of lines.  An empty
line is never the last one of those that are sorted. -/
theorem lines_of_filter (h : IsFilter readPattern name run words selection) {text : String}
    (hinput : inputText context machine rest.head? = .ok (some text))
    (hsome : selection.select (Text.lines text.toList) ≠ []) :
    (run (words ++ rest) context machine).isSuccess = true ∧
      Hands (selection.select (Text.lines text.toList))
        (run (words ++ rest) context machine).stdout ∧
      (selection = .sorted →
        (selection.select (Text.lines text.toList)).getLast? ≠ some []) := by
  let selected := selection.select (Text.lines text.toList)
  have hrun : run (words ++ rest) context machine =
      Outcome.success (String.ofList (Text.join selected)) := by
    rw [h.run_of_text hinput, selection.output_of_some hsome]
  have hwhole : ∀ line ∈ selected, '\n' ∉ line := fun line hmem =>
    Text.newline_notMem_of_mem_lines (selection.select_subset _ hmem)
  have hlines : Text.lines (Outcome.success (String.ofList (Text.join selected))).stdout.toList =
      Text.carried selected := by
    rw [Outcome.success, String.toList_ofList, Text.lines_join hwhole]
  rw [hrun]
  refine ⟨rfl, ⟨hlines, ?_, ?_⟩, ?_⟩
  · rw [hlines, Text.length_carried]
  · rw [hlines, Text.carried_eq_self_iff]
  · rintro rfl hlast
    exact (mem_sortedLines.mp (List.mem_of_getLast? hlast)).2 rfl

end Run

/-- The first stage of a session in the root, given an input. -/
def fed (input : String) : Context :=
  ⟨.standard, [Path.slash], some input, .line 0⟩

theorem lines_of_filter_fed :
    inputText (fed "b\na\n") Machine.blank none = .ok (some "b\na\n") ∧
      (unique [] (fed "b\na\n") Machine.blank).isSuccess = true ∧
      Hands [['b'], ['a']] (unique [] (fed "b\na\n") Machine.blank).stdout :=
  have hfilter : IsFilter (fun _ => .ok fun _ => true) "unique" unique [] .first := .unique
  have hinput : inputText (fed "b\na\n") Machine.blank ([] : List String).head? =
      .ok (some "b\na\n") := rfl
  have hlines := lines_of_filter hfilter hinput (by decide)
  ⟨rfl, hlines.1, hlines.2.1⟩

/-- A text with a carriage return too many and with an empty line at its end. -/
def ragged : String := "a\r\r\nb\n\n"

/-- Lines that the filters select and the next one does not find as they were. -/
theorem lines_of_filter_ragged :
    (matchingLines (fun _ => true) (Text.lines ragged.toList) = [['a', '\r'], ['b'], []] ∧
      Text.lines (grepWith (fun _ => .ok fun _ => true) ["."] (fed ragged)
        Machine.blank).stdout.toList = [['a'], ['b']]) ∧
      (firstLines (Text.lines ragged.toList) = [['a', '\r'], ['b'], []] ∧
        Text.lines (unique [] (fed ragged) Machine.blank).stdout.toList = [['a'], ['b']]) ∧
      sortedLines (Text.lines ragged.toList) = [['a', '\r'], ['b']] ∧
        Text.lines (sort [] (fed ragged) Machine.blank).stdout.toList = [['a'], ['b']] := by
  have hsorted : sortedLines (Text.lines ragged.toList) = [['a', '\r'], ['b']] := by
    have hkeyed : ((Text.lines ragged.toList).filter fun line => !line.isEmpty).map
        (fun line => (Text.lowercase line, line)) =
          [(['a', '\r'], ['a', '\r']), (['b'], ['b'])] := by decide +kernel
    simp only [sortedLines, hkeyed]
    rw [List.mergeSort_of_pairwise (by decide)]
    rfl
  have houtput : sort [] (fed ragged) Machine.blank =
      Outcome.success (String.ofList (Text.join (sortedLines (Text.lines ragged.toList)))) := rfl
  refine ⟨⟨by decide, by decide⟩, ⟨by decide, by decide⟩, hsorted, ?_⟩
  rw [houtput, hsorted]
  decide

end Conch.Builtin
