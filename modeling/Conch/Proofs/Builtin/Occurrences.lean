import Conch.Proofs.Builtin.Sorting
import Mathlib.Data.List.FinRange
import Mathlib.Data.List.Nodup

/-!
# First occurrences

`unique` goes through the lines with those that it has seen at hand.  What it keeps are the lines
that stand at a place for the first time, so the output has every line of the text once.  Sorting
tells any two different lines apart, so it makes no difference whether repeated lines are dropped
before they are sorted or after.
-/

namespace Conch.Builtin

/-- The places in a list at which a line stands for the first time. -/
def firstPlaces (lines : List (List Char)) : List (Fin lines.length) :=
  (List.finRange lines.length).filter fun place => !(lines.take place).contains (lines.get place)

/-- What is left of lines when each of them is kept where it stands first. -/
structure FirstOccurrences (lines selected : List (List Char)) : Prop where
  /-- The lines at those places, in their order. -/
  places : selected = (firstPlaces lines).map lines.get
  sublist : selected.Sublist lines
  nodup : selected.Nodup
  /-- None is lost. -/
  mem_iff : ∀ line, line ∈ selected ↔ line ∈ lines

/-! ## The lines that are kept -/

/-- The entries at some places of a list, the first place taken apart. -/
theorem map_get_filter_cons (line : List Char) (rest : List (List Char))
    (p : Fin (line :: rest).length → Bool) :
    ((List.finRange (line :: rest).length).filter p).map (line :: rest).get =
      (if p ⟨0, Nat.zero_lt_succ _⟩ then [line] else []) ++
        ((List.finRange rest.length).filter fun place => p place.succ).map rest.get := by
  have hplaces : List.finRange (line :: rest).length =
      ⟨0, Nat.zero_lt_succ _⟩ :: (List.finRange rest.length).map Fin.succ :=
    List.finRange_succ
  have hlater : (((List.finRange rest.length).map Fin.succ).filter p).map (line :: rest).get =
      ((List.finRange rest.length).filter fun place => p place.succ).map rest.get := by
    rw [List.filter_map, List.map_map]
    rfl
  rw [← hlater, hplaces, List.filter_cons]
  split <;> rfl

/-- What is kept besides the lines seen before: the lines that are none of these and stand at their
places for the first time. -/
theorem unseenLines_eq (seen lines : List (List Char)) :
    unseenLines seen lines =
      ((List.finRange lines.length).filter fun place =>
        lines.get place ∉ seen ∧ lines.get place ∉ lines.take place).map lines.get := by
  induction lines generalizing seen with
  | nil => rfl
  | cons line rest ih =>
      -- behind the line, to be like it is as much as to have been seen
      have hlater (before : List (List Char))
          (hbefore : ∀ other, other ∈ before ↔ other = line ∨ other ∈ seen) :
          ((List.finRange rest.length).filter fun place =>
            (line :: rest).get place.succ ∉ seen ∧
              (line :: rest).get place.succ ∉ (line :: rest).take place.succ).map rest.get =
            unseenLines before rest := by
        rw [ih]
        congr 2
        funext place
        simp [hbefore, Bool.and_left_comm, Bool.and_assoc]
      rw [map_get_filter_cons, unseenLines]
      by_cases hseen : line ∈ seen
      · rw [hlater seen fun other => ⟨Or.inr, by rintro (rfl | hmem) <;> assumption⟩]
        simp [hseen]
      · rw [hlater (line :: seen) fun other => List.mem_cons]
        simp [hseen]

theorem nodup_unseenLines (seen lines : List (List Char)) : (unseenLines seen lines).Nodup := by
  induction lines generalizing seen with
  | nil => exact List.nodup_nil
  | cons line rest ih =>
      rw [unseenLines]
      split
      · exact ih seen
      · exact List.nodup_cons.mpr ⟨by simp [mem_unseenLines], ih _⟩

theorem unseenLines_sublist (seen lines : List (List Char)) :
    (unseenLines seen lines).Sublist lines := by
  induction lines generalizing seen with
  | nil => exact List.Sublist.refl []
  | cons line rest ih =>
      rw [unseenLines]
      split
      · exact (ih seen).cons line
      · exact (ih _).cons_cons line

/-- The lines that `unique` selects are the first occurrences. -/
theorem firstOccurrences_firstLines (lines : List (List Char)) :
    FirstOccurrences lines (firstLines lines) where
  places := by simp [firstLines, unseenLines_eq, firstPlaces]
  sublist := unseenLines_sublist [] lines
  nodup := nodup_unseenLines [] lines
  mem_iff line := by simp [firstLines, mem_unseenLines]

/-! ## Dropping repeated lines and sorting -/

theorem sortedLines_firstLines (lines : List (List Char)) :
    sortedLines (firstLines lines) = firstLines (sortedLines lines) := by
  have hkept := firstOccurrences_firstLines lines
  have hsorted := firstOccurrences_firstLines (sortedLines lines)
  have hnodup : (sortedLines (firstLines lines)).Nodup :=
    (sortedLines_perm _).nodup_iff.mpr (hkept.nodup.filter _)
  have hperm : (sortedLines (firstLines lines)).Perm (firstLines (sortedLines lines)) := by
    rw [List.perm_ext_iff_of_nodup hnodup hsorted.nodup]
    intro line
    rw [mem_sortedLines, hkept.mem_iff, hsorted.mem_iff, mem_sortedLines]
  exact eq_of_pairwise_sortPlace hperm (pairwise_sortedLines _)
    ((pairwise_sortedLines lines).sublist hsorted.sublist)

/-! ## The output -/

section Output

variable {args : List String} {context : Context} {machine : Machine} {text : String}

/-- Whatever the text that `unique` is given: it succeeds with the first occurrences of the lines,
joined.  And whatever the lines, repeated ones may be dropped before the lines are sorted or after
with the same result. -/
theorem unique_canonical (hinput : inputText context machine args.head? = .ok (some text)) :
    unique args context machine =
        Outcome.success (String.ofList (Text.join (firstLines (Text.lines text.toList)))) ∧
      FirstOccurrences (Text.lines text.toList) (firstLines (Text.lines text.toList)) ∧
      ∀ lines : List (List Char),
        sortedLines (firstLines lines) = firstLines (sortedLines lines) := by
  have hunique : unique args context machine =
      Outcome.success (filterText firstLines text) := by
    rw [unique, filterOutcome, hinput]
  exact ⟨hunique, firstOccurrences_firstLines _, sortedLines_firstLines⟩

end Output

/-- A text with a line that is repeated, one that differs from it in case only, and empty lines. -/
theorem unique_canonical_repeated :
    inputText (fed "b\n\nB\nb\n\na") Machine.blank none = .ok (some "b\n\nB\nb\n\na") ∧
      unique [] (fed "b\n\nB\nb\n\na") Machine.blank = Outcome.success "b\n\nB\na" := by
  have hinput : inputText (fed "b\n\nB\nb\n\na") Machine.blank ([] : List String).head? =
      .ok (some "b\n\nB\nb\n\na") := rfl
  obtain ⟨houtput, -, -⟩ := unique_canonical hinput
  exact ⟨hinput, houtput.trans (by decide)⟩

end Conch.Builtin
