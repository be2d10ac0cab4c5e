import Conch.Proofs.Path.Folding
import Conch.Text.Lines
import Mathlib.Algebra.Ring.Nat

/-!
# Lines that are joined and cut again

Lines joined by line feeds are cut at these line feeds again.  Two things are lost on the way: a
carriage return at the end of a line with a line feed behind it is taken for a part of the line
end, and an empty line at the end of the text is no line.  `carried_eq_self_iff` says that nothing
else is.
-/

namespace Conch.Text

theorem joinWith_eq_intercalate (sep : List Char) (texts : List (List Char)) :
    joinWith sep texts = sep.intercalate texts := by
  induction texts with
  | nil => rfl
  | cons first later ih =>
      cases later with
      | nil => simp [joinWith]
      | cons next rest =>
          have hjoin : joinWith sep (first :: next :: rest) =
              first ++ sep ++ joinWith sep (next :: rest) := rfl
          rw [hjoin, ih, List.intercalate_cons_cons]

/-! ## Lines that have been cut -/

theorem dropReturn_sublist (line : List Char) : (dropReturn line).Sublist line := by
  unfold dropReturn
  split
  · exact List.dropLast_sublist line
  · exact .refl line

/-- Only a carriage return at its end is taken off a line. -/
theorem dropReturn_eq_self_iff {line : List Char} :
    dropReturn line = line ↔ line.getLast? ≠ some '\r' := by
  unfold dropReturn
  split
  · next hreturn =>
      have hshorter : line.dropLast ≠ line := by
        intro hsame
        have hsome : line ≠ [] := by
          rintro rfl
          cases hreturn
        have hlength := congrArg List.length hsame
        have hpos := List.length_pos_iff.mpr hsome
        rw [List.length_dropLast] at hlength
        omega
      simp [hreturn, hshorter]
  · next hother => simp [hother]

/-- What cutting into lines makes of a piece, it makes of a piece of the text. -/
theorem exists_of_mem_linesOfPieces {pieces : List (List Char)} {line : List Char}
    (h : line ∈ linesOfPieces pieces) : ∃ piece ∈ pieces, line.Sublist piece := by
  induction pieces with
  | nil => cases h
  | cons piece later ih =>
      cases later with
      | nil =>
          simp only [linesOfPieces] at h
          split at h
          · cases h
          · obtain rfl := List.mem_singleton.mp h
            exact ⟨line, List.mem_singleton_self line, .refl line⟩
      | cons next rest =>
          rcases List.mem_cons.mp h with rfl | hlater
          · exact ⟨piece, List.mem_cons_self .., dropReturn_sublist piece⟩
          · obtain ⟨other, hmem, hsub⟩ := ih hlater
            exact ⟨other, List.mem_cons_of_mem _ hmem, hsub⟩

/-- No line of a text holds a line feed. -/
theorem newline_notMem_of_mem_lines {s line : List Char} (h : line ∈ lines s) : '\n' ∉ line := by
  obtain ⟨piece, hpiece, hsub⟩ := exists_of_mem_linesOfPieces h
  intro hnewline
  simpa using of_mem_splitBy hpiece '\n' (hsub.subset hnewline)

/-! ## Lines that are joined -/

/-- What comes back of lines that have been joined: each of them in its place, without one
carriage return that it ends with, but the last one as it is, unless it is empty. -/
def carried (texts : List (List Char)) : List (List Char) :=
  texts.dropLast.map dropReturn ++ texts.getLast?.toList.filter fun line => !line.isEmpty

/-- Lines that come back as they are: the last one is not empty, and none before it ends in a
carriage return. -/
structure Lasts (texts : List (List Char)) : Prop where
  last : texts.getLast? ≠ some []
  returns : ∀ line ∈ texts.dropLast, line.getLast? ≠ some '\r'

theorem linesOfPieces_eq_carried (pieces : List (List Char)) :
    linesOfPieces pieces = carried pieces := by
  induction pieces with
  | nil => rfl
  | cons piece later ih =>
      cases later with
      | nil =>
          cases piece with
          | nil => rfl
          | cons c rest => rfl
      | cons next rest =>
          have hcut : linesOfPieces (piece :: next :: rest) =
              dropReturn piece :: linesOfPieces (next :: rest) := rfl
          rw [hcut, ih]
          simp [carried]

/-- Joined lines are cut where they were joined. -/
theorem lines_join {texts : List (List Char)} (hwhole : ∀ line ∈ texts, '\n' ∉ line) :
    lines (join texts) = carried texts := by
  by_cases hsome : texts = []
  · subst hsome
    rfl
  · rw [lines, join, joinWith_eq_intercalate, splitBy_intercalate hsome hwhole,
      linesOfPieces_eq_carried]

/-- At most the last line is lost, and only if it is empty. -/
theorem length_carried (texts : List (List Char)) :
    (carried texts).length = texts.length - if texts.getLast? = some [] then 1 else 0 := by
  rcases List.eq_nil_or_concat' texts with rfl | ⟨init, last, rfl⟩
  · rfl
  · cases last with
    | nil => simp [carried]
    | cons c rest => simp [carried]

theorem map_dropReturn_eq_self_iff {texts : List (List Char)} :
    texts.map dropReturn = texts ↔ ∀ line ∈ texts, line.getLast? ≠ some '\r' := by
  calc texts.map dropReturn = texts
      ↔ texts.map dropReturn = texts.map id := by rw [List.map_id]
    _ ↔ ∀ line ∈ texts, dropReturn line = id line := List.map_inj_left
    _ ↔ ∀ line ∈ texts, line.getLast? ≠ some '\r' := by simp only [id, dropReturn_eq_self_iff]

/-- Lines come back as they are exactly if nothing is lost at their ends. -/
theorem carried_eq_self_iff {texts : List (List Char)} : carried texts = texts ↔ Lasts texts := by
  rcases List.eq_nil_or_concat' texts with rfl | ⟨init, last, rfl⟩
  · exact iff_of_true rfl ⟨by simp, by simp⟩
  constructor
  · intro hsame
    have hlast : (init ++ [last]).getLast? ≠ some [] := by
      intro hempty
      have hlength := congrArg List.length hsame
      rw [length_carried, if_pos hempty] at hlength
      simp at hlength
    have hkept : init.map dropReturn = init := by
      have hfilled : last ≠ [] := by simpa using hlast
      simpa [carried, hfilled] using hsame
    refine ⟨hlast, ?_⟩
    rw [List.dropLast_concat]
    exact map_dropReturn_eq_self_iff.mp hkept
  · rintro ⟨hlast, hreturns⟩
    have hfilled : last ≠ [] := by simpa using hlast
    rw [List.dropLast_concat] at hreturns
    simp [carried, hfilled, map_dropReturn_eq_self_iff.mpr hreturns]

/-! ## How many lines there are -/

theorem length_splitBy (sep : Char) (s : List Char) :
    (splitBy (· = sep) s).length = s.count sep + 1 := by
  induction s with
  | nil => rfl
  | cons c rest ih =>
      by_cases hsep : c = sep
      · simp [splitBy, hsep, ih]
      · obtain ⟨piece, pieces, hrest⟩ := List.exists_cons_of_ne_nil (splitBy_ne_nil (· = sep) rest)
        rw [hrest] at ih
        simpa [splitBy, hsep, hrest] using ih

/-- The last piece is empty only if the text is, or if it ends in a separator. -/
theorem getLast?_splitBy {sep : Char} {s : List Char} (hsome : s ≠ [])
    (hlast : s.getLast? ≠ some sep) : (splitBy (· = sep) s).getLast? ≠ some [] := by
  obtain ⟨init, last, rfl⟩ := (List.eq_nil_or_concat' s).resolve_left hsome
  have hother : last ≠ sep := by simpa using hlast
  clear hsome hlast
  induction init with
  | nil => simp [splitBy, hother]
  | cons c rest ih =>
      obtain ⟨piece, pieces, hrest⟩ :=
        List.exists_cons_of_ne_nil (splitBy_ne_nil (· = sep) (rest ++ [last]))
      rw [hrest] at ih
      cases pieces with
      | nil => by_cases hsep : c = sep <;> simp_all [splitBy]
      | cons next later => by_cases hsep : c = sep <;> simp_all [splitBy]

/-- A text that does not end in a line feed has one line more than line feeds. -/
theorem length_lines {s : List Char} (hsome : s ≠ []) (hlast : s.getLast? ≠ some '\n') :
    (lines s).length = s.count '\n' + 1 := by
  rw [lines, linesOfPieces_eq_carried, length_carried, if_neg (getLast?_splitBy hsome hlast),
    length_splitBy, Nat.sub_zero]

theorem join_cons_cons (text next : List Char) (later : List (List Char)) :
    join (text :: next :: later) = text ++ '\n' :: join (next :: later) := by
  simp [join, joinWith]

/-- Joining brings in a line feed between neighbours, and no other one. -/
theorem count_join {texts : List (List Char)} (hsome : texts ≠ []) :
    (join texts).count '\n' + 1 = texts.length + (texts.map (·.count '\n')).sum := by
  induction texts with
  | nil => exact absurd rfl hsome
  | cons text later ih =>
      cases later with
      | nil => simp [join, joinWith, Nat.add_comm]
      | cons next rest =>
          have hrest := ih (List.cons_ne_nil next rest)
          rw [join_cons_cons, List.count_append, List.count_cons_self, List.length_cons,
            List.map_cons, List.sum_cons]
          omega

/-- Joined texts end as the last one does, if that is not empty. -/
theorem getLast?_join {init : List (List Char)} {last : List Char} (hsome : last ≠ []) :
    (join (init ++ [last])).getLast? = last.getLast? := by
  induction init with
  | nil => rfl
  | cons text later ih =>
      obtain ⟨next, rest, hlater⟩ := List.exists_cons_of_ne_nil
        (List.append_ne_nil_of_right_ne_nil later (List.cons_ne_nil last []))
      rw [hlater] at ih
      have hfilled : join (next :: rest) ≠ [] := by
        intro hempty
        rw [hempty, eq_comm, List.getLast?_nil, List.getLast?_eq_none_iff] at ih
        exact hsome ih
      rw [List.cons_append, hlater, join_cons_cons, List.getLast?_append_of_ne_nil,
        List.getLast?_cons_of_ne_nil hfilled, ih]
      exact List.cons_ne_nil _ _

/-- Texts that are joined have a line each, and one for each line feed in them, if they are not
empty and do not end in line feeds. -/
theorem length_lines_join {texts : List (List Char)} (hsome : texts ≠ [])
    (hends : ∀ text ∈ texts, text ≠ [] ∧ text.getLast? ≠ some '\n') :
    (lines (join texts)).length = texts.length + (texts.map (·.count '\n')).sum := by
  obtain ⟨init, last, rfl⟩ := (List.eq_nil_or_concat' texts).resolve_left hsome
  obtain ⟨hfilled, hlast⟩ := hends last (by simp)
  have hjoin : join (init ++ [last]) ≠ [] := by
    intro hempty
    have hnone : (join (init ++ [last])).getLast? = last.getLast? := getLast?_join hfilled
    rw [hempty, eq_comm, List.getLast?_nil, List.getLast?_eq_none_iff] at hnone
    exact hfilled hnone
  rw [length_lines hjoin (by rwa [getLast?_join hfilled]), count_join hsome]

end Conch.Text
