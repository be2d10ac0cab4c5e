import Conch.Text.Pieces
import Mathlib.Data.List.Basic
import Mathlib.Data.List.Infix

/-!
# Pieces and what they are put together to

Looking for a text at the start of another one finds it if it is a prefix, and looking for it at
every place finds it if it is an infix.  Pieces that are put together again with their separator
give back what has been cut, and pieces without a separator in them are what is cut out again.
-/

namespace Conch.Text

/-! ## Texts within texts -/

theorem isSome_afterStart?_iff (part s : List Char) :
    (afterStart? part s).isSome = true ↔ part <+: s := by
  induction part generalizing s with
  | nil => simp [afterStart?]
  | cons p ps ih =>
      cases s with
      | nil => simp [afterStart?]
      | cons c rest =>
          rw [List.cons_prefix_cons, afterStart?]
          split
          · next heq => simp [heq, ih]
          · next hne => simp [hne]

theorem occursIn_iff (part s : List Char) : occursIn part s = true ↔ part <:+: s := by
  induction s with
  | nil => simp [occursIn]
  | cons c rest ih =>
      rw [occursIn, Bool.or_eq_true, isSome_afterStart?_iff, ih, List.infix_cons_iff]

/-! ## Cutting -/

section Cutting

variable {α : Type} {sep : α → Bool}

theorem splitBy_eq_splitOnP (sep : α → Bool) (s : List α) : splitBy sep s = s.splitOnP sep := by
  induction s with
  | nil => rfl
  | cons c rest ih =>
      rw [List.splitOnP_cons_eq_if_modifyHead, ← ih, splitBy]
      cases hrest : splitBy sep rest with
      | nil => exact absurd (ih.symm.trans hrest) (List.splitOnP_ne_nil sep rest)
      | cons piece pieces => rfl

theorem splitBy_ne_nil (sep : α → Bool) (s : List α) : splitBy sep s ≠ [] := by
  rw [splitBy_eq_splitOnP]
  exact List.splitOnP_ne_nil sep s

theorem splitBy_cons_of_sep {c : α} (h : sep c = true) (rest : List α) :
    splitBy sep (c :: rest) = [] :: splitBy sep rest := by
  rw [splitBy, if_pos h]

/-- A separator parts the pieces before it from those behind it. -/
theorem splitBy_append_cons {c : α} (hsep : sep c = true) (s t : List α) :
    splitBy sep (s ++ c :: t) = splitBy sep s ++ splitBy sep t := by
  simp only [splitBy_eq_splitOnP, List.splitOnP_append_cons s t hsep]

theorem splitBy_of_none {s : List α} (h : ∀ c ∈ s, sep c = false) : splitBy sep s = [s] := by
  rw [splitBy_eq_splitOnP, List.splitOnP_eq_singleton h]

/-- What holds no separator is the start of the first piece. -/
theorem splitBy_append_of_none {front s piece : List α} {pieces : List (List α)}
    (hfront : ∀ c ∈ front, sep c = false) (h : splitBy sep s = piece :: pieces) :
    splitBy sep (front ++ s) = (front ++ piece) :: pieces := by
  induction front with
  | nil => exact h
  | cons c rest ih =>
      rw [List.forall_mem_cons] at hfront
      rw [List.cons_append, splitBy, hfront.1, if_neg Bool.false_ne_true, ih hfront.2]
      rfl

theorem of_mem_splitBy {s piece : List α} (h : piece ∈ splitBy sep s) :
    ∀ c ∈ piece, sep c = false := by
  induction s generalizing piece with
  | nil => simp_all [splitBy]
  | cons d rest ih =>
      by_cases hsep : sep d = true
      · simp only [splitBy, hsep, if_true, List.mem_cons] at h
        rcases h with rfl | h
        · simp
        · exact ih h
      · obtain ⟨first, later, hrest⟩ := List.exists_cons_of_ne_nil (splitBy_ne_nil sep rest)
        simp only [hrest, List.forall_mem_cons] at ih
        have hpieces : splitBy sep (d :: rest) = (d :: first) :: later := by
          simp [splitBy, hsep, hrest]
        rw [hpieces, List.mem_cons] at h
        rcases h with rfl | h
        · rw [List.forall_mem_cons]
          exact ⟨by simpa using hsep, ih.1⟩
        · exact ih.2 piece h

/-- Cutting at more places cuts the pieces further. -/
theorem splitBy_eq_flatMap {finer : α → Bool} (h : ∀ c, sep c = true → finer c = true)
    (s : List α) : splitBy finer s = (splitBy sep s).flatMap (splitBy finer) := by
  induction s with
  | nil => rfl
  | cons c rest ih =>
      obtain ⟨piece, pieces, hrest⟩ := List.exists_cons_of_ne_nil (splitBy_ne_nil sep rest)
      obtain ⟨first, later, hpiece⟩ := List.exists_cons_of_ne_nil (splitBy_ne_nil finer piece)
      rw [hrest, List.flatMap_cons, hpiece] at ih
      by_cases hsep : sep c = true
      · simp [splitBy, hsep, h c hsep, hrest, ih, hpiece]
      · by_cases hfiner : finer c = true
        · simp [splitBy, hsep, hfiner, hrest, ih, hpiece]
        · simp [splitBy, hsep, hfiner, hrest, ih, hpiece]

end Cutting

/-! ## Putting together -/

section Joining

variable {α : Type} [DecidableEq α]

theorem splitBy_eq_splitOn (sep : α) (s : List α) : splitBy (· = sep) s = s.splitOn sep :=
  splitBy_eq_splitOnP (· = sep) s

theorem intercalate_splitBy (sep : α) (s : List α) :
    [sep].intercalate (splitBy (· = sep) s) = s := by
  rw [splitBy_eq_splitOn, List.intercalate_splitOn]

theorem splitBy_intercalate {sep : α} {pieces : List (List α)} (hsome : pieces ≠ [])
    (hwhole : ∀ piece ∈ pieces, sep ∉ piece) :
    splitBy (· = sep) ([sep].intercalate pieces) = pieces := by
  rw [splitBy_eq_splitOn, List.splitOn_intercalate sep hwhole hsome]

omit [DecidableEq α] in
theorem intercalate_concat {sep : List α} {pieces : List (List α)} (hsome : pieces ≠ [])
    (last : List α) :
    sep.intercalate (pieces ++ [last]) = sep.intercalate pieces ++ sep ++ last := by
  induction pieces with
  | nil => exact absurd rfl hsome
  | cons first rest ih =>
      cases rest with
      | nil => simp [List.intercalate_cons_cons]
      | cons second others =>
          have hrest := ih (List.cons_ne_nil second others)
          rw [List.cons_append, List.cons_append, List.intercalate_cons_cons,
            List.intercalate_cons_cons, ← List.cons_append, hrest]
          simp only [List.append_assoc]

omit [DecidableEq α] in
/-- Fewer pieces give less, in the same order. -/
theorem intercalate_sublist {sep : List α} {kept all : List (List α)}
    (h : kept.Sublist all) : (sep.intercalate kept).Sublist (sep.intercalate all) := by
  induction h with
  | slnil => exact .refl _
  | @cons taken rest first _ ih =>
      refine ih.trans ?_
      cases rest with
      | nil => simp
      | cons next later =>
          rw [List.intercalate_cons_cons]
          exact List.sublist_append_right _ _
  | @cons_cons taken rest first htaken ih =>
      cases taken with
      | nil =>
          cases rest with
          | nil => exact .refl _
          | cons next later =>
              rw [List.intercalate_cons_cons, List.append_assoc, List.intercalate_singleton]
              exact List.sublist_append_left _ _
      | cons held others =>
          cases rest with
          | nil => cases htaken
          | cons next later =>
              rw [List.intercalate_cons_cons, List.intercalate_cons_cons]
              exact ih.append_left _

end Joining

end Conch.Text
