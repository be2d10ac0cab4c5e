import Conch.Text.Blank

/-!
# Trimming

Blanks at an end of a text make no difference to what is left of it by trimming, and a
character that is not blank stops the trimming from its side.
-/

namespace Conch.Text

theorem dropWhile_append_cons {p : Char → Bool} {c : Char} (hc : p c = false) (s t : List Char) :
    (s ++ c :: t).dropWhile p = s.dropWhile p ++ c :: t := by
  rw [List.dropWhile_append]
  split
  · next hnil =>
      rw [List.isEmpty_iff.mp hnil, List.dropWhile_cons_of_neg (by simp [hc])]
      rfl
  · rfl

theorem trimStart_append_cons {c : Char} (hc : isBlank c = false) (s t : List Char) :
    trimStart (s ++ c :: t) = trimStart s ++ c :: t :=
  dropWhile_append_cons hc s t

theorem trimStart_of_blank {u : List Char} (hu : ∀ c ∈ u, isBlank c = true) :
    trimStart u = [] := by
  have hdrop : trimStart (u ++ []) = [] := List.dropWhile_append_of_pos hu
  rwa [List.append_nil] at hdrop

theorem trimStart_trimStart (s : List Char) : trimStart (trimStart s) = trimStart s := by
  induction s with
  | nil => rfl
  | cons c rest ih =>
      unfold trimStart at ih ⊢
      cases hc : isBlank c with
      | true => rw [List.dropWhile_cons_of_pos hc, ih]
      | false =>
          rw [List.dropWhile_cons_of_neg (by simp [hc]), List.dropWhile_cons_of_neg (by simp [hc])]

theorem trimEnd_append_blanks {u : List Char} (hu : ∀ c ∈ u, isBlank c = true) (s : List Char) :
    trimEnd (s ++ u) = trimEnd s := by
  unfold trimEnd
  rw [List.reverse_append, List.dropWhile_append_of_pos]
  intro c hc
  exact hu c (List.mem_reverse.mp hc)

theorem trimEnd_concat {c : Char} (hc : isBlank c = false) (s : List Char) :
    trimEnd (s ++ [c]) = s ++ [c] := by
  simp [trimEnd, hc]

/-- Only blanks are trimmed off the start of a text. -/
theorem exists_eq_append_trimStart (s : List Char) :
    ∃ u, (∀ c ∈ u, isBlank c = true) ∧ s = u ++ trimStart s :=
  ⟨s.takeWhile isBlank, fun _ hc => List.all_eq_true.mp List.all_takeWhile _ hc,
    List.takeWhile_append_dropWhile.symm⟩

/-- Only blanks are trimmed off the end of a text. -/
theorem exists_eq_trimEnd_append (s : List Char) :
    ∃ v, (∀ c ∈ v, isBlank c = true) ∧ s = trimEnd s ++ v := by
  obtain ⟨u, hu, hs⟩ := exists_eq_append_trimStart s.reverse
  refine ⟨u.reverse, fun c hc => hu c (List.mem_reverse.mp hc), ?_⟩
  have hreverse := congrArg List.reverse hs
  rwa [List.reverse_reverse, List.reverse_append] at hreverse

theorem trimEnd_append_cons {c : Char} (hc : isBlank c = false) (s t : List Char) :
    trimEnd (s ++ c :: t) = s ++ c :: trimEnd t := by
  have hreverse : (s ++ c :: t).reverse = t.reverse ++ c :: s.reverse := by simp
  have hstart := trimStart_append_cons hc t.reverse s.reverse
  unfold trimStart at hstart
  simp [trimEnd, hreverse, hstart]

/-- What stands before a character that is no blank loses the blanks at its start, and what
stands behind it those at its end. -/
theorem trim_append_cons {c : Char} (hc : isBlank c = false) (s t : List Char) :
    trim (s ++ c :: t) = trimStart s ++ c :: trimEnd t := by
  rw [trim, trimStart_append_cons hc, trimEnd_append_cons hc]

/-- The last character that is no blank stays where it is. -/
theorem trim_append_cons_blanks {c : Char} (hc : isBlank c = false) (s : List Char) {v : List Char}
    (hv : ∀ d ∈ v, isBlank d = true) : trim (s ++ c :: v) = trimStart s ++ [c] := by
  have hnone : trimEnd v = [] := trimEnd_append_blanks hv []
  rw [trim_append_cons hc, hnone]

/-- A text is blank, or has a first character that is not. -/
theorem exists_first (s : List Char) :
    (∀ c ∈ s, isBlank c = true) ∨
      ∃ u c rest, s = u ++ c :: rest ∧ (∀ d ∈ u, isBlank d = true) ∧ isBlank c = false := by
  induction s with
  | nil => exact .inl fun _ hc => absurd hc List.not_mem_nil
  | cons first later ih =>
      cases hfirst : isBlank first with
      | false => exact .inr ⟨[], first, later, rfl, fun _ hd => absurd hd List.not_mem_nil, hfirst⟩
      | true =>
          rcases ih with hblank | ⟨u, c, rest, rfl, hu, hc⟩
          · exact .inl (List.forall_mem_cons.mpr ⟨hfirst, hblank⟩)
          · exact .inr ⟨first :: u, c, rest, rfl, List.forall_mem_cons.mpr ⟨hfirst, hu⟩, hc⟩

/-- Blanks behind a text make no difference. -/
theorem trim_append_blanks {u : List Char} (hu : ∀ c ∈ u, isBlank c = true) (s : List Char) :
    trim (s ++ u) = trim s := by
  have hnil := trimStart_of_blank hu
  have hstart : trimStart (s ++ u) = if (trimStart s).isEmpty then [] else trimStart s ++ u := by
    unfold trimStart at hnil ⊢
    rw [List.dropWhile_append, hnil]
  unfold trim
  rw [hstart]
  split
  · next hempty => rw [List.isEmpty_iff.mp hempty]
  · exact trimEnd_append_blanks hu _

/-- A text is what is left of it by trimming, with blanks before and behind; those behind are the
ones that trimming its end takes off. -/
theorem exists_eq_trim (s : List Char) :
    ∃ u v, (∀ c ∈ u, isBlank c = true) ∧ (∀ c ∈ v, isBlank c = true) ∧
      trimEnd s = u ++ trim s ∧ s = trimEnd s ++ v := by
  obtain ⟨v, hv, hend⟩ := exists_eq_trimEnd_append s
  rcases exists_first s with hblank | ⟨u, c, rest, rfl, hu, hc⟩
  · have hnone : trim s = [] := trim_append_blanks hblank []
    have hempty : trimEnd s = [] := trimEnd_append_blanks hblank []
    exact ⟨[], v, by simp, hv, by rw [hempty, hnone]; rfl, hend⟩
  · refine ⟨u, v, hu, hv, ?_, hend⟩
    rw [trim_append_cons hc, trimStart_of_blank hu, trimEnd_append_cons hc, List.nil_append]

theorem trimStart_trim (s : List Char) : trimStart (trim s) = trim s := by
  rcases exists_first s with hblank | ⟨u, c, rest, rfl, hu, hc⟩
  · have hnone : trim s = [] := trim_append_blanks hblank []
    rw [hnone]
    rfl
  · rw [trim_append_cons hc, trimStart_of_blank hu, List.nil_append, trimStart,
      List.dropWhile_cons_of_neg (by simp [hc])]

end Conch.Text
