import Conch.Proofs.Line.Grammar

/-!
# Cutting a line into parts

Where no quote is open, a line can be cut before a blank and before a pipe symbol: its tokens
are those of the two parts.  The other operators do not have this property, since one behind
another can be a longer one.  So of blanks outside quotes it only matters whether there are any,
and at the ends of a line and around a pipe symbol not even that.
-/

namespace Conch.Line

/-- All quotes of a text are closed at its end. -/
def IsClosed (s : List Char) : Prop :=
  Region.bare.through s = .bare

instance (s : List Char) : Decidable (IsClosed s) :=
  inferInstanceAs (Decidable (_ = _))

/-- A text of blanks. -/
def IsGap (s : List Char) : Prop :=
  ∀ c ∈ s, Text.isBlank c = true

instance (s : List Char) : Decidable (IsGap s) :=
  List.decidableBAll (fun c => Text.isBlank c = true) s

theorem isGap_nil : IsGap [] := by
  simp [IsGap]

/-- A text before which a line can be cut: it is empty, or begins with a blank or a pipe
symbol. -/
def StartsApart (t : List Char) : Prop :=
  ∀ c ∈ t.head?, Text.isBlank c = true ∨ c = '|'

section Cut

variable {a t : List Char}

/-- What starts apart is no part of a word before it. -/
theorem StartsApart.matter_ne (h : StartsApart t) :
    ∀ glyph ∈ (glyphs .bare t).head?, glyph.matter ≠ .word := by
  cases t with
  | nil => simp
  | cons c rest =>
      rintro glyph ⟨⟩
      rcases h c rfl with hblank | rfl
      · rcases bare_role_cases c with ⟨hc, -⟩ | ⟨-, hrole⟩ | ⟨-, hrole⟩ | ⟨hc, -⟩
        · rcases hc with rfl | rfl <;> cases hblank
        · simp [Glyph.matter, hrole]
        · simp [Glyph.matter, hrole]
        · rw [hc.blank] at hblank
          cases hblank
      · decide

/-- Nor does it double an operator before it. -/
theorem StartsApart.not_doubling (h : StartsApart t) : ∀ c ∈ t.head?, c ≠ '<' ∧ c ≠ '>' := by
  intro c hc
  rcases h c hc with hblank | rfl
  · constructor <;> rintro rfl <;> cases hblank
  · decide

/-- Operators open no quotes. -/
theorem through_operator {operator : Token} (h : operator ∈ operators) (rest : List Char) :
    Region.bare.through (operator.text.toList ++ rest) = Region.bare.through rest := by
  have hstays : ∀ operator ∈ operators, Region.bare.through operator.text.toList = .bare := by
    decide
  rw [through_append, hstays operator h]

/-- What the lexer makes of the first part of a line does not depend on what stands behind it, as
long as that does not double an operator: the rest of the line is read with the word that is
pending behind the first part.  In quotes there always is one.  The induction is on the length of
the first part, because an operator can take two characters. -/
theorem exists_scan_append (region : Region) (word : Option (List Char))
    (hword : region ≠ .bare → word ≠ none) (a : List Char) :
    ∃ tokens pending, (region.through a ≠ .bare → pending ≠ none) ∧
      ∀ t, (∀ c ∈ t.head?, c ≠ '<' ∧ c ≠ '>') →
        scan region word (a ++ t) = tokens ++ scan (region.through a) pending t := by
  induction hlength : a.length using Nat.strong_induction_on generalizing a region word with
  | _ length ih =>
      cases a with
      | nil => exact ⟨[], word, hword, fun t _ => rfl⟩
      | cons c rest =>
          have hshorter : rest.length < length := by simp [← hlength]
          have hnone : Region.bare ≠ .bare → (none : Option (List Char)) ≠ none :=
            fun hbare => absurd rfl hbare
          -- a character of a word makes one pending
          by_cases hmatter : (⟨c, region.role c⟩ : Glyph).matter = .word
          · have hcarry : carry word ⟨c, region.role c⟩ ≠ none := by
              unfold carry
              split <;> exact Option.some_ne_none _
            obtain ⟨tokens, pending, hpending, hscan⟩ :=
              ih rest.length hshorter _ _ (fun _ => hcarry) rest rfl
            refine ⟨tokens, pending, hpending, fun t ht => ?_⟩
            rw [List.cons_append, scan_carry hmatter, hscan t ht, through_cons]
          -- only outside of quotes is a word ended, by a blank or an operator
          obtain ⟨rfl, hafter⟩ := bare_of_matter hmatter
          rcases bare_role_cases c with ⟨-, hrole⟩ | ⟨hblank, -⟩ | ⟨hc, -⟩ | ⟨-, hrole⟩
          · simp [Glyph.matter, hrole] at hmatter
          · obtain ⟨tokens, pending, hpending, hscan⟩ := ih rest.length hshorter _ _ hnone rest rfl
            rw [through_cons, hafter]
            refine ⟨flush word ++ tokens, pending, hpending, fun t ht => ?_⟩
            rw [List.cons_append, scan_blank hblank, hscan t ht, List.append_assoc]
          · obtain ⟨operator, hmem, behind, hline, hlongest⟩ := exists_isLongest hc rest
            -- nothing behind the first part doubles it, so it stays the longest one
            have hbite : behind.length < length := by
              have hpositive : ∀ operator ∈ operators, 0 < operator.text.toList.length := by decide
              have hsame := congrArg List.length hline
              have hone := hpositive operator hmem
              rw [List.length_append, hlength] at hsame
              omega
            obtain ⟨tokens, pending, hpending, hscan⟩ := ih behind.length hbite _ _ hnone behind rfl
            rw [hline, through_operator hmem]
            refine ⟨flush word ++ operator :: tokens, pending, hpending, fun t ht => ?_⟩
            rw [List.append_assoc, scan_operator hmem (hlongest.append hmem ht), hscan t ht,
              List.append_assoc, List.cons_append]
          · simp [Glyph.matter, hrole] at hmatter

/-- The lexer begins anew before what starts apart. -/
theorem lex_append_of_startsApart (ha : IsClosed a) (ht : StartsApart t) :
    lex (a ++ t) = lex a ++ lex t := by
  obtain ⟨tokens, pending, -, hscan⟩ :=
    exists_scan_append .bare none (fun hbare => absurd rfl hbare) a
  have hwhole := hscan t ht.not_doubling
  have halone := hscan [] (by simp)
  rw [ha, List.append_nil, scan] at halone
  rw [ha, scan_flush ht.matter_ne] at hwhole
  rw [lex, lex, hwhole, halone, List.append_assoc]
  rfl

theorem lex_blank_cons {c : Char} (h : Text.isBlank c = true) (b : List Char) :
    lex (c :: b) = lex b :=
  scan_blank h none b

theorem lex_pipe_cons (b : List Char) : lex ('|' :: b) = .pipe :: lex b := by
  have hpipe : Token.pipe ∈ operators := by decide
  exact scan_operator hpipe ((isLongest_iff hpipe b).mpr (by simp)) none

variable {gap : List Char}

theorem lex_gap_append (h : IsGap gap) (b : List Char) : lex (gap ++ b) = lex b := by
  induction gap with
  | nil => rfl
  | cons c rest ih =>
      obtain ⟨hc, hrest⟩ := List.forall_mem_cons.mp h
      rw [List.cons_append, lex_blank_cons hc, ih hrest]

theorem IsGap.startsApart (h : IsGap gap) : StartsApart gap :=
  fun c hc => .inl (h c (List.mem_of_mem_head? hc))

/-- What stands behind a gap that is not empty starts apart together with it. -/
theorem IsGap.startsApart_append (h : IsGap gap) (hsome : gap ≠ []) (b : List Char) :
    StartsApart (gap ++ b) := by
  intro c hc
  rw [List.head?_append_of_ne_nil _ hsome] at hc
  exact h.startsApart c hc

theorem lex_append_gap (ha : IsClosed a) (h : IsGap gap) : lex (a ++ gap) = lex a := by
  have hnone : lex gap = [] := by
    rw [← List.append_nil gap, lex_gap_append h]
    rfl
  rw [lex_append_of_startsApart ha h.startsApart, hnone, List.append_nil]

/-- Blanks before a pipe symbol make no difference. -/
theorem lex_append_gap_pipe (ha : IsClosed a) (h : IsGap gap) (b : List Char) :
    lex (a ++ (gap ++ '|' :: b)) = lex a ++ .pipe :: lex b := by
  have hapart : StartsApart (gap ++ '|' :: b) := by
    cases gap with
    | nil => exact fun c hc => .inr (Option.some.inj hc).symm
    | cons first rest => exact h.startsApart_append (List.cons_ne_nil _ _) _
  rw [lex_append_of_startsApart ha hapart, lex_gap_append h, lex_pipe_cons]

end Cut

/-- **The lexer splits at blanks and pipe symbols.**  Behind a text whose quotes are closed, a
blank and a pipe symbol separate the tokens before from the tokens behind.  So a gap of blanks
there can be any other, and can be dropped or put in at both ends of such a text and on both
sides of a pipe symbol. -/
theorem lex_splits {a : List Char} (ha : IsClosed a) :
    (∀ c b, Text.isBlank c = true → lex (a ++ c :: b) = lex a ++ lex b) ∧
      (∀ b, lex (a ++ '|' :: b) = lex a ++ [.pipe] ++ lex b) ∧
      (∀ gap other b, IsGap gap → IsGap other → gap ≠ [] → other ≠ [] →
        lex (a ++ gap ++ b) = lex (a ++ other ++ b)) ∧
      (∀ gap other, IsGap gap → IsGap other → lex (gap ++ a ++ other) = lex a) ∧
      ∀ gap other b, IsGap gap → IsGap other →
        lex (a ++ gap ++ '|' :: (other ++ b)) = lex (a ++ '|' :: b) := by
  have hgap : ∀ gap b, IsGap gap → gap ≠ [] → lex (a ++ gap ++ b) = lex a ++ lex b := by
    intro gap b h hsome
    rw [List.append_assoc, lex_append_of_startsApart ha (h.startsApart_append hsome b),
      lex_gap_append h]
  have hpipe : ∀ b, lex (a ++ '|' :: b) = lex a ++ .pipe :: lex b :=
    lex_append_gap_pipe ha isGap_nil
  refine ⟨fun c b hc => ?_, fun b => ?_, ?_, ?_, ?_⟩
  · have hone : IsGap [c] := by simpa [IsGap] using hc
    simpa using hgap [c] b hone (List.cons_ne_nil _ _)
  · simpa using hpipe b
  · intro gap other b h hother hsome hsome'
    rw [hgap gap b h hsome, hgap other b hother hsome']
  · intro gap other h hother
    rw [List.append_assoc, lex_gap_append h, lex_append_gap ha hother]
  · intro gap other b h hother
    rw [List.append_assoc, lex_append_gap_pipe ha h, lex_gap_append hother, hpipe]

/-- A text that ends in an operator is cut from one that begins with the same. -/
theorem lex_splits_doubled :
    let a := "f 'a|b'>".toList
    let b := "> c".toList
    IsClosed a ∧ IsGap ['\t', ' '] ∧ IsGap [' '] ∧
      lex (a ++ ' ' :: b) = [.word "f", .word "a|b", .output, .output, .word "c"] ∧
      lex (a ++ '|' :: b) = [.word "f", .word "a|b", .output, .pipe, .output, .word "c"] ∧
      lex (a ++ ['\t', ' '] ++ '|' :: ([' '] ++ b)) = lex (a ++ '|' :: b) := by
  intro a b
  have hclosed : IsClosed a := by decide
  have hgap : IsGap ['\t', ' '] := by decide
  have hone : IsGap [' '] := by decide
  obtain ⟨hblank, hpipe, -, -, haround⟩ := lex_splits hclosed
  exact ⟨hclosed, hgap, hone, (hblank ' ' b rfl).trans (by decide), (hpipe b).trans (by decide),
    haround _ _ b hgap hone⟩

/-- Behind a quote that is not closed, neither a blank nor a pipe symbol separates. -/
example : ¬ IsClosed "a 'b".toList ∧ lex "a 'b |c".toList = [.word "a", .word "b |c"] := by
  decide

end Conch.Line
