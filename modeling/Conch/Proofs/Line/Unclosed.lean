import Conch.Proofs.Line.Piping

/-!
# Lines with a quote left open

The blanks around a line and the `&` at its end are taken off before the line is cut into tokens,
so no quote protects them.  While all quotes of the line are closed this makes no difference: the
`&` stands outside of them, and so do the blanks, which are no part of any token there.  A quote
that is left open runs to the end of what is left of the line: the `&` behind it still asks for
the background, and its word is without the blanks at the end.
-/

namespace Conch.Line

/-- The tokens of a line that is trimmed before it is cut.  If its quotes are closed they are the
tokens of the line.  If one is left open, the last of these is a word that ends with the blanks at
the end of the line, and it is without them. -/
inductive ReadsTrimmed (line : List Char) : List Token → Prop
  | closed (hclosed : IsClosed line) : ReadsTrimmed line (lex line)
  | unclosed {earlier : List Token} {text : String} {gap : List Char} (hopen : ¬ IsClosed line)
      (hgap : IsGap gap) (hend : line = Text.trimEnd line ++ gap)
      (hlex : lex line = earlier ++ [.word (text ++ String.ofList gap)]) :
      ReadsTrimmed line (earlier ++ [.word text])

/-! ## The end of a line -/

section End

variable {gap : List Char}

/-- In quotes a gap belongs to the pending word. -/
theorem scan_gap_of_quoted {region : Region} (hquoted : region ≠ .bare) (hgap : IsGap gap)
    (word : List Char) :
    scan region (some word) gap = [.word (String.ofList (word.reverse ++ gap))] := by
  induction gap generalizing word with
  | nil => rw [scan, flush, List.append_nil]
  | cons c rest ih =>
      obtain ⟨hc, hrest⟩ := List.forall_mem_cons.mp hgap
      have hmark := ne_mark_of_isBlank hc
      have hnext := ih hrest (c :: word)
      rw [List.reverse_cons, List.append_assoc] at hnext
      cases region with
      | bare => exact absurd rfl hquoted
      | single | double => simpa [scan, hmark, extend] using hnext

theorem readsTrimmed_trim (line : List Char) : ReadsTrimmed line (lex (Text.trim line)) := by
  by_cases hclosed : IsClosed line
  · rw [lex_trim hclosed]
    exact .closed hclosed
  obtain ⟨u, gap, hu, hgap, hstart, hend⟩ := Text.exists_eq_trim line
  replace hgap : IsGap gap := hgap
  have hwhole : line = u ++ (Text.trim line ++ gap) := by
    rw [← List.append_assoc, ← hstart, ← hend]
  have hopen : Region.bare.through (Text.trim line) ≠ .bare := by
    intro hbare
    refine hclosed ?_
    rw [IsClosed, hwhole, through_append, through_gap hu, through_append, through_gap hgap, hbare]
  obtain ⟨tokens, pending, hpending, hscan⟩ :=
    exists_scan_append .bare none (fun hbare => absurd rfl hbare) (Text.trim line)
  obtain ⟨word, rfl⟩ := Option.ne_none_iff_exists'.mp (hpending hopen)
  have halone : lex (Text.trim line) = tokens ++ [.word (String.ofList word.reverse)] := by
    simpa [lex, scan, flush] using hscan [] (by simp)
  rw [halone]
  refine .unclosed hclosed hgap hend ?_
  calc lex line
      = lex (Text.trim line ++ gap) := by conv_lhs => rw [hwhole, lex_gap_append hu]
    _ = tokens ++ scan (Region.bare.through (Text.trim line)) (some word) gap :=
        hscan gap hgap.startsApart.not_doubling
    _ = tokens ++ [.word (String.ofList word.reverse ++ String.ofList gap)] := by
        rw [scan_gap_of_quoted hopen hgap, String.ofList_append]

theorem getLast?_trim_eq_ampersand_iff (s : List Char) :
    (Text.trim s).getLast? = some '&' ↔
      ∃ before behind, IsGap behind ∧ s = before ++ '&' :: behind := by
  constructor
  · intro hlast
    obtain ⟨u, v, hu, hv, hstart, hend⟩ := Text.exists_eq_trim s
    obtain ⟨before, hbefore⟩ := List.getLast?_eq_some_iff.mp hlast
    refine ⟨u ++ before, v, hv, ?_⟩
    rw [hend, hstart, hbefore]
    simp
  · rintro ⟨before, behind, hgap, rfl⟩
    rw [Text.trim_append_cons_blanks (by decide) before hgap, List.getLast?_concat]

/-- The `&` that ends a line is outside of quotes exactly if the quotes of the line are closed. -/
theorem isClosed_ampersand_iff {before behind : List Char} (hgap : IsGap behind) :
    IsClosed (before ++ '&' :: behind) ↔ IsClosed before := by
  have hafter : ∀ region : Region, region.after '&' = region := by
    intro region
    cases region <;> rfl
  rw [IsClosed, IsClosed, through_append, through_cons, hafter, through_gap hgap]

end End

/-! ## Reading -/

/-- **What no quote protects.**  A line asks for the background exactly if its last character that
is no blank is `&`, whether or not that stands in a quote that is left open; it stands outside of
quotes exactly if the quotes of the line are closed.  The tokens that make up the stages are those
of the line, without the `&` if it has asked for the background, when it is trimmed before it is
cut: all of them if the quotes are closed, and if one is left open, the last word is without the
blanks at the end. -/
theorem read?_trims (source : String) :
    ∃ tokens background,
      read? source =
        (if .heredoc ∈ tokens then none
        else some ⟨stagesOfGroups (tokenGroups tokens), background, source⟩) ∧
      (background = true ↔
        ∃ before behind, IsGap behind ∧ source.toList = before ++ '&' :: behind) ∧
      (background = false → ReadsTrimmed source.toList tokens) ∧
      ∀ before behind, IsGap behind → source.toList = before ++ '&' :: behind →
        ReadsTrimmed (before ++ behind) tokens ∧ (IsClosed before ↔ IsClosed source.toList) := by
  refine ⟨_, _, read?_eq source, ?_⟩
  rw [← getLast?_trim_eq_ampersand_iff]
  by_cases hlast : (Text.trim source.toList).getLast? = some '&'
  · have hpart : ∀ before behind, IsGap behind → source.toList = before ++ '&' :: behind →
        commandPart source.toList = (Text.trim (before ++ behind), true) := by
      intro before behind hgap hsource
      have hmarked := commandPart_background (s := before) (u := []) (fun _ hc => by cases hc) hgap
      rw [List.append_nil, ← hsource] at hmarked
      rw [hmarked, Text.trim_append_blanks hgap]
    obtain ⟨before, behind, hgap, hsource⟩ := (getLast?_trim_eq_ampersand_iff _).mp hlast
    have hmarked : (commandPart source.toList).2 = true := by rw [hpart before behind hgap hsource]
    refine ⟨by simp [hmarked, hlast], by simp [hmarked], fun before behind hgap hsource => ?_⟩
    rw [hpart before behind hgap hsource, hsource, isClosed_ampersand_iff hgap]
    exact ⟨readsTrimmed_trim _, Iff.rfl⟩
  · rw [commandPart_of_plain hlast]
    refine ⟨by simp [hlast], fun _ => readsTrimmed_trim _, fun before behind hgap hsource => ?_⟩
    exact absurd ((getLast?_trim_eq_ampersand_iff _).mpr ⟨before, behind, hgap, hsource⟩) hlast

/-- An open quote protects neither the `&` behind it nor the blanks before that. -/
theorem read?_trims_open :
    let source := "sort 'a\u3000 & "
    IsGap " ".toList ∧ source.toList = "sort 'a\u3000 ".toList ++ '&' :: " ".toList ∧
      ¬ IsClosed source.toList ∧
      (∃ tokens background, ReadsTrimmed ("sort 'a\u3000 ".toList ++ " ".toList) tokens ∧
        read? source =
          (if .heredoc ∈ tokens then none
          else some ⟨stagesOfGroups (tokenGroups tokens), background, source⟩)) ∧
      read? source = some ⟨[⟨"sort", ["a"], .inherit, .inherit⟩], true, source⟩ := by
  intro source
  have hgap : IsGap " ".toList := by decide
  have hsource : source.toList = "sort 'a\u3000 ".toList ++ '&' :: " ".toList := by decide
  obtain ⟨tokens, background, hread, -, -, hmarked⟩ := read?_trims source
  exact ⟨hgap, hsource, by decide,
    ⟨tokens, background, (hmarked _ _ hgap hsource).1, hread⟩, by decide⟩

/-- A line is not always read with its quotes in view: it can ask for the background by a `&` that
stands in a quote, and its stages need not be those of its own tokens. -/
theorem read?_overlooks_quotes :
    ¬ (∀ source line, read? source = some line →
      (line.background = true ↔ ∃ before behind, IsGap behind ∧ IsClosed before ∧
        source.toList = before ++ '&' :: behind)) ∧
    ¬ (∀ source line, read? source = some line → line.background = false →
      line.stages = stagesOfGroups (tokenGroups (lex source.toList))) := by
  constructor
  · intro h
    let source := "sort 'a &"
    have hread : read? source = some ⟨[⟨"sort", ["a"], .inherit, .inherit⟩], true, source⟩ := by
      decide
    obtain ⟨before, behind, hgap, hclosed, hsource⟩ := (h source _ hread).mp rfl
    have hwhole := (isClosed_ampersand_iff hgap).mpr hclosed
    rw [← hsource] at hwhole
    exact absurd hwhole (by decide)
  · intro h
    let source := "sort 'a "
    have hread : read? source = some ⟨[⟨"sort", ["a"], .inherit, .inherit⟩], false, source⟩ := by
      decide
    exact absurd (h source _ hread rfl) (by decide)

end Conch.Line
