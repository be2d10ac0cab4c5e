import Conch.Proofs.Line.Cutting
import Conch.Proofs.Line.Places

/-!
# Two lines with a pipe symbol between them

Trimming, the `&` at the end and the input of the first stage all concern a whole line.  Two lines
with a pipe symbol between them are still read as the one and then the other: the blanks of the
second that are no longer at the start of the line count for nothing behind a pipe symbol, the `&`
at its end is that of the whole line, and only the input of its first stage changes.
-/

namespace Conch.Line

/-! ## Trimming -/

section Trim

theorem ne_mark_of_isBlank {c : Char} (h : Text.isBlank c = true) : c ≠ '\'' ∧ c ≠ '"' := by
  constructor <;> rintro rfl <;> cases h

/-- Blanks neither open nor close quotes. -/
theorem through_gap {gap : List Char} (h : IsGap gap) (region : Region) :
    region.through gap = region := by
  induction gap with
  | nil => rfl
  | cons c rest ih =>
      obtain ⟨hc, hrest⟩ := List.forall_mem_cons.mp h
      have hafter : region.after c = region := by
        cases region <;> simp [Region.after, ne_mark_of_isBlank hc]
      rw [through_cons, hafter, ih hrest]

variable {a : List Char}

/-- Trimming does not change the tokens of a line whose quotes are closed. -/
theorem lex_trim (ha : IsClosed a) : lex (Text.trim a) = lex a := by
  obtain ⟨u, v, hu, hv, hstart, hend⟩ := Text.exists_eq_trim a
  have hwhole : a = u ++ (Text.trim a ++ v) := by rw [← List.append_assoc, ← hstart, ← hend]
  have hclosed : IsClosed (Text.trim a) := by
    rw [IsClosed, hwhole, through_append, through_gap hu, through_append, through_gap hv] at ha
    exact ha
  conv_rhs => rw [hwhole]
  rw [lex_gap_append hu, lex_append_gap hclosed hv]

/-- The blanks at the start of a line whose quotes are closed do not count before a pipe symbol,
nor do those behind the symbol. -/
theorem lex_trimStart_pipe (ha : IsClosed a) {gap : List Char} (h : IsGap gap) (b : List Char) :
    lex (Text.trimStart a ++ '|' :: (gap ++ b)) = lex a ++ .pipe :: lex b := by
  obtain ⟨u, hu, hstart⟩ := Text.exists_eq_append_trimStart a
  calc lex (Text.trimStart a ++ '|' :: (gap ++ b))
      = lex (u ++ (Text.trimStart a ++ '|' :: (gap ++ b))) := (lex_gap_append hu _).symm
    _ = lex (a ++ ([] ++ '|' :: (gap ++ b))) := by rw [← List.append_assoc, ← hstart]; rfl
    _ = lex a ++ .pipe :: lex b := by rw [lex_append_gap_pipe ha isGap_nil, lex_gap_append h]

end Trim

/-! ## The command of a line -/

theorem dropAmpersand?_append {s : List Char} (hsome : s ≠ []) (before : List Char) :
    dropAmpersand? (before ++ s) = (dropAmpersand? s).map (before ++ ·) := by
  rw [dropAmpersand?, dropAmpersand?, List.getLast?_append_of_ne_nil _ hsome,
    List.dropLast_append_of_ne_nil hsome]
  split <;> rfl

/-- What is left of a line without the `&` at its end begins as the line does. -/
theorem dropAmpersand?_cons {c : Char} {rest dropped : List Char}
    (h : dropAmpersand? (c :: rest) = some dropped) (hsome : dropped ≠ []) :
    ∃ later, dropped = c :: later := by
  cases rest with
  | nil =>
      simp only [dropAmpersand?, List.dropLast_singleton] at h
      split at h
      · exact absurd (Option.some.inj h).symm hsome
      · cases h
  | cons next rest =>
      simp only [dropAmpersand?, List.dropLast_cons_cons] at h
      split at h
      · exact ⟨_, (Option.some.inj h).symm⟩
      · cases h

/-- What is trimmed, taken off and trimmed again at the end of a line is the same if another line
and a pipe symbol stand before it. -/
theorem commandPart_pipe (a : List Char) {b : List Char} (hb : (commandPart b).1 ≠ []) :
    ∃ gap, IsGap gap ∧ commandPart (a ++ '|' :: b) =
      (Text.trimStart a ++ '|' :: (gap ++ (commandPart b).1), (commandPart b).2) := by
  rcases Text.exists_first b with hblank | ⟨gap, c, rest, rfl, hgap, hc⟩
  · have hnone : Text.trim b = [] := Text.trim_append_blanks hblank []
    simp [commandPart, hnone, dropAmpersand?] at hb
  refine ⟨gap, hgap, ?_⟩
  let before := Text.trimStart a ++ '|' :: gap
  have hbefore : Text.trimStart before = before := by
    rw [Text.trimStart_append_cons (by decide), Text.trimStart_trimStart]
  have hstart : ∀ rest, Text.trim (c :: rest) = c :: Text.trimEnd rest :=
    Text.trim_append_cons hc []
  have htrim : Text.trim (gap ++ c :: rest) = c :: Text.trimEnd rest := by
    rw [Text.trim_append_cons hc, Text.trimStart_of_blank hgap, List.nil_append]
  have hwhole : Text.trim (a ++ '|' :: (gap ++ c :: rest)) = before ++ c :: Text.trimEnd rest := by
    rw [← List.cons_append, ← List.append_assoc, Text.trim_append_cons hc,
      Text.trimStart_append_cons (by decide)]
  simp only [commandPart, htrim] at hb
  simp only [commandPart, htrim, hwhole, dropAmpersand?_append (List.cons_ne_nil _ _)]
  cases hdrop : dropAmpersand? (c :: Text.trimEnd rest) with
  | none => simp [before]
  | some dropped =>
      rw [hdrop] at hb
      have hsome : dropped ≠ [] := by
        rintro rfl
        exact hb rfl
      obtain ⟨later, rfl⟩ := dropAmpersand?_cons hdrop hsome
      have hagain : Text.trim (before ++ c :: later) = before ++ c :: Text.trimEnd later := by
        rw [Text.trim_append_cons hc, hbefore]
      simp only [Option.map_some, hagain, hstart]
      simp [before]

/-- The tokens of two lines with a pipe symbol between them. -/
theorem lex_commandPart_pipe {a b : List Char} (hclosed : IsClosed a)
    (hplain : (Text.trim a).getLast? ≠ some '&') (hb : lex (commandPart b).1 ≠ []) :
    lex (commandPart (a ++ '|' :: b)).1 = lex (commandPart a).1 ++ .pipe :: lex (commandPart b).1 ∧
      (commandPart (a ++ '|' :: b)).2 = (commandPart b).2 := by
  have hsome : (commandPart b).1 ≠ [] := by
    intro hnone
    exact hb (by rw [hnone]; rfl)
  obtain ⟨gap, hgap, hpart⟩ := commandPart_pipe a hsome
  rw [hpart, commandPart_of_plain hplain, lex_trim hclosed]
  exact ⟨lex_trimStart_pipe hclosed hgap _, rfl⟩

/-! ## Stages -/

/-- An input that is piped unless it comes from a file. -/
def Input.orPiped : Input → Input
  | .inherit => .piped
  | input => input

/-- Stages behind a pipe symbol: the first no longer inherits its input. -/
def afterPipe : List Stage → List Stage
  | [] => []
  | first :: later => { first with input := first.input.orPiped } :: later

theorem Stage.ofTokens_piped (group : List Token) :
    Stage.ofTokens .piped group =
      { Stage.ofTokens .inherit group with
        input := (Stage.ofTokens .inherit group).input.orPiped } := by
  simp only [Stage.ofTokens_eq_placed, Stage.placed, Stage.mk.injEq, true_and, and_true]
  generalize hinputs : (placedWords none group).filterMap PlacedWord.input? = inputs
  rcases List.eq_nil_or_concat inputs with rfl | ⟨others, last, rfl⟩
  · rfl
  · have hmem : last ∈ (placedWords none group).filterMap PlacedWord.input? := by simp [hinputs]
    obtain ⟨word, -, hfile⟩ := List.mem_filterMap.mp hmem
    have hkept : last.orPiped = last := by
      unfold PlacedWord.input? at hfile
      split at hfile
      · rw [← Option.some.inj hfile]
        rfl
      · cases hfile
    simp [hkept]

theorem stagesOfGroups_append {groups : List (List Token)} (hsome : groups ≠ [])
    (later : List (List Token)) :
    stagesOfGroups (groups ++ later) =
      stagesOfGroups groups ++ afterPipe (stagesOfGroups later) := by
  obtain ⟨first, rest, rfl⟩ := List.exists_cons_of_ne_nil hsome
  cases later with
  | nil => simp [stagesOfGroups, afterPipe]
  | cons next others => simp [stagesOfGroups, afterPipe, Stage.ofTokens_piped next]

theorem tokenGroups_pipe {first later : List Token} (hfirst : first ≠ []) (hlater : later ≠ []) :
    tokenGroups (first ++ .pipe :: later) = tokenGroups first ++ tokenGroups later := by
  simp [tokenGroups, hfirst, hlater, List.splitOn_append_cons_self]

theorem tokenGroups_ne_nil {tokens : List Token} (h : tokens ≠ []) : tokenGroups tokens ≠ [] := by
  simp [tokenGroups, h]

/-- A line with tokens has a stage. -/
theorem exists_stage_of_tokens {tokens : List Token} (h : tokens ≠ []) :
    ∃ stage later, stagesOfGroups (tokenGroups tokens) = stage :: later := by
  refine List.exists_cons_of_ne_nil fun hnone => tokenGroups_ne_nil h ?_
  rw [← List.length_eq_zero_iff, ← length_stagesOfGroups, hnone, List.length_nil]

/-- **Lines with a pipe symbol between them.**  The quotes of the first line are closed, what it
is without the blanks around it does not end in `&`, and both lines have tokens.  Then the two
with a pipe symbol between them are refused exactly if one of them is, and otherwise read as a
pipeline of the stages of the first and then those of the second, which runs in the background
exactly if the second does. -/
theorem read?_pipe {a b : String} (hclosed : IsClosed a.toList)
    (hplain : (Text.trim a.toList).getLast? ≠ some '&')
    (ha : lex (commandPart a.toList).1 ≠ []) (hb : lex (commandPart b.toList).1 ≠ []) :
    (read? (a ++ "|" ++ b) = none ↔ read? a = none ∨ read? b = none) ∧
      ∀ first second, read? a = some first → read? b = some second →
        ∃ line, read? (a ++ "|" ++ b) = some line ∧
          line.stages = first.stages ++ afterPipe second.stages ∧ line.kind = .pipeline ∧
          line.background = second.background := by
  have hsource : (a ++ "|" ++ b).toList = a.toList ++ '|' :: b.toList := by simp
  obtain ⟨htokens, hbackground⟩ := lex_commandPart_pipe hclosed hplain hb
  have hread := read?_eq (a ++ "|" ++ b)
  rw [hsource, htokens, hbackground, tokenGroups_pipe ha hb,
    stagesOfGroups_append (tokenGroups_ne_nil ha)] at hread
  have hheredoc : .heredoc ∈ lex (commandPart a.toList).1 ++ .pipe :: lex (commandPart b.toList).1 ↔
      .heredoc ∈ lex (commandPart a.toList).1 ∨ .heredoc ∈ lex (commandPart b.toList).1 := by simp
  have hnone : ∀ source, read? source = none ↔ .heredoc ∈ lex (commandPart source.toList).1 :=
    fun source => (read?_eq_placed source).1
  refine ⟨?_, fun first second hfirst hsecond => ?_⟩
  · rw [hnone, hsource, htokens, hheredoc, hnone a, hnone b]
  · rw [read?_eq] at hfirst hsecond
    split at hfirst
    · cases hfirst
    split at hsecond
    · cases hsecond
    next hfine hgood =>
    cases hfirst
    cases hsecond
    rw [if_neg (by rw [hheredoc]; exact not_or.mpr ⟨hfine, hgood⟩)] at hread
    refine ⟨_, hread, rfl, ?_, rfl⟩
    obtain ⟨stage, stages, hstages⟩ := exists_stage_of_tokens ha
    obtain ⟨next, others, hothers⟩ := exists_stage_of_tokens hb
    rw [hstages, hothers]
    simp [kind, afterPipe]

/-- Behind `|` a quoted pipe symbol and a file of its own are kept, and so is the `&`. -/
theorem read?_pipe_quoted :
    let a := " sort < in "
    let b := " '|' > out | uniq < x & "
    (IsClosed a.toList ∧ (Text.trim a.toList).getLast? ≠ some '&' ∧
      lex (commandPart a.toList).1 ≠ [] ∧ lex (commandPart b.toList).1 ≠ []) ∧
      ∃ line, read? (a ++ "|" ++ b) = some line ∧
        line.stages =
          [⟨"sort", [], .file "in", .inherit⟩, ⟨"|", [], .piped, .replace "out"⟩,
            ⟨"uniq", [], .file "x", .inherit⟩] ∧
        line.kind = .pipeline ∧ line.background = true := by
  intro a b
  have hclosed : IsClosed a.toList := by decide
  have hplain : (Text.trim a.toList).getLast? ≠ some '&' := by decide
  have ha : lex (commandPart a.toList).1 ≠ [] := by decide
  have hb : lex (commandPart b.toList).1 ≠ [] := by decide
  obtain ⟨line, hline, hstages, hkind, hbackground⟩ :=
    (read?_pipe hclosed hplain ha hb).2
      ⟨[⟨"sort", [], .file "in", .inherit⟩], false, a⟩
      ⟨[⟨"|", [], .inherit, .replace "out"⟩, ⟨"uniq", [], .file "x", .inherit⟩], true, b⟩
      (by decide) (by decide)
  exact ⟨⟨hclosed, hplain, ha, hb⟩, line, hline, hstages, hkind, hbackground⟩

end Conch.Line
