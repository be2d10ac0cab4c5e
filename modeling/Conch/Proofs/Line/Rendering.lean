import Conch.Proofs.Line.Background
import Conch.Proofs.Line.Quoting

/-!
# Reading a rendered line

A rendered line spells the tokens of its stages, with a blank between any two of them.
Without backslashes in it, it is read as these tokens, and its stages are those of the line
it was rendered from.  Read with backslashes in it, it gives more of them than the line
had, so without redirections, which could hide them, its stages are others.  Nothing is
said about lines with the null character.
-/

namespace Conch.Line

/-! ## The tokens of stages -/

/-- The tokens that an input is written with. -/
def Input.tokens : Input → List Token
  | .file name => [.input, .word name]
  | _ => []

/-- The tokens that an output is written with. -/
def Output.tokens : Output → List Token
  | .replace name => [.output, .word name]
  | .append name => [.append, .word name]
  | .inherit => []

/-- The tokens that a stage is written with. -/
def Stage.tokens (stage : Stage) : List Token :=
  (stage.name :: stage.args).map .word ++ (stage.input.tokens ++ stage.output.tokens)

/-- The tokens that a line of some stages is written with. -/
def lineTokens (stages : List Stage) : List Token :=
  [.pipe].intercalate (stages.map Stage.tokens)

theorem lineTokens_singleton (stage : Stage) : lineTokens [stage] = stage.tokens :=
  List.intercalate_singleton

theorem lineTokens_cons (stage : Stage) {later : List Stage} (hlater : later ≠ []) :
    lineTokens (stage :: later) = stage.tokens ++ .pipe :: lineTokens later := by
  obtain ⟨next, rest, rfl⟩ := List.exists_cons_of_ne_nil hlater
  simp [lineTokens, List.intercalate_cons_cons]

/-- The tokens of a stage are words and redirections. -/
theorem Stage.of_mem_tokens {stage : Stage} {token : Token} (h : token ∈ stage.tokens) :
    token ≠ .pipe ∧ token ≠ .heredoc := by
  have hinput : ∀ input : Input, ∀ token ∈ input.tokens, token ≠ .pipe ∧ token ≠ .heredoc := by
    intro input
    cases input <;> simp [Input.tokens]
  have houtput : ∀ output : Output, ∀ token ∈ output.tokens,
      token ≠ .pipe ∧ token ≠ .heredoc := by
    intro output
    cases output <;> simp [Output.tokens]
  rcases List.mem_append.mp h with hword | h
  · obtain ⟨word, -, rfl⟩ := List.mem_map.mp hword
    simp
  · rcases List.mem_append.mp h with h | h
    · exact hinput _ _ h
    · exact houtput _ _ h

theorem heredoc_notMem_lineTokens (stages : List Stage) : .heredoc ∉ lineTokens stages := by
  induction stages with
  | nil => exact List.not_mem_nil
  | cons stage later ih =>
      have hstage : .heredoc ∉ stage.tokens := fun h => (Stage.of_mem_tokens h).2 rfl
      by_cases hlater : later = []
      · subst hlater
        rwa [lineTokens_singleton]
      · rw [lineTokens_cons stage hlater]
        simp [hstage, ih]

/-! ## Reading the tokens of a stage -/

theorem Draft.read_words (draft : Draft) (words : List String) (rest : List Token) :
    draft.read (words.map .word ++ rest) =
      { draft with words := words.reverse ++ draft.words }.read rest := by
  induction words generalizing draft with
  | nil => rfl
  | cons word words ih =>
      rw [List.map_cons, List.cons_append, Draft.read, ih]
      simp

theorem Draft.read_inputTokens (draft : Draft) {input : Input}
    (h : input = draft.input ∨ ∃ file, input = .file file) (rest : List Token) :
    draft.read (input.tokens ++ rest) = { draft with input := input }.read rest := by
  obtain ⟨words, before, output⟩ := draft
  rcases h with rfl | ⟨file, rfl⟩
  · cases input <;> rfl
  · rfl

theorem Draft.read_outputTokens (draft : Draft) (hnone : draft.output = .inherit)
    (output : Output) : draft.read output.tokens = { draft with output := output } := by
  obtain ⟨words, input, _⟩ := draft
  obtain rfl := hnone
  cases output <;> rfl

/-- The input of a stage stays where it comes from, or is a file. -/
theorem Draft.read_input (draft : Draft) (tokens : List Token) :
    (draft.read tokens).input = draft.input ∨ ∃ file, (draft.read tokens).input = .file file := by
  induction draft, tokens using Draft.read.induct with
  | case1 draft => exact .inl rfl
  | case2 draft file rest ih => exact .inr (ih.elim (fun h => ⟨file, h⟩) id)
  | case3 | case4 | case5 =>
      rw [Draft.read]
      assumption
  | case6 draft token rest hinput houtput happend hword ih =>
      rwa [Draft.read]
      all_goals assumption

@[simp] theorem Draft.stage_input (draft : Draft) : draft.stage.input = draft.input := by
  unfold Draft.stage
  split <;> rfl

@[simp] theorem Draft.stage_output (draft : Draft) : draft.stage.output = draft.output := by
  unfold Draft.stage
  split <;> rfl

/-- A stage is read back from its tokens. -/
theorem Stage.ofTokens_tokens_of_input {source : Input} {stage : Stage}
    (h : stage.input = source ∨ ∃ file, stage.input = .file file) :
    Stage.ofTokens source stage.tokens = stage := by
  rw [Stage.ofTokens, Stage.tokens, Draft.read_words, Draft.read_inputTokens _ h,
    Draft.read_outputTokens _ rfl]
  simp [Draft.stage]

theorem Stage.ofTokens_tokens (source : Input) (tokens : List Token) :
    Stage.ofTokens source (Stage.ofTokens source tokens).tokens = Stage.ofTokens source tokens := by
  refine Stage.ofTokens_tokens_of_input ?_
  rw [Stage.ofTokens, Draft.stage_input]
  exact Draft.read_input _ _

/-- Read stages are read back from their tokens, group by group. -/
theorem stagesOfGroups_tokens (groups : List (List Token)) :
    stagesOfGroups ((stagesOfGroups groups).map Stage.tokens) = stagesOfGroups groups := by
  cases groups with
  | nil => rfl
  | cons first later =>
      simp only [stagesOfGroups, List.map_cons, List.map_map, Stage.ofTokens_tokens,
        List.cons.injEq, true_and]
      exact List.map_congr_left fun tokens _ => Stage.ofTokens_tokens .piped tokens

/-! ## Cutting at pipe symbols -/

/-- What stands before the first pipe symbol goes into the first group. -/
theorem splitAtPipes_append {group rest first : List Token} {later : List (List Token)}
    (h : .pipe ∉ group) (hrest : splitAtPipes rest = first :: later) :
    splitAtPipes (group ++ rest) = (group ++ first) :: later := by
  induction group with
  | nil => exact hrest
  | cons token group ih =>
      obtain ⟨htoken, hgroup⟩ := List.ne_and_not_mem_of_not_mem_cons h
      rw [List.cons_append, splitAtPipes, ih hgroup]
      · rfl
      · rintro rfl
        exact htoken rfl

theorem splitAtPipes_lineTokens {stages : List Stage} (hsome : stages ≠ []) :
    splitAtPipes (lineTokens stages) = stages.map Stage.tokens := by
  induction stages with
  | nil => exact absurd rfl hsome
  | cons stage later ih =>
      have hstage : .pipe ∉ stage.tokens := fun h => (Stage.of_mem_tokens h).1 rfl
      by_cases hlater : later = []
      · subst hlater
        have hend : splitAtPipes [] = [] :: [] := rfl
        simpa [lineTokens_singleton] using splitAtPipes_append hstage hend
      · have hnext : splitAtPipes (.pipe :: lineTokens later) = [] :: later.map Stage.tokens := by
          rw [splitAtPipes, ih hlater]
        rw [lineTokens_cons stage hlater, splitAtPipes_append hstage hnext, List.append_nil,
          List.map_cons]

/-! ## Spelling -/

/-- A text that spells tokens: words quoted, operators as they are, and blanks between. -/
inductive Spells : List Token → List Char → Prop
  | word (word : String) : Spells [.word word] (quoteWord word.toList)
  | pipe : Spells [.pipe] ['|']
  | input : Spells [.input] ['<']
  | output : Spells [.output] ['>']
  | append : Spells [.append] ['>', '>']
  | join {first later : List Token} {firstText laterText : List Char}
      (hfirst : Spells first firstText) (hlater : Spells later laterText) :
      Spells (first ++ later) (firstText ++ ' ' :: laterText)

section Spelling

variable {tokens : List Token} {text : List Char}

theorem Spells.isTight (h : Spells tokens text) : IsTight text := by
  induction h with
  | word word => exact (written_quoteWord word.toList).isTight
  | pipe | input | output => exact .singleton (by decide) (by decide)
  | append =>
      have htight : IsTight ['>'] := .singleton (by decide) (by decide)
      exact htight.around htight []
  | join _ _ hfirst hlater => simpa using hfirst.around hlater [' ']

/-- What may stand behind a token: nothing, or a blank. -/
def StopsToken (rest : List Char) : Prop :=
  rest = [] ∨ ∃ later, rest = ' ' :: later

/-- Without backslashes in it, a text is read as the tokens that it spells. -/
theorem Spells.scan_append (h : Spells tokens text) (hslash : '\\' ∉ text) {rest : List Char}
    (hrest : StopsToken rest) :
    scan .bare none (text ++ rest) = tokens ++ scan .bare none rest := by
  induction h generalizing rest with
  | word word =>
      rw [(written_quoteWord word.toList).scan_append hslash]
      rcases hrest with rfl | ⟨later, rfl⟩ <;> simp [scan, flush, Text.isBlank]
  | pipe | input | output | append =>
      rcases hrest with rfl | ⟨later, rfl⟩ <;> simp [scan, flush, Text.isBlank]
  | join _ _ hfirst hlater =>
      obtain ⟨hone, htwo⟩ : '\\' ∉ _ ∧ '\\' ∉ _ := by simpa using hslash
      have hblank : ∀ s, scan .bare none (' ' :: s) = scan .bare none s := by
        intro s
        simp [scan, flush, Text.isBlank]
      rw [List.append_assoc, List.cons_append, hfirst hone (.inr ⟨_, rfl⟩), hblank,
        hlater htwo hrest, List.append_assoc]

theorem Spells.lex_eq (h : Spells tokens text) (hslash : '\\' ∉ text) : lex text = tokens := by
  have hscan := h.scan_append hslash (.inl rfl)
  rw [List.append_nil] at hscan
  rw [lex, hscan]
  exact List.append_nil tokens

end Spelling

/-- The words of a stage, those that name files included. -/
def Stage.words (stage : Stage) : List String :=
  stage.name :: stage.args ++ (stage.inputFile?.toList ++ stage.outputFile?.toList)

/-- A word without the null character, which no quotes cover. -/
def HasNoNull (word : String) : Prop :=
  '\x00' ∉ word.toList

instance (word : String) : Decidable (HasNoNull word) :=
  inferInstanceAs (Decidable ('\x00' ∉ word.toList))

/-- Words without the null character are spelled with blanks between them. -/
theorem spells_quoteWords (word : String) (words : List String)
    (hnull : ∀ w ∈ word :: words, HasNoNull w) :
    Spells ((word :: words).map .word) (quoteWords (word :: words)).toList := by
  have hquoted : quoteWords (word :: words) =
      " ".intercalate ((word :: words).map fun w => String.ofList (quoteWord w.toList)) := by
    have hnone : ¬ ((word :: words).any fun w => w.toList.contains '\x00') = true := by
      simpa [HasNoNull] using hnull
    rw [quoteWords, if_neg hnone]
  rw [hquoted]
  clear hquoted hnull
  induction words generalizing word with
  | nil => simpa using Spells.word word
  | cons next words ih =>
      simpa [String.intercalate_cons_cons] using (Spells.word word).join (ih next)

/-- How an input is written behind the words of a stage. -/
def Input.text : Input → String
  | .file name => " < " ++ quoteWords [name]
  | _ => ""

/-- How an output is written behind the words of a stage. -/
def Output.text : Output → String
  | .replace name => " > " ++ quoteWords [name]
  | .append name => " >> " ++ quoteWords [name]
  | .inherit => ""

theorem Stage.render_eq (stage : Stage) :
    stage.render =
      quoteWords (stage.name :: stage.args) ++ stage.input.text ++ stage.output.text := by
  obtain ⟨name, args, input, output⟩ := stage
  cases input <;> cases output <;> rfl

/-- A stage is written as its tokens are spelled. -/
theorem spells_stage (stage : Stage) (hnull : ∀ w ∈ stage.words, HasNoNull w) :
    Spells stage.tokens stage.render.toList := by
  have hfile : ∀ file, file ∈ stage.words → Spells [.word file] (quoteWords [file]).toList :=
    fun file hmem => spells_quoteWords file [] fun w hw => hnull w (List.mem_singleton.mp hw ▸ hmem)
  have hwords : Spells ((stage.name :: stage.args).map .word)
      (quoteWords (stage.name :: stage.args)).toList :=
    spells_quoteWords stage.name stage.args fun w hw => hnull w (List.mem_append_left _ hw)
  have hinput : Spells ((stage.name :: stage.args).map .word ++ stage.input.tokens)
      (quoteWords (stage.name :: stage.args) ++ stage.input.text).toList := by
    cases h : stage.input with
    | inherit | piped => simpa [Input.tokens, Input.text] using hwords
    | file file =>
        have hmem : file ∈ stage.words := by simp [Stage.words, Stage.inputFile?, h]
        simpa [Input.tokens, Input.text] using hwords.join (Spells.input.join (hfile file hmem))
  rw [Stage.tokens, Stage.render_eq, ← List.append_assoc]
  cases h : stage.output with
  | inherit => simpa [Output.tokens, Output.text] using hinput
  | replace file =>
      have hmem : file ∈ stage.words := by simp [Stage.words, Stage.outputFile?, h]
      simpa [Output.tokens, Output.text] using hinput.join (Spells.output.join (hfile file hmem))
  | append file =>
      have hmem : file ∈ stage.words := by simp [Stage.words, Stage.outputFile?, h]
      simpa [Output.tokens, Output.text] using hinput.join (Spells.append.join (hfile file hmem))

/-- A line is written as its tokens are spelled. -/
theorem spells_render {stages : List Stage} (hsome : stages ≠ [])
    (hnull : ∀ stage ∈ stages, ∀ w ∈ stage.words, HasNoNull w) :
    Spells (lineTokens stages) (" | ".intercalate (stages.map Stage.render)).toList := by
  induction stages with
  | nil => exact absurd rfl hsome
  | cons stage later ih =>
      obtain ⟨hstage, hrest⟩ := List.forall_mem_cons.mp hnull
      have hfirst := spells_stage stage hstage
      by_cases hlater : later = []
      · subst hlater
        simpa [lineTokens_singleton] using hfirst
      · have hmap : later.map Stage.render ≠ [] := by simpa using hlater
        rw [lineTokens_cons stage hlater, List.map_cons, String.intercalate_cons_of_ne_nil hmap]
        simpa using hfirst.join (Spells.pipe.join (ih hlater hrest))

/-! ## Backslashes -/

/-- The backslashes in a word; an operator has none. -/
def Token.slashes : Token → Nat
  | .word text => text.toList.count '\\'
  | _ => 0

/-- The backslashes in the words among some tokens. -/
def slashes : List Token → Nat
  | [] => 0
  | token :: rest => token.slashes + slashes rest

@[simp] theorem slashes_append (first later : List Token) :
    slashes (first ++ later) = slashes first + slashes later := by
  induction first with
  | nil => simp [slashes]
  | cons token rest ih => simp [slashes, ih, Nat.add_assoc]

theorem slashes_reverse (tokens : List Token) : slashes tokens.reverse = slashes tokens := by
  induction tokens with
  | nil => rfl
  | cons token rest ih => simp [slashes, ih, Nat.add_comm]

/-- A text has at least the backslashes of the tokens that it spells, and more if it has
any. -/
theorem Spells.swells {tokens : List Token} {text : List Char} (h : Spells tokens text) :
    Swells (slashes tokens) text := by
  induction h with
  | word word => exact (written_quoteWord word.toList).swells
  | pipe | input | output | append => exact .of_noSlash (by decide)
  | join _ _ hfirst hlater =>
      have hblank : Swells 0 [' '] := .of_noSlash (by decide)
      simpa using hfirst.append (hblank.append hlater)

/-- The lexer loses no backslash. -/
theorem slashes_scan (region : Region) (pending : Option (List Char)) (s : List Char) :
    slashes (scan region pending s) = (pending.getD []).count '\\' + s.count '\\' := by
  have hflush : ∀ word, slashes (flush word) = (word.getD []).count '\\' := by
    intro word
    cases word <;> simp [flush, slashes, Token.slashes]
  have hextend : ∀ c word (rest : List Char),
      ((extend c word).getD []).count '\\' + rest.count '\\' =
        (word.getD []).count '\\' + (c :: rest).count '\\' := by
    intro c word rest
    simp only [extend, Option.getD_some, List.count_cons]
    omega
  fun_induction scan region pending s with
  | case1 => simp [hflush]
  -- quote marks and operators are no backslashes
  | case2 _ _ ih | case4 _ _ ih | case8 _ _ _ _ ih | case9 _ _ _ _ _ ih =>
      rw [ih]
      simp [opened]
  | case6 _ _ ih | case7 _ _ ih | case11 _ _ _ _ _ _ _ ih | case12 _ _ _ _ _ _ _ _ ih
  | case13 _ _ _ _ _ _ _ _ _ ih => simp [hflush, slashes, Token.slashes, ih]
  | case10 word c rest _ _ _ _ hblank ih =>
      have hother : c ≠ '\\' := by
        rintro rfl
        exact absurd hblank (by decide)
      simp [hflush, ih, hother]
  -- any other character goes into the word
  | case3 word c rest _ ih | case5 word c rest _ ih | case14 word c rest _ _ _ _ _ _ _ _ ih =>
      rw [ih, hextend]

theorem slashes_splitAtPipes (tokens : List Token) :
    slashes (splitAtPipes tokens).flatten = slashes tokens := by
  induction tokens using splitAtPipes.induct with
  | case1 => rfl
  | case2 rest ih => simp [splitAtPipes, slashes, Token.slashes, ih]
  | case3 token rest htoken hnone ih =>
      rw [splitAtPipes, hnone]
      · rw [hnone] at ih
        simp [slashes, ← ih]
      · exact htoken
  | case4 token rest htoken group groups hsome ih =>
      rw [splitAtPipes, hsome]
      · rw [hsome] at ih
        simp [slashes, ← ih]
      · exact htoken

theorem slashes_lineTokens (stages : List Stage) :
    slashes (lineTokens stages) = slashes (stages.flatMap Stage.tokens) := by
  by_cases hnone : stages = []
  · subst hnone
    rfl
  · rw [← slashes_splitAtPipes, splitAtPipes_lineTokens hnone, List.flatMap_def]

/-- A stage that takes nothing from a file and writes nothing to one. -/
def Stage.HasNoRedirection (stage : Stage) : Prop :=
  stage.inputFile? = none ∧ stage.outputFile? = none

instance (stage : Stage) : Decidable stage.HasNoRedirection :=
  inferInstanceAs (Decidable (_ ∧ _))

theorem Stage.HasNoRedirection.tokens_eq {stage : Stage} (h : stage.HasNoRedirection) :
    stage.tokens = (stage.name :: stage.args).map .word := by
  obtain ⟨name, args, input, output⟩ := stage
  obtain ⟨hinput, houtput⟩ := h
  have hnone : input.tokens = [] := by
    cases input with
    | inherit | piped => rfl
    | file => simp [inputFile?] at hinput
  have hnothing : output.tokens = [] := by
    cases output with
    | inherit => rfl
    | replace | append => simp [outputFile?] at houtput
  simp [tokens, hnone, hnothing]

/-- The backslashes in the words of a draft. -/
def Draft.slashes (draft : Draft) : Nat :=
  Line.slashes (draft.words.map .word)

/-- Only a redirection hides words: without any, no backslash is lost. -/
theorem Draft.slashes_read {draft : Draft} {tokens : List Token}
    (h : (draft.read tokens).stage.HasNoRedirection) :
    draft.stage.HasNoRedirection ∧
      (draft.read tokens).slashes = draft.slashes + Line.slashes tokens := by
  induction draft, tokens using Draft.read.induct with
  | case1 draft => exact ⟨h, rfl⟩
  | case2 draft file rest ih =>
      have hinput := (ih h).1.1
      simp [Stage.inputFile?] at hinput
  | case3 draft file rest ih | case4 draft file rest ih =>
      have houtput := (ih h).1.2
      simp [Stage.outputFile?] at houtput
  | case5 draft word rest ih =>
      obtain ⟨hplain, hslashes⟩ := ih h
      have hbefore : draft.stage.HasNoRedirection := by
        simpa [Stage.HasNoRedirection, Stage.inputFile?, Stage.outputFile?] using hplain
      refine ⟨hbefore, ?_⟩
      rw [Draft.read, hslashes]
      simp only [Draft.slashes, List.map_cons, Line.slashes]
      omega
  | case6 draft token rest hinput houtput happend hword ih =>
      have hnone : token.slashes = 0 := by
        cases token with
        | word text => exact absurd rfl (hword text)
        | _ => rfl
      have hread : draft.read (token :: rest) = draft.read rest := by
        rw [Draft.read] <;> assumption
      rw [hread] at h ⊢
      obtain ⟨hplain, hslashes⟩ := ih h
      exact ⟨hplain, by rw [hslashes, Line.slashes, hnone, Nat.zero_add]⟩

theorem Draft.slashes_stage {draft : Draft} (h : draft.stage.HasNoRedirection) :
    Line.slashes draft.stage.tokens = draft.slashes := by
  have hreverse : draft.slashes = Line.slashes (draft.words.reverse.map .word) := by
    rw [Draft.slashes, List.map_reverse, slashes_reverse]
  rw [h.tokens_eq, hreverse]
  unfold Draft.stage
  cases hwords : draft.words.reverse with
  | nil => rfl
  | cons name args => rfl

/-- A stage without redirections has the backslashes of the tokens that it was read from. -/
theorem slashes_ofTokens {source : Input} {tokens : List Token}
    (h : (Stage.ofTokens source tokens).HasNoRedirection) :
    slashes (Stage.ofTokens source tokens).tokens = slashes tokens := by
  rw [Stage.ofTokens] at h ⊢
  rw [Draft.slashes_stage h, (Draft.slashes_read h).2]
  exact Nat.zero_add _

theorem slashes_stagesOfGroups {groups : List (List Token)}
    (h : ∀ stage ∈ stagesOfGroups groups, stage.HasNoRedirection) :
    slashes (lineTokens (stagesOfGroups groups)) = slashes groups.flatten := by
  have hlater : ∀ later : List (List Token),
      (∀ stage ∈ later.map (Stage.ofTokens .piped), stage.HasNoRedirection) →
        slashes ((later.map (Stage.ofTokens .piped)).flatMap Stage.tokens) =
          slashes later.flatten := by
    intro later hplain
    induction later with
    | nil => rfl
    | cons tokens later ih =>
        obtain ⟨hfirst, hrest⟩ := List.forall_mem_cons.mp hplain
        simp [slashes_ofTokens hfirst, ih hrest]
  rw [slashes_lineTokens]
  cases groups with
  | nil => rfl
  | cons first later =>
      obtain ⟨hfirst, hrest⟩ := List.forall_mem_cons.mp h
      simp [stagesOfGroups, slashes_ofTokens hfirst, hlater later hrest]

/-! ## Whole lines -/

/-- A line that is read has no stages, or those of its token groups. -/
theorem stages_of_read? {source : String} {line : Line} (h : read? source = some line) :
    line.stages = [] ∨
      line.stages = stagesOfGroups (splitAtPipes (lex (commandPart source.toList).1)) := by
  simp only [read?] at h
  split at h
  · rw [← Option.some.inj h]
    exact .inl rfl
  · split at h
    · cases h
    · rw [← Option.some.inj h]
      exact .inr rfl

/-- Nothing is taken off a text with tight ends. -/
theorem commandPart_of_isTight {text : List Char} (h : IsTight text) :
    commandPart text = (text, false) := by
  obtain ⟨first, rest, hstart, hfirst⟩ := h.start
  obtain ⟨init, last, hstop, hlast, hand⟩ := h.stop
  have htrim : Text.trim text = text := by
    have hkept : Text.trimStart text = text := by
      rw [hstart, Text.trimStart, List.dropWhile_cons_of_neg (by simp [hfirst])]
    rw [Text.trim, hkept, hstop, Text.trimEnd_concat hlast]
  have hplain : (Text.trim text).getLast? ≠ some '&' := by
    rw [htrim, hstop, List.getLast?_concat]
    simpa using hand
  rw [commandPart_of_plain hplain, htrim]

theorem lineTokens_ne_nil {stages : List Stage} (hsome : stages ≠ []) : lineTokens stages ≠ [] := by
  obtain ⟨stage, later, rfl⟩ := List.exists_cons_of_ne_nil hsome
  by_cases hlater : later = []
  · subst hlater
    simp [lineTokens_singleton, Stage.tokens]
  · simp [lineTokens_cons stage hlater]

/-- A rendered line is read back as it was, if there is no backslash in it; if there is one,
then without redirections it is not. -/
theorem read?_render {source : String} {line : Line} (hread : read? source = some line)
    (hnull : ∀ stage ∈ line.stages, ∀ word ∈ stage.words, HasNoNull word) :
    ('\\' ∉ line.render.toList →
      ∃ again, read? line.render = some again ∧ again.stages = line.stages ∧
        again.kind = line.kind ∧ again.background = false) ∧
    ((∀ stage ∈ line.stages, stage.HasNoRedirection) → '\\' ∈ line.render.toList →
      ∀ again, read? line.render = some again → again.stages ≠ line.stages) := by
  by_cases hsome : line.stages = []
  · -- nothing is rendered, and nothing is read
    have hrender : line.render = "" := by simp [render, hsome]
    rw [hrender]
    refine ⟨fun _ => ⟨⟨[], false, ""⟩, by decide, hsome.symm, ?_, rfl⟩, fun _ h => ?_⟩
    · simp [kind, hsome]
    · simp at h
  have hspells : Spells (lineTokens line.stages) line.render.toList := spells_render hsome hnull
  have hpart := commandPart_of_isTight hspells.isTight
  constructor
  · intro hslash
    have hstages : stagesOfGroups (splitAtPipes (lineTokens line.stages)) = line.stages := by
      rw [splitAtPipes_lineTokens hsome, (stages_of_read? hread).resolve_left hsome]
      exact stagesOfGroups_tokens _
    have hagain : read? line.render = some ⟨line.stages, false, line.render⟩ := by
      simp [read?, hpart, hspells.lex_eq hslash, lineTokens_ne_nil hsome,
        heredoc_notMem_lineTokens, hstages]
    exact ⟨_, hagain, rfl, rfl, rfl⟩
  · intro hplain hslash again hagain hsame
    -- all the backslashes in the text come out in the stages, and they are too many
    have hstages : line.stages = stagesOfGroups (splitAtPipes (lex line.render.toList)) := by
      have h := (stages_of_read? hagain).resolve_left (hsame ▸ hsome)
      rwa [hsame, hpart] at h
    have hcount : slashes (lineTokens line.stages) = line.render.toList.count '\\' := by
      rw [hstages] at hplain
      rw [hstages, slashes_stagesOfGroups hplain, slashes_splitAtPipes, lex, slashes_scan]
      simp
    exact absurd (hspells.swells.lt hslash) (by omega)

/-- A line for the background, in which both kinds of quotes are needed. -/
def quotedLine : Line :=
  ⟨[⟨"", [], .inherit, .inherit⟩, ⟨"grep", ["a|b", "it's"], .piped, .replace "out"⟩], true,
    "| grep 'a|b' \"it's\" > out &"⟩

/-- A line with a word that only a shell with an escape character could read back. -/
def slashedLine : Line :=
  ⟨[⟨"echo", ["a\\b"], .inherit, .inherit⟩], false, "echo a\\b"⟩

theorem read?_render_quoted :
    (read? quotedLine.source = some quotedLine ∧
      (∀ stage ∈ quotedLine.stages, ∀ word ∈ stage.words, HasNoNull word) ∧
      '\\' ∉ quotedLine.render.toList ∧
      ∃ again, read? quotedLine.render = some again ∧ again.stages = quotedLine.stages ∧
        again.kind = quotedLine.kind ∧ again.background = false) ∧
    read? slashedLine.source = some slashedLine ∧
      (∀ stage ∈ slashedLine.stages, ∀ word ∈ stage.words, HasNoNull word) ∧
      (∀ stage ∈ slashedLine.stages, stage.HasNoRedirection) ∧ '\\' ∈ slashedLine.render.toList ∧
      ∀ again, read? slashedLine.render = some again → again.stages ≠ slashedLine.stages := by
  have hquoted : read? quotedLine.source = some quotedLine := by decide
  have hquotedNull : ∀ stage ∈ quotedLine.stages, ∀ word ∈ stage.words, HasNoNull word := by
    decide
  have hslashed : read? slashedLine.source = some slashedLine := by decide
  have hslashedNull : ∀ stage ∈ slashedLine.stages, ∀ word ∈ stage.words, HasNoNull word := by
    decide
  have hclean : '\\' ∉ quotedLine.render.toList := by decide +kernel
  have hslash : '\\' ∈ slashedLine.render.toList := by decide +kernel
  have hplain : ∀ stage ∈ slashedLine.stages, stage.HasNoRedirection := by decide
  exact ⟨⟨hquoted, hquotedNull, hclean, (read?_render hquoted hquotedNull).1 hclean⟩,
    hslashed, hslashedNull, hplain, hslash, (read?_render hslashed hslashedNull).2 hplain hslash⟩

end Conch.Line
