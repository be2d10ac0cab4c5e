import Conch.Proofs.Line.Rendering

/-!
# Stages by the places of their words

What a word means for a stage depends only on the token just before it: behind a redirection
operator it names a file, and anywhere else it is the name of the command or an argument.  This
module says so without a reader that goes from token to token, and then that reading a line
comes to the same.
-/

namespace Conch.Line

/-! ## Places -/

/-- The operators that a file is named after. -/
def Token.redirects : Token → Bool
  | .input | .output | .append => true
  | _ => false

/-- The text of a word. -/
def Token.word? : Token → Option String
  | .word text => some text
  | _ => none

/-- The tokens of a group, each with the one just before it.  What stands before the first is
given. -/
def withBefore (before : Option Token) (group : List Token) : List (Option Token × Token) :=
  (before :: group.map some).zip group

/-- A word with the redirection operator just before it, if there is one. -/
structure PlacedWord where
  operator : Option Token
  text : String
  deriving DecidableEq, Repr

/-- The words of a group in their places. -/
def placedWords (before : Option Token) (group : List Token) : List PlacedWord :=
  (withBefore before group).filterMap fun (before, token) =>
    token.word?.map fun text => ⟨before.filter Token.redirects, text⟩

/-- The text of a word that is no target. -/
def PlacedWord.plain? : PlacedWord → Option String
  | ⟨none, text⟩ => some text
  | _ => none

/-- The input that a word is the target of. -/
def PlacedWord.input? : PlacedWord → Option Input
  | ⟨some .input, name⟩ => some (.file name)
  | _ => none

/-- The output that a word is the target of. -/
def PlacedWord.output? : PlacedWord → Option Output
  | ⟨some .output, name⟩ => some (.replace name)
  | ⟨some .append, name⟩ => some (.append name)
  | _ => none

/-- The stage of a group by the places of its words: the words that are no targets are its name
and its arguments, and the last target of each kind is where its input comes from and its output
goes to. -/
def Stage.placed (source : Input) (group : List Token) : Stage :=
  let words := placedWords none group
  let plain := words.filterMap PlacedWord.plain?
  { name := plain.headD ""
    args := plain.tail
    input := (words.filterMap PlacedWord.input?).getLastD source
    output := (words.filterMap PlacedWord.output?).getLastD .inherit }

/-! ## Reading by places -/

section Places

variable {before : Option Token} {group : List Token}

theorem placedWords_cons (before : Option Token) (token : Token) (rest : List Token) :
    placedWords before (token :: rest) =
      (token.word?.map fun text => ⟨before.filter Token.redirects, text⟩).toList ++
        placedWords (some token) rest := by
  cases token <;> rfl

/-- What stands before a group counts only for a word at its head. -/
theorem placedWords_of_noWord (hhead : ∀ word, group.head? ≠ some (.word word))
    (before other : Option Token) : placedWords before group = placedWords other group := by
  cases group with
  | nil => rfl
  | cons token rest =>
      have hnone : token.word? = none := by
        cases token with
        | word text => exact absurd rfl (hhead text)
        | _ => rfl
      rw [placedWords_cons, placedWords_cons, hnone]
      rfl

/-- An operator that no word follows is as good as absent. -/
theorem placedWords_dangling {operator : Token} (hoperator : operator.redirects = true)
    {after : List Token} (hafter : ∀ word, after.head? ≠ some (.word word)) (earlier : List Token)
    (before : Option Token) :
    placedWords before (earlier ++ operator :: after) = placedWords before (earlier ++ after) := by
  induction earlier generalizing before with
  | nil =>
      have hnone : operator.word? = none := by
        cases operator with
        | word text => cases hoperator
        | _ => rfl
      rw [List.nil_append, List.nil_append, placedWords_cons, hnone]
      exact placedWords_of_noWord hafter _ _
  | cons token earlier ih =>
      rw [List.cons_append, List.cons_append, placedWords_cons, placedWords_cons, ih]

theorem placedWords_target {operator : Token} (hoperator : operator.redirects = true)
    (before : Option Token) (file : String) (rest : List Token) :
    placedWords before (operator :: .word file :: rest) =
      ⟨some operator, file⟩ :: placedWords (some (.word file)) rest := by
  cases operator with
  | input | output | append => rfl
  | word | pipe | heredoc => cases hoperator

theorem placedWords_plain (hbefore : before.any Token.redirects = false) (word : String)
    (rest : List Token) :
    placedWords before (.word word :: rest) =
      ⟨none, word⟩ :: placedWords (some (.word word)) rest := by
  have hnone : before.filter Token.redirects = none := by
    cases before with
    | none => rfl
    | some token => simpa using hbefore
  rw [placedWords_cons, hnone]
  rfl

/-- A draft takes up the words of a group by their places.  The invariant of the induction is
that no operator is left over for a word at the head of what is still to be read. -/
theorem Draft.read_eq (draft : Draft) (group : List Token) (before : Option Token)
    (hfree : before.any Token.redirects = true → ∀ word, group.head? ≠ some (.word word)) :
    draft.read group =
      ⟨((placedWords before group).filterMap PlacedWord.plain?).reverse ++ draft.words,
        ((placedWords before group).filterMap PlacedWord.input?).getLastD draft.input,
        ((placedWords before group).filterMap PlacedWord.output?).getLastD draft.output⟩ := by
  induction draft, group using Draft.read.induct generalizing before with
  | case1 draft => rfl
  | case2 draft file rest ih | case3 draft file rest ih | case4 draft file rest ih =>
      rw [Draft.read, ih (some (.word file)) (by simp [Token.redirects]),
        placedWords_target rfl]
      simp only [List.filterMap_cons, PlacedWord.plain?, PlacedWord.input?, PlacedWord.output?,
        List.getLastD_cons]
  | case5 draft word rest ih =>
      have hbefore : before.any Token.redirects = false :=
        Bool.eq_false_iff.mpr fun hleft => hfree hleft word rfl
      rw [Draft.read, ih (some (.word word)) (by simp [Token.redirects]),
        placedWords_plain hbefore]
      simp only [List.filterMap_cons, PlacedWord.plain?, PlacedWord.input?, PlacedWord.output?,
        List.reverse_cons, List.append_assoc, List.singleton_append]
  | case6 draft token rest hinput houtput happend hword ih =>
      have hnone : token.word? = none := by
        cases token with
        | word text => exact absurd rfl (hword text)
        | _ => rfl
      have hread : draft.read (token :: rest) = draft.read rest := by
        rw [Draft.read] <;> assumption
      rw [hread, ih (some token), placedWords_cons, hnone]
      · rfl
      · intro htoken word hhead
        obtain ⟨later, rfl⟩ : ∃ later, rest = .word word :: later := List.head?_eq_some_iff.mp hhead
        cases token with
        | input => exact hinput word later rfl rfl
        | output => exact houtput word later rfl rfl
        | append => exact happend word later rfl rfl
        | word | pipe | heredoc => simp [Token.redirects] at htoken

theorem Stage.ofTokens_eq_placed (source : Input) (group : List Token) :
    Stage.ofTokens source group = Stage.placed source group := by
  rw [Stage.ofTokens, Draft.read_eq _ _ none (by simp)]
  simp only [Draft.stage, Stage.placed, List.append_nil, List.reverse_reverse]
  split
  · next h => simp [h]
  · next h => simp [h]

end Places

/-! ## Lines -/

theorem splitAtPipes_eq_splitOn (tokens : List Token) :
    splitAtPipes tokens = tokens.splitOn .pipe := by
  rw [List.splitOn]
  induction tokens using splitAtPipes.induct with
  | case1 => rfl
  | case2 rest ih =>
      rw [splitAtPipes, List.splitOnP_cons_eq_if_modifyHead, ih]
      rfl
  | case3 token rest htoken hnone ih => exact absurd (hnone ▸ ih).symm (List.splitOnP_ne_nil _ _)
  | case4 token rest htoken group groups hsome ih =>
      have hother : (token == Token.pipe) = false := by simpa using htoken
      rw [splitAtPipes, hsome, List.splitOnP_cons_eq_if_modifyHead, hother, ← ih, hsome]
      · rfl
      · exact htoken

/-- The token groups of a line: what stands between its pipe symbols, if there is any token. -/
def tokenGroups (tokens : List Token) : List (List Token) :=
  if tokens.isEmpty then [] else tokens.splitOn .pipe

/-- Where the input of the stage with this number comes from if the stage does not say. -/
def sourceAt (index : Nat) : Input :=
  if index = 0 then .inherit else .piped

theorem stagesOfGroups_eq_mapIdx (groups : List (List Token)) :
    stagesOfGroups groups = groups.mapIdx fun index => Stage.placed (sourceAt index) := by
  refine List.ext_getElem? fun index => ?_
  cases groups with
  | nil => rfl
  | cons first later =>
      cases index with
      | zero => simp [stagesOfGroups, sourceAt, Stage.ofTokens_eq_placed]
      | succ index =>
          have hsame : Stage.ofTokens .piped = Stage.placed .piped :=
            funext (Stage.ofTokens_eq_placed .piped)
          simp [stagesOfGroups, sourceAt, hsame]

theorem length_stagesOfGroups (groups : List (List Token)) :
    (stagesOfGroups groups).length = groups.length := by
  rw [stagesOfGroups_eq_mapIdx, List.length_mapIdx]

/-- A line is read unless `<<` is among the tokens of its command, and then into the stages of
its token groups. -/
theorem read?_eq (source : String) :
    read? source =
      if .heredoc ∈ lex (commandPart source.toList).1 then none
      else some ⟨stagesOfGroups (tokenGroups (lex (commandPart source.toList).1)),
        (commandPart source.toList).2, source⟩ := by
  simp only [read?, tokenGroups, splitAtPipes_eq_splitOn, List.contains_eq_mem, decide_eq_true_eq]
  split
  · next hempty => simp [List.isEmpty_iff.mp hempty, stagesOfGroups]
  · rfl

/-- **Stages are read by the places of their words.**  A line is refused exactly if `<<` is among
the tokens of its command.  Otherwise it has one stage for each group of tokens between pipe
symbols, which is given by the places of the words in the group, and it is a pipeline exactly if
there are at least two groups.  An operator that no word follows has no effect on its group. -/
theorem read?_eq_placed (source : String) :
    let tokens := lex (commandPart source.toList).1
    (read? source = none ↔ .heredoc ∈ tokens) ∧
      (.heredoc ∉ tokens → ∃ line, read? source = some line ∧
        line.stages = (tokenGroups tokens).mapIdx (fun index => Stage.placed (sourceAt index)) ∧
        (line.kind = .pipeline ↔ 2 ≤ (tokenGroups tokens).length)) ∧
      ∀ input before operator after, operator.redirects = true →
        (∀ word, after.head? ≠ some (.word word)) →
        Stage.ofTokens input (before ++ operator :: after) =
          Stage.ofTokens input (before ++ after) := by
  intro tokens
  have hread := read?_eq source
  refine ⟨?_, fun hplain => ?_, ?_⟩
  · rw [hread]
    split <;> simp_all [tokens]
  · rw [if_neg hplain] at hread
    refine ⟨_, hread, stagesOfGroups_eq_mapIdx _, ?_⟩
    rw [kind, length_stagesOfGroups]
    split <;> simp_all [tokens]
  · intro input before operator after hoperator hafter
    simp only [Stage.ofTokens_eq_placed, Stage.placed, placedWords_dangling hoperator hafter]

/-- A file before the name, an operator behind another one, and two that nothing follows. -/
theorem read?_eq_placed_dangling :
    let source := "< in sort -r > > out >> | \"\" < &"
    .heredoc ∉ lex (commandPart source.toList).1 ∧
      (∃ line, read? source = some line ∧
        line.stages =
          [⟨"sort", ["-r"], .file "in", .replace "out"⟩, ⟨"", [], .piped, .inherit⟩] ∧
        line.kind = .pipeline) ∧
      Token.append.redirects = true ∧
      Stage.ofTokens .piped [.word "uniq", .append] = Stage.ofTokens .piped [.word "uniq"] := by
  intro source
  have hplain : .heredoc ∉ lex (commandPart source.toList).1 := by decide
  obtain ⟨-, hread, hdangling⟩ := read?_eq_placed source
  obtain ⟨line, hline, hstages, hkind⟩ := hread hplain
  refine ⟨hplain, ⟨line, hline, hstages.trans (by decide), hkind.mpr (by decide)⟩, rfl, ?_⟩
  exact hdangling .piped [.word "uniq"] .append [] rfl (by simp)

/-- Of several files the last one counts. -/
example : read? "< a sort < b x > c >> d" =
    some ⟨[⟨"sort", ["x"], .file "b", .append "d"⟩], false, "< a sort < b x > c >> d"⟩ := by
  decide

end Conch.Line
