import Conch.Proofs.Line.Quoting
import Mathlib.Data.List.SplitBy

/-!
# The grammar of tokens

What a line consists of, said without the lexer.  Every character of a line has a role, which
depends on the quoted region that it stands in.  The line falls into blocks, as long as can
be, of blanks, of operator characters, and of everything else.  Blanks read as nothing, a run
of operator characters reads as the operators that are bitten off it from the left, the
longest first, and all else reads as one word.  `lex_follows` says that the lexer finds just
the tokens that these rules give, and what that means for the characters of the line.
-/

namespace Conch.Line

/-! ## Roles of characters -/

/-- What a character does in a line. -/
inductive Role where
  /-- A quote mark that begins or ends a quoted region. -/
  | mark
  | quoted
  | blank
  | operator
  | ordinary
  deriving DecidableEq, Repr

/-- The characters of operators. -/
def isOperatorChar (c : Char) : Bool :=
  c = '|' || c = '<' || c = '>'

/-- The role of a character in a region. -/
def Region.role (region : Region) (c : Char) : Role :=
  match region with
  | .bare =>
      if c = '\'' || c = '"' then .mark
      else if Text.isBlank c then .blank
      else if isOperatorChar c then .operator
      else .ordinary
  | .single => if c = '\'' then .mark else .quoted
  | .double => if c = '"' then .mark else .quoted

/-- The region behind a character. -/
def Region.after (region : Region) (c : Char) : Region :=
  match region with
  | .bare => if c = '\'' then .single else if c = '"' then .double else .bare
  | .single => if c = '\'' then .bare else .single
  | .double => if c = '"' then .bare else .double

/-- The region behind some characters. -/
def Region.through (region : Region) (s : List Char) : Region :=
  s.foldl Region.after region

/-- A character of a line with its role. -/
structure Glyph where
  char : Char
  role : Role
  deriving DecidableEq, Repr

/-- The characters of a text with their roles, from left to right, given the region in which
the text begins. -/
def glyphs : Region → List Char → List Glyph
  | _, [] => []
  | region, c :: rest => ⟨c, region.role c⟩ :: glyphs (region.after c) rest

/-- The characters that tokens are made of: all but quote marks and blanks. -/
def kept (line : List Glyph) : List Char :=
  (line.filter fun glyph => glyph.role ≠ .mark && glyph.role ≠ .blank).map Glyph.char

/-! ## Blocks -/

/-- What characters are part of. -/
inductive Matter where
  | gap
  | operators
  | word
  deriving DecidableEq, Repr

/-- What a character is part of. -/
def Glyph.matter (glyph : Glyph) : Matter :=
  match glyph.role with
  | .blank => .gap
  | .operator => .operators
  | .mark | .quoted | .ordinary => .word

/-- A line falls into blocks: together they are the line, none is empty, each consists of one
matter, and no two neighbours of the same, so that none can be longer. -/
structure FallsInto (line : List Glyph) (blocks : List (List Glyph)) : Prop where
  whole : blocks.flatten = line
  filled : [] ∉ blocks
  uniform : ∀ block ∈ blocks, ∀ a ∈ block, ∀ b ∈ block, a.matter = b.matter
  maximal : blocks.IsChain fun block next => ∀ a ∈ block, ∀ b ∈ next, a.matter ≠ b.matter

/-- The operators. -/
def operators : List Token :=
  [.append, .heredoc, .pipe, .input, .output]

/-- Of all operators that a text begins with, one is the longest, with `rest` behind it. -/
def IsLongest (operator : Token) (rest : List Char) : Prop :=
  ∀ other ∈ operators, other.text.toList <+: operator.text.toList ++ rest →
    other.text.toList.length ≤ operator.text.toList.length

/-- A run of operator characters as the operators that are bitten off from the left, each of
them the longest that is there. -/
inductive Bites : List Char → List Token → Prop
  | nil : Bites [] []
  | bite {operator : Token} {rest : List Char} {tokens : List Token}
      (hoperator : operator ∈ operators) (hlongest : IsLongest operator rest)
      (hrest : Bites rest tokens) :
      Bites (operator.text.toList ++ rest) (operator :: tokens)

/-- The tokens that a block reads as. -/
inductive Reads (block : List Glyph) : List Token → Prop
  | gap (hall : ∀ glyph ∈ block, glyph.matter = .gap) : Reads block []
  | operators {tokens : List Token} (hall : ∀ glyph ∈ block, glyph.matter = .operators)
      (hbites : Bites (block.map Glyph.char) tokens) : Reads block tokens
  | word (hall : ∀ glyph ∈ block, glyph.matter = .word) :
      Reads block [.word (String.ofList (kept block))]

/-- The tokens of a line by the rules: its blocks in order, each as it reads. -/
def Follows (line : List Char) (tokens : List Token) : Prop :=
  ∃ blocks readings, FallsInto (glyphs .bare line) blocks ∧
    List.Forall₂ Reads blocks readings ∧ tokens = readings.flatten

/-! ## Roles along a line -/

@[simp] theorem glyphs_nil (region : Region) : glyphs region [] = [] :=
  rfl

@[simp] theorem through_cons (region : Region) (c : Char) (rest : List Char) :
    region.through (c :: rest) = (region.after c).through rest :=
  rfl

theorem through_append (region : Region) (s t : List Char) :
    region.through (s ++ t) = (region.through s).through t :=
  List.foldl_append

theorem map_char_glyphs (region : Region) (s : List Char) :
    (glyphs region s).map Glyph.char = s := by
  induction s generalizing region with
  | nil => rfl
  | cons c rest ih => simp [glyphs, ih]

/-- Where the characters with their roles are cut, the text is cut. -/
theorem exists_of_glyphs_eq_append {region : Region} {line : List Char} {left right : List Glyph}
    (h : glyphs region line = left ++ right) :
    ∃ s t, line = s ++ t ∧ glyphs region s = left ∧ glyphs (region.through s) t = right := by
  induction left generalizing region line with
  | nil => exact ⟨[], line, rfl, rfl, h⟩
  | cons glyph left ih =>
      cases line with
      | nil => simp at h
      | cons c rest =>
          obtain ⟨hglyph, hrest⟩ := List.cons.inj h
          obtain ⟨s, t, rfl, hleft, hright⟩ := ih hrest
          exact ⟨c :: s, t, rfl, by rw [glyphs, hglyph, hleft], hright⟩

/-- The roles that a character can have outside quotes. -/
theorem bare_role_cases (c : Char) :
    (c = '\'' ∨ c = '"') ∧ Region.bare.role c = .mark ∨
      Text.isBlank c = true ∧ Region.bare.role c = .blank ∨
      (c = '|' ∨ c = '<' ∨ c = '>') ∧ Region.bare.role c = .operator ∨
      IsOrdinary c ∧ Region.bare.role c = .ordinary := by
  by_cases hmark : c = '\'' ∨ c = '"'
  · exact .inl ⟨hmark, by simp [Region.role, hmark]⟩
  refine .inr ?_
  cases hblank : Text.isBlank c with
  | true => exact .inl ⟨rfl, by simp [Region.role, hmark, hblank]⟩
  | false =>
      refine .inr ?_
      by_cases hoperator : c = '|' ∨ c = '<' ∨ c = '>'
      · exact .inl ⟨hoperator, by simp [Region.role, hmark, hblank, isOperatorChar, hoperator,
          or_assoc]⟩
      · have hrole : Region.bare.role c = .ordinary := by
          simp [Region.role, hmark, hblank, isOperatorChar, hoperator, or_assoc]
        push Not at hmark hoperator
        exact .inr ⟨⟨hblank, hmark.1, hmark.2, hoperator.1, hoperator.2.1, hoperator.2.2⟩, hrole⟩

/-- Inside a quoted region everything belongs to a word. -/
theorem matter_of_quoted {region : Region} (h : region ≠ .bare) (c : Char) :
    (⟨c, region.role c⟩ : Glyph).matter = .word := by
  have hrole : region.role c = .mark ∨ region.role c = .quoted := by
    cases region with
    | bare => exact absurd rfl h
    | single => by_cases hc : c = '\'' <;> simp [Region.role, hc]
    | double => by_cases hc : c = '"' <;> simp [Region.role, hc]
  rcases hrole with hrole | hrole <;> simp [Glyph.matter, hrole]

/-- A character that belongs to no word stands outside quotes, and so does the next one. -/
theorem bare_of_matter {region : Region} {c : Char}
    (h : (⟨c, region.role c⟩ : Glyph).matter ≠ .word) :
    region = .bare ∧ region.after c = .bare := by
  have hbare : region = .bare := by
    by_contra hquoted
    exact h (matter_of_quoted hquoted c)
  subst hbare
  refine ⟨rfl, ?_⟩
  have hmark : ¬ (c = '\'' ∨ c = '"') := by
    rintro (rfl | rfl) <;> exact h rfl
  push Not at hmark
  simp [Region.after, hmark]

/-- Blanks and operator characters outside quotes leave the line outside quotes. -/
theorem through_of_matter {s : List Char}
    (h : ∀ glyph ∈ glyphs .bare s, glyph.matter ≠ .word) : Region.bare.through s = .bare := by
  induction s with
  | nil => rfl
  | cons c rest ih =>
      obtain ⟨hfirst, hlater⟩ := List.forall_mem_cons.mp h
      obtain ⟨-, hafter⟩ := bare_of_matter hfirst
      rw [hafter] at hlater
      rw [through_cons, hafter, ih hlater]

/-! ## The lexer on a block -/

/-- The word pending after a character of a word. -/
def carry (word : Option (List Char)) (glyph : Glyph) : Option (List Char) :=
  if glyph.role = .mark then opened word else extend glyph.char word

/-- One character of a word is taken into the pending word. -/
theorem scan_carry {region : Region} {c : Char}
    (h : (⟨c, region.role c⟩ : Glyph).matter = .word) (word : Option (List Char))
    (rest : List Char) :
    scan region word (c :: rest) =
      scan (region.after c) (carry word ⟨c, region.role c⟩) rest := by
  cases region with
  | single => by_cases hc : c = '\'' <;> simp [scan, carry, Region.role, Region.after, hc]
  | double => by_cases hc : c = '"' <;> simp [scan, carry, Region.role, Region.after, hc]
  | bare =>
      rcases bare_role_cases c with ⟨hc, hrole⟩ | ⟨-, hrole⟩ | ⟨-, hrole⟩ | ⟨hc, hrole⟩
      · rcases hc with rfl | rfl <;> simp [scan, carry, hrole, Region.after]
      · rw [hrole] at h
        cases h
      · rw [hrole] at h
        cases h
      · rw [scan_ordinary hc]
        simp [carry, hrole, Region.after, hc.single, hc.double]

theorem scan_word {region : Region} {s : List Char}
    (h : ∀ glyph ∈ glyphs region s, glyph.matter = .word) (word : Option (List Char))
    (t : List Char) :
    scan region word (s ++ t) =
      scan (region.through s) ((glyphs region s).foldl carry word) t := by
  induction s generalizing region word with
  | nil => rfl
  | cons c rest ih =>
      obtain ⟨hfirst, hlater⟩ := List.forall_mem_cons.mp h
      rw [List.cons_append, scan_carry hfirst, ih hlater]
      rfl

/-- The word that a block carries is the block without its quote marks. -/
theorem foldl_carry {block : List Glyph} (h : ∀ glyph ∈ block, glyph.matter = .word)
    (word : List Char) :
    block.foldl carry (some word) = some ((kept block).reverse ++ word) := by
  induction block generalizing word with
  | nil => rfl
  | cons glyph rest ih =>
      obtain ⟨hfirst, hlater⟩ := List.forall_mem_cons.mp h
      have hblank : glyph.role ≠ .blank := by
        intro hrole
        simp [Glyph.matter, hrole] at hfirst
      rw [List.foldl_cons]
      by_cases hmark : glyph.role = .mark
      · have hcarry : carry (some word) glyph = some word := by simp [carry, hmark, opened]
        rw [hcarry, ih hlater]
        simp [kept, hmark]
      · have hcarry : carry (some word) glyph = some (glyph.char :: word) := by
          simp [carry, hmark, extend]
        rw [hcarry, ih hlater]
        simp [kept, hmark, hblank]

theorem foldl_carry_none {block : List Glyph} (hsome : block ≠ [])
    (h : ∀ glyph ∈ block, glyph.matter = .word) :
    block.foldl carry none = some (kept block).reverse := by
  obtain ⟨glyph, rest, rfl⟩ := List.exists_cons_of_ne_nil hsome
  -- with a character behind it, no word pending is as good as an empty one
  have hopens : carry none glyph = carry (some []) glyph := by
    simp [carry, opened, extend]
  rw [List.foldl_cons, hopens, ← List.foldl_cons, foldl_carry h, List.append_nil]

/-! ## The lexer between words -/

theorem scan_blank {c : Char} (h : Text.isBlank c = true) (word : Option (List Char))
    (rest : List Char) : scan .bare word (c :: rest) = flush word ++ scan .bare none rest := by
  have hother : ∀ d, Text.isBlank d = false → c ≠ d := by
    rintro d hd rfl
    rw [hd] at h
    cases h
  have hsingle := hother '\'' rfl
  have hdouble := hother '"' rfl
  rw [scan]
  · simp [hsingle, hdouble, h]
  · rintro rest ⟨⟩
    exact absurd rfl (hother '>' rfl)
  · rintro rest ⟨⟩
    exact absurd rfl (hother '<' rfl)

/-- Only a doubled character is the beginning of a longer operator. -/
theorem isLongest_iff {operator : Token} (h : operator ∈ operators) (rest : List Char) :
    IsLongest operator rest ↔
      (operator = .output → rest.head? ≠ some '>') ∧
        (operator = .input → rest.head? ≠ some '<') := by
  simp only [operators, List.mem_cons, List.not_mem_nil, or_false] at h
  rcases h with rfl | rfl | rfl | rfl | rfl <;> cases rest <;>
    simp [IsLongest, operators, Token.text, eq_comm]

theorem scan_operator {operator : Token} {rest : List Char} (h : operator ∈ operators)
    (hlongest : IsLongest operator rest) (word : Option (List Char)) :
    scan .bare word (operator.text.toList ++ rest) =
      flush word ++ operator :: scan .bare none rest := by
  obtain ⟨houtput, hinput⟩ := (isLongest_iff h rest).mp hlongest
  simp only [operators, List.mem_cons, List.not_mem_nil, or_false] at h
  rcases h with rfl | rfl | rfl | rfl | rfl
  · simp [Token.text, scan]
  · simp [Token.text, scan]
  · simp [Token.text, scan, Text.isBlank]
  · have hnext := hinput rfl
    cases rest with
    | nil => simp [Token.text, scan, Text.isBlank]
    | cons d rest =>
        have hd : d ≠ '<' := by simpa using hnext
        simp [Token.text, scan, Text.isBlank, hd]
  · have hnext := houtput rfl
    cases rest with
    | nil => simp [Token.text, scan, Text.isBlank]
    | cons d rest =>
        have hd : d ≠ '>' := by simpa using hnext
        simp [Token.text, scan, Text.isBlank, hd]

/-- Where there is an operator character, there is a longest operator. -/
theorem exists_isLongest {c : Char} (h : c = '|' ∨ c = '<' ∨ c = '>') (rest : List Char) :
    ∃ operator ∈ operators, ∃ behind, c :: rest = operator.text.toList ++ behind ∧
      IsLongest operator behind := by
  have hpipe : Token.pipe ∈ operators := by decide
  have hinput : Token.input ∈ operators := by decide
  have houtput : Token.output ∈ operators := by decide
  rcases h with rfl | rfl | rfl
  · exact ⟨.pipe, hpipe, rest, rfl, (isLongest_iff hpipe rest).mpr (by simp)⟩
  · by_cases hdouble : rest.head? = some '<'
    · obtain ⟨behind, rfl⟩ : ∃ behind, rest = '<' :: behind := List.head?_eq_some_iff.mp hdouble
      have hheredoc : Token.heredoc ∈ operators := by decide
      exact ⟨.heredoc, hheredoc, behind, rfl, (isLongest_iff hheredoc behind).mpr (by simp)⟩
    · exact ⟨.input, hinput, rest, rfl, (isLongest_iff hinput rest).mpr (by simpa using hdouble)⟩
  · by_cases hdouble : rest.head? = some '>'
    · obtain ⟨behind, rfl⟩ : ∃ behind, rest = '>' :: behind := List.head?_eq_some_iff.mp hdouble
      have happend : Token.append ∈ operators := by decide
      exact ⟨.append, happend, behind, rfl, (isLongest_iff happend behind).mpr (by simp)⟩
    · exact ⟨.output, houtput, rest, rfl,
        (isLongest_iff houtput rest).mpr (by simpa using hdouble)⟩

/-- At the end of the line, and before what belongs to no word, the pending word ends. -/
theorem scan_flush {region : Region} {t : List Char}
    (h : ∀ glyph ∈ (glyphs region t).head?, glyph.matter ≠ .word) (word : Option (List Char)) :
    scan region word t = flush word ++ scan .bare none t := by
  cases t with
  | nil => simp [scan, flush]
  | cons c rest =>
      have hfirst : (⟨c, region.role c⟩ : Glyph).matter ≠ .word := h _ rfl
      obtain ⟨rfl, -⟩ := bare_of_matter hfirst
      rcases bare_role_cases c with ⟨-, hrole⟩ | ⟨hc, -⟩ | ⟨hc, -⟩ | ⟨-, hrole⟩
      · rw [hrole] at hfirst
        exact absurd rfl hfirst
      · rw [scan_blank hc, scan_blank hc none]
        rfl
      · obtain ⟨operator, hmem, behind, hline, hlongest⟩ := exists_isLongest hc rest
        rw [hline, scan_operator hmem hlongest, scan_operator hmem hlongest none]
        rfl
      · rw [hrole] at hfirst
        exact absurd rfl hfirst

theorem scan_gap {s : List Char} (h : ∀ glyph ∈ glyphs .bare s, glyph.matter = .gap)
    (t : List Char) : scan .bare none (s ++ t) = scan .bare none t := by
  induction s with
  | nil => rfl
  | cons c rest ih =>
      obtain ⟨hfirst, hlater⟩ := List.forall_mem_cons.mp h
      have hblank : Text.isBlank c = true := by
        rcases bare_role_cases c with ⟨-, hrole⟩ | ⟨hc, -⟩ | ⟨-, hrole⟩ | ⟨-, hrole⟩
        · simp [hrole, Glyph.matter] at hfirst
        · exact hc
        · simp [hrole, Glyph.matter] at hfirst
        · simp [hrole, Glyph.matter] at hfirst
      obtain ⟨-, hafter⟩ := @bare_of_matter .bare c (by rw [hfirst]; simp)
      rw [hafter] at hlater
      rw [List.cons_append, scan_blank hblank, ih hlater]
      rfl

/-- What follows an operator and cannot double it leaves it the longest. -/
theorem IsLongest.append {operator : Token} {rest t : List Char} (hmem : operator ∈ operators)
    (h : IsLongest operator rest) (hnext : ∀ c ∈ t.head?, c ≠ '<' ∧ c ≠ '>') :
    IsLongest operator (rest ++ t) := by
  rw [isLongest_iff hmem] at h ⊢
  have hhead : ∀ c, (c = '<' ∨ c = '>') → rest.head? ≠ some c → (rest ++ t).head? ≠ some c := by
    intro c hc hrest happend
    cases rest with
    | nil =>
        obtain ⟨hinput, houtput⟩ := hnext c (by simpa using happend)
        exact hc.elim hinput houtput
    | cons d rest => exact hrest (by simpa using happend)
  exact ⟨fun houtput => hhead '>' (.inr rfl) (h.1 houtput),
    fun hinput => hhead '<' (.inl rfl) (h.2 hinput)⟩

theorem scan_bites {run : List Char} {tokens : List Token} (h : Bites run tokens)
    {t : List Char} (hnext : ∀ c ∈ t.head?, isOperatorChar c = false) :
    scan .bare none (run ++ t) = tokens ++ scan .bare none t := by
  have hsingle : ∀ c ∈ t.head?, c ≠ '<' ∧ c ≠ '>' := by
    intro c hc
    have hother := hnext c hc
    constructor <;> rintro rfl <;> cases hother
  induction h with
  | nil => rfl
  | bite hmem hlongest _ ih =>
      rw [List.append_assoc, scan_operator hmem (hlongest.append hmem hsingle), ih]
      rfl

/-- Every run of operator characters can be bitten off to its end. -/
theorem exists_bites (run : List Char) (h : ∀ c ∈ run, isOperatorChar c = true) :
    ∃ tokens, Bites run tokens := by
  induction hlength : run.length using Nat.strong_induction_on generalizing run with
  | _ length ih =>
      cases run with
      | nil => exact ⟨[], .nil⟩
      | cons c rest =>
          have hc : c = '|' ∨ c = '<' ∨ c = '>' := by
            simpa [isOperatorChar, or_assoc] using h c (List.mem_cons_self ..)
          obtain ⟨operator, hmem, behind, hrun, hlongest⟩ := exists_isLongest hc rest
          have hpositive : ∀ operator ∈ operators, 0 < operator.text.toList.length := by decide
          have hshorter : behind.length < length := by
            have hsame := congrArg List.length hrun
            have hbite := hpositive operator hmem
            rw [List.length_append] at hsame
            omega
          obtain ⟨tokens, htokens⟩ := ih behind.length hshorter behind
            (fun d hd => h d (by rw [hrun]; exact List.mem_append_right _ hd)) rfl
          exact ⟨operator :: tokens, by rw [hrun]; exact .bite hmem hlongest htokens⟩

/-! ## Blocks of a line -/

theorem bare_role_eq_operator_iff (c : Char) :
    Region.bare.role c = .operator ↔ isOperatorChar c = true := by
  constructor
  · intro hrole
    rcases bare_role_cases c with ⟨-, hother⟩ | ⟨-, hother⟩ | ⟨hc, -⟩ | ⟨-, hother⟩
    · simp [hrole] at hother
    · simp [hrole] at hother
    · simpa [isOperatorChar, or_assoc] using hc
    · simp [hrole] at hother
  · intro hc
    have hcases : c = '|' ∨ c = '<' ∨ c = '>' := by
      simpa [isOperatorChar, or_assoc] using hc
    rcases hcases with rfl | rfl | rfl <;> rfl

theorem isOperatorChar_of_mem {region : Region} {line : List Char} {glyph : Glyph}
    (hmem : glyph ∈ glyphs region line) (h : glyph.matter = .operators) :
    isOperatorChar glyph.char = true := by
  induction line generalizing region with
  | nil => cases hmem
  | cons c rest ih =>
      rcases List.mem_cons.mp hmem with rfl | hlater
      · obtain ⟨rfl, -⟩ := bare_of_matter (h.trans_ne (by decide))
        rcases bare_role_cases c with ⟨-, hrole⟩ | ⟨-, hrole⟩ | ⟨-, hrole⟩ | ⟨-, hrole⟩
        · simp [Glyph.matter, hrole] at h
        · simp [Glyph.matter, hrole] at h
        · exact (bare_role_eq_operator_iff c).mp hrole
        · simp [Glyph.matter, hrole] at h
      · exact ih hlater

/-- What stands at the head of the line behind a block is of another matter. -/
theorem FallsInto.head_ne {line : List Glyph} {block : List Glyph} {later : List (List Glyph)}
    (h : FallsInto line (block :: later)) :
    ∀ next ∈ later.flatten.head?, ∀ glyph ∈ block, glyph.matter ≠ next.matter := by
  intro next hnext glyph hglyph
  cases later with
  | nil => cases hnext
  | cons second others =>
      obtain ⟨first, rest, rfl⟩ : ∃ first rest, second = first :: rest := by
        refine List.exists_cons_of_ne_nil ?_
        rintro rfl
        exact h.filled (by simp)
      have hfirst : first = next := by simpa using hnext
      subst hfirst
      exact (List.isChain_cons_cons.mp h.maximal).1 glyph hglyph first (List.mem_cons_self ..)

theorem FallsInto.tail {line : List Glyph} {block : List Glyph} {later : List (List Glyph)}
    (h : FallsInto line (block :: later)) : FallsInto later.flatten later where
  whole := rfl
  filled := fun hmem => h.filled (List.mem_cons_of_mem _ hmem)
  uniform := fun other hmem => h.uniform other (List.mem_cons_of_mem _ hmem)
  maximal := h.maximal.of_cons

theorem FallsInto.ne_nil {line : List Glyph} {block : List Glyph} {later : List (List Glyph)}
    (h : FallsInto line (block :: later)) : block ≠ [] := by
  rintro rfl
  exact h.filled (List.mem_cons_self ..)

/-- The longest pieces of one matter are the blocks of a line. -/
theorem fallsInto_splitBy (line : List Glyph) :
    FallsInto line (line.splitBy fun a b => a.matter = b.matter) := by
  have huniform : ∀ block ∈ line.splitBy fun a b => a.matter = b.matter,
      ∀ a ∈ block, ∀ b ∈ block, a.matter = b.matter := by
    intro block hmem
    have hchain : block.IsChain fun a b => a.matter = b.matter := by
      simpa using List.isChain_of_mem_splitBy hmem
    have hpairs : block.Pairwise fun a b => a.matter = b.matter := by
      let _ : Trans (fun a b : Glyph => a.matter = b.matter)
        (fun a b : Glyph => a.matter = b.matter) (fun a b : Glyph => a.matter = b.matter) :=
        ⟨Eq.trans⟩
      exact hchain.pairwise
    have hflipped : block.Pairwise (flip fun a b => a.matter = b.matter) :=
      hpairs.imp fun h => h.symm
    intro a ha b hb
    exact List.Pairwise.forall_of_forall_of_flip (R := fun a b : Glyph => a.matter = b.matter)
      (fun _ _ => rfl) hpairs hflipped ha hb
  refine ⟨List.flatten_splitBy _ line, List.nil_notMem_splitBy _ line, huniform, ?_⟩
  refine (List.isChain_getLast_head_splitBy _ line).imp_of_mem_imp ?_
  intro block next hblock hnext hbreak a ha b hb
  obtain ⟨hfilled, hfilled', hdiffer⟩ := hbreak
  -- the block is as its last character is, and the next block as its first one
  have hlast := huniform block hblock a ha _ (List.getLast_mem hfilled)
  have hfirst := huniform next hnext b hb _ (List.head_mem hfilled')
  rw [hlast, hfirst]
  simpa using hdiffer

/-- Every block of a line reads as some tokens. -/
theorem exists_reads {line : List Char} {block : List Glyph} (hline : block ⊆ glyphs .bare line)
    (hfilled : block ≠ []) (huniform : ∀ a ∈ block, ∀ b ∈ block, a.matter = b.matter) :
    ∃ reading, Reads block reading := by
  obtain ⟨first, rest, rfl⟩ := List.exists_cons_of_ne_nil hfilled
  have hall : ∀ glyph ∈ first :: rest, glyph.matter = first.matter :=
    fun glyph hmem => huniform glyph hmem first (List.mem_cons_self ..)
  cases hmatter : first.matter with
  | gap => exact ⟨[], .gap fun glyph hmem => (hall glyph hmem).trans hmatter⟩
  | word => exact ⟨_, .word fun glyph hmem => (hall glyph hmem).trans hmatter⟩
  | operators =>
      have hoperators : ∀ glyph ∈ first :: rest, glyph.matter = .operators :=
        fun glyph hmem => (hall glyph hmem).trans hmatter
      have hchars : ∀ c ∈ (first :: rest).map Glyph.char, isOperatorChar c = true := by
        intro c hc
        obtain ⟨glyph, hmem, rfl⟩ := List.mem_map.mp hc
        exact isOperatorChar_of_mem (hline hmem) (hoperators glyph hmem)
      obtain ⟨tokens, hbites⟩ := exists_bites _ hchars
      exact ⟨tokens, .operators hoperators hbites⟩

theorem exists_readings {line : List Char} {blocks : List (List Glyph)}
    (hline : blocks.flatten ⊆ glyphs .bare line) (hfilled : [] ∉ blocks)
    (huniform : ∀ block ∈ blocks, ∀ a ∈ block, ∀ b ∈ block, a.matter = b.matter) :
    ∃ readings, List.Forall₂ Reads blocks readings := by
  induction blocks with
  | nil => exact ⟨[], .nil⟩
  | cons block later ih =>
      rw [List.flatten_cons, List.append_subset] at hline
      rw [List.mem_cons, not_or] at hfilled
      rw [List.forall_mem_cons] at huniform
      obtain ⟨readings, hreadings⟩ := ih hline.2 hfilled.2 huniform.2
      obtain ⟨reading, hreading⟩ := exists_reads hline.1 (Ne.symm hfilled.1) huniform.1
      exact ⟨reading :: readings, .cons hreading hreadings⟩

/-- There are tokens by the rules for every line. -/
theorem exists_follows (line : List Char) : ∃ tokens, Follows line tokens := by
  have hfalls := fallsInto_splitBy (glyphs .bare line)
  have hline : ((glyphs .bare line).splitBy fun a b => a.matter = b.matter).flatten ⊆
      glyphs .bare line := by
    rw [hfalls.whole]
    exact List.Subset.refl _
  obtain ⟨readings, hreadings⟩ := exists_readings hline hfalls.filled hfalls.uniform
  exact ⟨readings.flatten, _, readings, hfalls, hreadings, rfl⟩

/-- What belongs to no word reads outside quotes as it stands. -/
theorem glyphs_eq_bare {region : Region} {t : List Char}
    (h : ∀ next ∈ (glyphs region t).head?, next.matter ≠ .word) :
    glyphs region t = glyphs .bare t := by
  cases t with
  | nil => rfl
  | cons c rest =>
      obtain ⟨rfl, -⟩ := bare_of_matter (h _ rfl)
      rfl

/-- The run of operator characters that a block is ends with the block. -/
theorem not_operator_of_head {t : List Char} {block : List Glyph} (hfilled : block ≠ [])
    (hall : ∀ glyph ∈ block, glyph.matter = .operators)
    (hnext : ∀ next ∈ (glyphs .bare t).head?, ∀ glyph ∈ block, glyph.matter ≠ next.matter) :
    ∀ c ∈ t.head?, isOperatorChar c = false := by
  intro c hc
  obtain ⟨rest, rfl⟩ := List.head?_eq_some_iff.mp hc
  obtain ⟨glyph, others, rfl⟩ := List.exists_cons_of_ne_nil hfilled
  have hfirst : glyph ∈ glyph :: others := List.mem_cons_self ..
  rw [Bool.eq_false_iff]
  intro hoperator
  have hrole := (bare_role_eq_operator_iff c).mpr hoperator
  have hmatter : (⟨c, Region.bare.role c⟩ : Glyph).matter = .operators := by
    simp [Glyph.matter, hrole]
  exact hnext _ rfl glyph hfirst ((hall glyph hfirst).trans hmatter.symm)

/-- The lexer finds the tokens block by block. -/
theorem lex_of_fallsInto {line : List Char} {blocks : List (List Glyph)}
    {readings : List (List Token)} (hreads : List.Forall₂ Reads blocks readings)
    (hfalls : FallsInto (glyphs .bare line) blocks) : lex line = readings.flatten := by
  induction hreads generalizing line with
  | nil =>
      have hempty : line = [] := by
        rw [← map_char_glyphs .bare line, ← hfalls.whole]
        rfl
      rw [hempty]
      rfl
  | @cons block reading later readings hreading _ ih =>
      have hcut : glyphs .bare line = block ++ later.flatten := by
        rw [← hfalls.whole, List.flatten_cons]
      obtain ⟨s, t, rfl, hblock, hlater⟩ := exists_of_glyphs_eq_append hcut
      have hnext : ∀ next ∈ (glyphs (Region.bare.through s) t).head?,
          ∀ glyph ∈ block, glyph.matter ≠ next.matter := by
        rw [hlater]
        exact hfalls.head_ne
      -- whatever the block is, the rest of the line is read as a line of its own
      have hrest : glyphs (Region.bare.through s) t = glyphs .bare t →
          scan .bare none t = readings.flatten := by
        intro hbare
        refine ih ?_
        rw [← hbare, hlater]
        exact hfalls.tail
      show scan .bare none (s ++ t) = reading ++ readings.flatten
      cases hreading with
      | gap hall =>
          have hthrough : Region.bare.through s = .bare :=
            through_of_matter fun glyph hmem => by simp [hall glyph (hblock ▸ hmem)]
          rw [scan_gap (by rw [hblock]; exact hall), hrest (by rw [hthrough])]
          rfl
      | operators hall hbites =>
          have hthrough : Region.bare.through s = .bare :=
            through_of_matter fun glyph hmem => by simp [hall glyph (hblock ▸ hmem)]
          have hend : ∀ c ∈ t.head?, isOperatorChar c = false :=
            not_operator_of_head hfalls.ne_nil hall (by rw [← hthrough]; exact hnext)
          rw [← hblock, map_char_glyphs] at hbites
          rw [scan_bites hbites hend, hrest (by rw [hthrough])]
      | word hall =>
          have hend : ∀ next ∈ (glyphs (Region.bare.through s) t).head?, next.matter ≠ .word := by
            intro next hmem hword
            obtain ⟨glyph, others, rfl⟩ := List.exists_cons_of_ne_nil hfalls.ne_nil
            have hfirst : glyph ∈ glyph :: others := List.mem_cons_self ..
            exact hnext next hmem glyph hfirst ((hall glyph hfirst).trans hword.symm)
          rw [scan_word (by rw [hblock]; exact hall), hblock,
            foldl_carry_none hfalls.ne_nil hall, scan_flush hend, hrest (glyphs_eq_bare hend)]
          simp [flush]

/-- **The tokens by the rules**: the lexer finds them, and there are no others. -/
theorem follows_iff (line : List Char) (tokens : List Token) :
    Follows line tokens ↔ tokens = lex line := by
  have hlex : ∀ tokens, Follows line tokens → tokens = lex line := by
    rintro tokens ⟨blocks, readings, hfalls, hreads, rfl⟩
    exact (lex_of_fallsInto hreads hfalls).symm
  constructor
  · exact hlex tokens
  · rintro rfl
    obtain ⟨tokens, hfollows⟩ := exists_follows line
    rw [← hlex tokens hfollows]
    exact hfollows

/-! ## The characters of the tokens -/

/-- The characters of tokens, in order. -/
def spelt (tokens : List Token) : List Char :=
  tokens.flatMap fun token => token.text.toList

@[simp] theorem spelt_nil : spelt [] = [] :=
  rfl

@[simp] theorem spelt_cons (token : Token) (tokens : List Token) :
    spelt (token :: tokens) = token.text.toList ++ spelt tokens :=
  rfl

@[simp] theorem spelt_append (tokens more : List Token) :
    spelt (tokens ++ more) = spelt tokens ++ spelt more :=
  List.flatMap_append

@[simp] theorem kept_append (line more : List Glyph) :
    kept (line ++ more) = kept line ++ kept more := by
  simp [kept]

theorem Bites.spelt_eq {run : List Char} {tokens : List Token} (h : Bites run tokens) :
    spelt tokens = run := by
  induction h with
  | nil => rfl
  | bite _ _ _ ih => rw [spelt_cons, ih]

theorem Bites.mem_operators {run : List Char} {tokens : List Token} (h : Bites run tokens) :
    ∀ token ∈ tokens, token ∈ operators := by
  induction h with
  | nil => simp
  | bite hoperator _ _ ih => exact List.forall_mem_cons.mpr ⟨hoperator, ih⟩

theorem kept_of_gap {block : List Glyph} (h : ∀ glyph ∈ block, glyph.matter = .gap) :
    kept block = [] := by
  have hblank : ∀ glyph ∈ block, glyph.role = .blank := by
    intro glyph hmem
    have hmatter := h glyph hmem
    revert hmatter
    cases hrole : glyph.role <;> simp [Glyph.matter, hrole]
  simp only [kept, List.map_eq_nil_iff, List.filter_eq_nil_iff]
  intro glyph hmem
  simp [hblank glyph hmem]

theorem kept_of_operators {block : List Glyph}
    (h : ∀ glyph ∈ block, glyph.matter = .operators) : kept block = block.map Glyph.char := by
  have hall : block.filter (fun glyph => glyph.role ≠ .mark && glyph.role ≠ .blank) = block := by
    refine List.filter_eq_self.mpr fun glyph hmem => ?_
    have hmatter := h glyph hmem
    revert hmatter
    cases hrole : glyph.role <;> simp [Glyph.matter, hrole]
  rw [kept, hall]

theorem Reads.spelt_eq {block : List Glyph} {reading : List Token} (h : Reads block reading) :
    spelt reading = kept block := by
  cases h with
  | gap hall => rw [kept_of_gap hall, spelt_nil]
  | operators hall hbites => rw [kept_of_operators hall, hbites.spelt_eq]
  | word hall => simp [Token.text]

theorem spelt_readings {blocks : List (List Glyph)} {readings : List (List Token)}
    (h : List.Forall₂ Reads blocks readings) : spelt readings.flatten = kept blocks.flatten := by
  induction h with
  | nil => rfl
  | cons hreading _ ih =>
      rw [List.flatten_cons, List.flatten_cons, spelt_append, kept_append, hreading.spelt_eq, ih]

/-- A block with a quoted character reads as the one word that it is part of. -/
theorem Reads.eq_word {block : List Glyph} {reading : List Token} (h : Reads block reading)
    {glyph : Glyph} (hmem : glyph ∈ block) (hquoted : glyph.role = .quoted) :
    reading = [.word (String.ofList (kept block))] := by
  have hword : glyph.matter = .word := by simp [Glyph.matter, hquoted]
  cases h with
  | gap hall => simp [hall glyph hmem] at hword
  | operators hall _ => simp [hall glyph hmem] at hword
  | word => rfl

/-- An empty word stands for quote marks with nothing between them. -/
theorem Reads.marks {block : List Glyph} {reading : List Token} (h : Reads block reading)
    (hmem : Token.word "" ∈ reading) : ∀ glyph ∈ block, glyph.role = .mark := by
  cases h with
  | gap => cases hmem
  | operators hall hbites =>
      exact absurd (hbites.mem_operators _ hmem) (by decide)
  | word hall =>
      have hkept : kept block = [] := by
        have htext : "" = String.ofList (kept block) := by simpa using hmem
        simpa using congrArg String.toList htext.symm
      simp only [kept, List.map_eq_nil_iff, List.filter_eq_nil_iff] at hkept
      intro glyph hglyph
      have hmatter := hall glyph hglyph
      have hdropped := hkept glyph hglyph
      revert hmatter hdropped
      cases hrole : glyph.role <;> simp [Glyph.matter, hrole]

theorem Reads.uniform {block : List Glyph} {reading : List Token} (h : Reads block reading)
    {a b : Glyph} (ha : a ∈ block) (hb : b ∈ block) : a.matter = b.matter := by
  cases h with
  | gap hall => rw [hall a ha, hall b hb]
  | operators hall _ => rw [hall a ha, hall b hb]
  | word hall => rw [hall a ha, hall b hb]

/-- A token comes from a block, and no neighbour of the block could be part of it. -/
theorem exists_block_of_mem {line : List Glyph} {blocks : List (List Glyph)}
    {readings : List (List Token)} (hreads : List.Forall₂ Reads blocks readings)
    (hfalls : FallsInto line blocks) {token : Token} (hmem : token ∈ readings.flatten) :
    ∃ before block after reading, line = before ++ block ++ after ∧ block ≠ [] ∧
      (∀ last ∈ before.getLast?, ∀ glyph ∈ block, last.matter ≠ glyph.matter) ∧
      (∀ next ∈ after.head?, ∀ glyph ∈ block, glyph.matter ≠ next.matter) ∧
      Reads block reading ∧ token ∈ reading := by
  induction hreads generalizing line with
  | nil => cases hmem
  | @cons block reading later readings hreading _ ih =>
      rcases List.mem_append.mp hmem with hhere | hlater
      · refine ⟨[], block, later.flatten, reading, ?_, hfalls.ne_nil, ?_, hfalls.head_ne,
          hreading, hhere⟩
        · rw [← hfalls.whole, List.flatten_cons, List.nil_append]
        · rintro last ⟨⟩
      · obtain ⟨before, found, after, reading', hwhole, hfilled, hbefore, hafter, hfound,
          htoken⟩ := ih hfalls.tail hlater
        refine ⟨block ++ before, found, after, reading', ?_, hfilled, ?_, hafter, hfound,
          htoken⟩
        · rw [← hfalls.whole, List.flatten_cons, hwhole]
          simp
        · intro last hlast glyph hglyph
          cases before with
          | cons first rest => exact hbefore last (by simpa using hlast) glyph hglyph
          | nil =>
              -- the block found is the next one, and like its own head
              obtain ⟨first, others, rfl⟩ := List.exists_cons_of_ne_nil hfilled
              have hhead : first ∈ later.flatten.head? := by simp [hwhole]
              have hend : last ∈ block := List.mem_of_getLast? (by simpa using hlast)
              rw [hfound.uniform hglyph (List.mem_cons_self ..)]
              exact hfalls.head_ne first hhead last hend

/-- A quoted character stands in the text of a word, behind and before the same characters as
in the line. -/
theorem quoted_in_word {blocks : List (List Glyph)} {readings : List (List Token)}
    (hreads : List.Forall₂ Reads blocks readings) {before after : List Glyph} {glyph : Glyph}
    (hwhole : blocks.flatten = before ++ glyph :: after) (hquoted : glyph.role = .quoted) :
    ∃ earlier left right later,
      readings.flatten = earlier ++ .word (String.ofList (left ++ glyph.char :: right)) :: later ∧
        spelt earlier ++ left = kept before ∧ right ++ spelt later = kept after := by
  induction hreads generalizing before with
  | nil => simp at hwhole
  | @cons block reading blocks readings hreading hlater ih =>
      rw [List.flatten_cons] at hwhole ⊢
      -- the character stands behind the block, or in it
      have hcut : (∃ between, before = block ++ between ∧
            blocks.flatten = between ++ glyph :: after) ∨
          ∃ rest, block = before ++ glyph :: rest ∧ after = rest ++ blocks.flatten := by
        rcases List.append_eq_append_iff.mp hwhole with
          ⟨between, hbefore, hrest⟩ | ⟨rest, hblock, hafter⟩
        · exact .inl ⟨between, hbefore, hrest⟩
        · cases rest with
          | nil => exact .inl ⟨[], by simpa using hblock.symm, by simpa using hafter.symm⟩
          | cons first rest =>
              obtain ⟨rfl, rfl⟩ := List.cons.inj hafter
              exact .inr ⟨rest, hblock, rfl⟩
      rcases hcut with ⟨between, rfl, hrest⟩ | ⟨rest, rfl, rfl⟩
      · obtain ⟨earlier, left, right, later, hreadings, hleft, hright⟩ := ih hrest
        refine ⟨reading ++ earlier, left, right, later, ?_, ?_, hright⟩
        · rw [hreadings, List.append_assoc]
        · rw [kept_append, spelt_append, List.append_assoc, hleft, hreading.spelt_eq]
      · have hmem : glyph ∈ before ++ glyph :: rest := by simp
        have hword := hreading.eq_word hmem hquoted
        have hkept : kept (before ++ glyph :: rest) = kept before ++ glyph.char :: kept rest := by
          simp [kept, hquoted]
        refine ⟨[], kept before, kept rest, readings.flatten, ?_, ?_, ?_⟩
        · rw [hword, hkept]
          rfl
        · rw [spelt_nil, List.nil_append]
        · rw [spelt_readings hlater, kept_append]

/-- **What the lexer recognises.**  The tokens of a line are the ones that the rules give, and
the rules give no others.  So, written one after another, they are the line without its quote
marks and blanks outside quotes; an empty word stands for a piece of the line that consists of
quote marks alone; and a character in quotes stands in the text of one word, with the same
characters behind it and before it as in the line. -/
theorem lex_follows (line : List Char) :
    (∀ tokens, Follows line tokens ↔ tokens = lex line) ∧
      spelt (lex line) = kept (glyphs .bare line) ∧
      (.word "" ∈ lex line →
        ∃ before marks after, glyphs .bare line = before ++ marks ++ after ∧ marks ≠ [] ∧
          (∀ glyph ∈ marks, glyph.role = .mark) ∧
          (∀ last ∈ before.getLast?, last.matter ≠ .word) ∧
          ∀ next ∈ after.head?, next.matter ≠ .word) ∧
      ∀ before glyph after, glyphs .bare line = before ++ glyph :: after → glyph.role = .quoted →
        ∃ earlier left right later,
          lex line = earlier ++ .word (String.ofList (left ++ glyph.char :: right)) :: later ∧
            spelt earlier ++ left = kept before ∧ right ++ spelt later = kept after := by
  obtain ⟨blocks, readings, hfalls, hreads, hlex⟩ := (follows_iff line (lex line)).mpr rfl
  refine ⟨follows_iff line, ?_, ?_, ?_⟩
  · rw [hlex, spelt_readings hreads, hfalls.whole]
  · intro hempty
    rw [hlex] at hempty
    obtain ⟨before, marks, after, reading, hwhole, hfilled, hbefore, hafter, hreading, htoken⟩ :=
      exists_block_of_mem hreads hfalls hempty
    have hmarks := hreading.marks htoken
    obtain ⟨mark, others, rfl⟩ := List.exists_cons_of_ne_nil hfilled
    have hfirst : mark ∈ mark :: others := List.mem_cons_self ..
    have hword : mark.matter = .word := by simp [Glyph.matter, hmarks mark hfirst]
    refine ⟨before, mark :: others, after, hwhole, hfilled, hmarks, ?_, ?_⟩
    · intro last hlast
      rw [← hword]
      exact hbefore last hlast mark hfirst
    · intro next hnext
      rw [← hword]
      exact (hafter next hnext mark hfirst).symm
  · intro before glyph after hwhole hquoted
    rw [hlex]
    exact quoted_in_word hreads (hfalls.whole.trans hwhole) hquoted

/-- Operators touch words and each other, and a quote that is not closed runs to the end. -/
example : lex "a'|'b>>><\"\"''|' c".toList =
    [.word "a|b", .append, .output, .input, .word "", .pipe, .word " c"] := by
  decide +kernel

end Conch.Line
