import Conch.Line.Quoting

/-!
# Quoted words

A quoted word is a sequence of chunks: plain characters as they are, text without single
quotes and backslashes in single quotes, and any text in double quotes, where some
characters get a backslash before them.  `Written` says just that, and everything else is
read off it.  The lexer knows no backslashes.  So a quoted word without backslashes is read
back as it was, and one with backslashes holds too many of them.
-/

namespace Conch.Line

/-! ## Plain characters -/

/-- A character that the lexer adds to a word when it stands outside quotes. -/
structure IsOrdinary (c : Char) : Prop where
  blank : Text.isBlank c = false
  single : c ≠ '\''
  double : c ≠ '"'
  pipe : c ≠ '|'
  input : c ≠ '<'
  output : c ≠ '>'

theorem isBlank_of_isLetterOrDigit {c : Char} (h : Text.isLetterOrDigit c = true) :
    Text.isBlank c = false := by
  simp only [Text.isLetterOrDigit, Text.isLetter, Text.isDigit, Bool.or_eq_true, Bool.and_eq_true,
    decide_eq_true_eq, Char.le_def, UInt32.le_iff_toNat_le] at h
  have hrange : (48 ≤ c.toNat ∧ c.toNat ≤ 57) ∨ (65 ≤ c.toNat ∧ c.toNat ≤ 90) ∨
      (97 ≤ c.toNat ∧ c.toNat ≤ 122) := by
    rcases h with (h | h) | h
    · exact .inr (.inr h)
    · exact .inr (.inl h)
    · exact .inl h
  simp only [Text.isBlank, Bool.or_eq_false_iff, Bool.and_eq_false_iff, decide_eq_false_iff_not,
    beq_eq_false_iff_ne]
  omega

theorem isPlain_cases {c : Char} (h : isPlain c = true) :
    Text.isLetterOrDigit c = true ∨ c ∈ ['+', '-', '.', '/', ':', '@', ']', '_'] := by
  simpa [isPlain] using h

theorem isOrdinary_of_isPlain {c : Char} (h : isPlain c = true) : IsOrdinary c where
  blank := by
    rcases isPlain_cases h with hletter | hmem
    · exact isBlank_of_isLetterOrDigit hletter
    · simp only [List.mem_cons, List.not_mem_nil, or_false] at hmem
      rcases hmem with rfl | rfl | rfl | rfl | rfl | rfl | rfl | rfl <;> rfl
  single := by rintro rfl; revert h; decide
  double := by rintro rfl; revert h; decide
  pipe := by rintro rfl; revert h; decide
  input := by rintro rfl; revert h; decide
  output := by rintro rfl; revert h; decide

/-! ## Chunks -/

/-- How words are written: chunk by chunk, each in one of three ways. -/
inductive Written : List Char → List Char → Prop
  /-- Plain characters stand for themselves. -/
  | bare {chunk : List Char} (hsome : chunk ≠ []) (hplain : ∀ c ∈ chunk, isPlain c = true) :
      Written chunk chunk
  /-- Single quotes are around text without single quotes and backslashes. -/
  | single {chunk : List Char} (hquote : '\'' ∉ chunk) (hslash : '\\' ∉ chunk) :
      Written chunk ('\'' :: chunk ++ ['\''])
  | double (chunk : List Char) : Written chunk ('"' :: escapeDouble chunk ++ ['"'])
  | append {first later firstText laterText : List Char} (hfirst : Written first firstText)
      (hlater : Written later laterText) : Written (first ++ later) (firstText ++ laterText)

theorem takeCovered_append (ways : Ways) (s : List Char) :
    (takeCovered ways s).1 ++ (takeCovered ways s).2.2 = s := by
  induction s generalizing ways with
  | nil => rfl
  | cons c rest ih =>
      simp only [takeCovered]
      split
      · simp [ih]
      · rfl

/-- The ways that cover a chunk cover all of its characters. -/
theorem takeCovered_covers (ways : Ways) (s : List Char) :
    ((takeCovered ways s).2.1.bare = true →
      ways.bare = true ∧ ∀ c ∈ (takeCovered ways s).1, isPlain c = true) ∧
    ((takeCovered ways s).2.1.single = true →
      ways.single = true ∧ '\'' ∉ (takeCovered ways s).1 ∧ '\\' ∉ (takeCovered ways s).1) := by
  induction s generalizing ways with
  | nil => simp [takeCovered]
  | cons c rest ih =>
      simp only [takeCovered]
      split
      · obtain ⟨hbare, hsingle⟩ := ih (ways.both (Ways.ofChar c))
        constructor
        · intro h
          obtain ⟨hboth, hrest⟩ := hbare h
          obtain ⟨hways, hplain⟩ : ways.bare = true ∧ isPlain c = true := by
            simpa [Ways.both, Ways.ofChar] using hboth
          exact ⟨hways, List.forall_mem_cons.mpr ⟨hplain, hrest⟩⟩
        · intro h
          obtain ⟨hboth, hquote, hslash⟩ := hsingle h
          obtain ⟨hways, hc⟩ : ways.single = true ∧ ¬ (c = '\'' ∨ c = '^' ∨ c = '\\') := by
            simpa [Ways.both, Ways.ofChar] using hboth
          refine ⟨hways, List.not_mem_cons_of_ne_of_not_mem ?_ hquote,
            List.not_mem_cons_of_ne_of_not_mem ?_ hslash⟩
          · rintro rfl
            exact hc (.inl rfl)
          · rintro rfl
            exact hc (.inr (.inr rfl))
      · simp

theorem takeChunk_append (c : Char) (rest : List Char) :
    (takeChunk c rest).1 ++ (takeChunk c rest).2.2 = c :: rest := by
  simp [takeChunk, takeCovered_append]

theorem written_takeChunk (c : Char) (rest : List Char) :
    Written (takeChunk c rest).1 (writeChunk (takeChunk c rest).2.1 (takeChunk c rest).1) := by
  obtain ⟨hbare, hsingle⟩ :=
    takeCovered_covers (if c = '^' then ⟨false, true, false⟩ else Ways.ofChar c) rest
  unfold writeChunk
  split
  · next h =>
      obtain ⟨hways, hrest⟩ := hbare h
      -- a caret is not written bare
      have hc : isPlain c = true := by
        split at hways
        · cases hways
        · exact hways
      exact .bare (List.cons_ne_nil _ _) (List.forall_mem_cons.mpr ⟨hc, hrest⟩)
  · split
    · next h =>
        obtain ⟨hways, hquote, hslash⟩ := hsingle h
        have hc : c ≠ '\'' ∧ c ≠ '\\' := by
          split at hways
          · next hcaret => subst hcaret; decide
          · constructor <;> (rintro rfl; revert hways; decide)
        exact .single (List.not_mem_cons_of_ne_of_not_mem hc.1.symm hquote)
          (List.not_mem_cons_of_ne_of_not_mem hc.2.symm hslash)
    · exact .double _

theorem written_writeChunks (s : List Char) (hsome : s ≠ []) : Written s (writeChunks s) := by
  induction s using writeChunks.induct with
  | case1 => exact absurd rfl hsome
  | case2 c rest chunk ih =>
      have happend := takeChunk_append c rest
      have hchunk := written_takeChunk c rest
      rw [writeChunks]
      by_cases hlast : (takeChunk c rest).2.2 = []
      · rw [hlast, List.append_nil] at happend
        rw [hlast, writeChunks, List.append_nil, ← happend]
        exact happend ▸ hchunk
      · exact happend ▸ hchunk.append (ih hlast)

/-- Every word is written in chunks. -/
theorem written_quoteWord (word : List Char) : Written word (quoteWord word) := by
  unfold quoteWord
  split
  · next hempty =>
      rw [List.isEmpty_iff.mp hempty]
      exact .single (by simp) (by simp)
  · next hsome => exact written_writeChunks word (by simpa using hsome)

/-! ## The ends of a quoted word -/

/-- A text that trimming leaves as it is, and that does not end in `&`. -/
structure IsTight (text : List Char) : Prop where
  start : ∃ c rest, text = c :: rest ∧ Text.isBlank c = false
  stop : ∃ init c, text = init ++ [c] ∧ Text.isBlank c = false ∧ c ≠ '&'

/-- Only the ends of a text count. -/
theorem IsTight.around {first later : List Char} (hfirst : IsTight first) (hlater : IsTight later)
    (between : List Char) : IsTight (first ++ between ++ later) where
  start := by
    obtain ⟨c, rest, rfl, hc⟩ := hfirst.start
    exact ⟨c, rest ++ between ++ later, by simp, hc⟩
  stop := by
    obtain ⟨init, c, rfl, hc⟩ := hlater.stop
    exact ⟨first ++ between ++ init, c, by simp, hc⟩

theorem IsTight.singleton {c : Char} (hblank : Text.isBlank c = false) (hand : c ≠ '&') :
    IsTight [c] :=
  ⟨⟨c, [], rfl, hblank⟩, ⟨[], c, rfl, hblank, hand⟩⟩

theorem Written.isTight {word text : List Char} (h : Written word text) : IsTight text := by
  induction h with
  | @bare chunk hsome hplain =>
      constructor
      · obtain ⟨c, rest, rfl⟩ := List.exists_cons_of_ne_nil hsome
        exact ⟨c, rest, rfl, (isOrdinary_of_isPlain (hplain c (List.mem_cons_self ..))).blank⟩
      · have hlast := hplain _ (List.getLast_mem hsome)
        refine ⟨chunk.dropLast, chunk.getLast hsome, (List.dropLast_concat_getLast hsome).symm,
          (isOrdinary_of_isPlain hlast).blank, ?_⟩
        intro hand
        rw [hand] at hlast
        revert hlast
        decide
  | single | double =>
      exact (IsTight.singleton (by decide) (by decide)).around
        (IsTight.singleton (by decide) (by decide)) _
  | append _ _ hfirst hlater => simpa using hfirst.around hlater []

/-! ## Reading a quoted word back -/

section Reading

variable {pending : Option (List Char)}

theorem scan_ordinary {c : Char} (h : IsOrdinary c) (rest : List Char) :
    scan .bare pending (c :: rest) = scan .bare (extend c pending) rest := by
  rw [scan]
  · simp [h.single, h.double, h.blank, h.pipe, h.input, h.output]
  · rintro rest ⟨⟩
    exact absurd rfl h.output
  · rintro rest ⟨⟩
    exact absurd rfl h.input

theorem scan_plain {chunk : List Char} (hsome : chunk ≠ [])
    (hplain : ∀ c ∈ chunk, isPlain c = true) (rest : List Char) :
    scan .bare pending (chunk ++ rest) =
      scan .bare (some (chunk.reverse ++ pending.getD [])) rest := by
  induction chunk generalizing pending with
  | nil => exact absurd rfl hsome
  | cons c chunk ih =>
      obtain ⟨hc, hchunk⟩ := List.forall_mem_cons.mp hplain
      rw [List.cons_append, scan_ordinary (isOrdinary_of_isPlain hc)]
      by_cases hlast : chunk = []
      · subst hlast
        rfl
      · rw [ih hlast hchunk]
        simp [extend]

/-- Single quotes hide everything but a single quote. -/
theorem scan_single {chunk : List Char} (hquote : '\'' ∉ chunk) (word rest : List Char) :
    scan .single (some word) (chunk ++ '\'' :: rest) =
      scan .bare (some (chunk.reverse ++ word)) rest := by
  induction chunk generalizing word with
  | nil => simp [scan, opened]
  | cons c chunk ih =>
      obtain ⟨hc, hchunk⟩ := List.ne_and_not_mem_of_not_mem_cons hquote
      simp [scan, Ne.symm hc, extend, ih hchunk]

/-- Double quotes hide everything but a double quote. -/
theorem scan_double {chunk : List Char} (hquote : '"' ∉ chunk) (word rest : List Char) :
    scan .double (some word) (chunk ++ '"' :: rest) =
      scan .bare (some (chunk.reverse ++ word)) rest := by
  induction chunk generalizing word with
  | nil => simp [scan, opened]
  | cons c chunk ih =>
      obtain ⟨hc, hchunk⟩ := List.ne_and_not_mem_of_not_mem_cons hquote
      simp [scan, Ne.symm hc, extend, ih hchunk]

/-- What gets no backslash before it is written as it is, and holds no double quote. -/
theorem escapeDouble_of_noSlash {chunk : List Char} (h : '\\' ∉ escapeDouble chunk) :
    escapeDouble chunk = chunk ∧ '"' ∉ chunk := by
  induction chunk with
  | nil => exact ⟨rfl, by simp⟩
  | cons c chunk ih =>
      simp only [escapeDouble, List.flatMap_cons, List.mem_append, not_or] at h ih ⊢
      obtain ⟨hc, hchunk⟩ := h
      obtain ⟨hsame, hquote⟩ := ih hchunk
      split at hc
      · simp at hc
      · next hplain =>
          rw [if_neg hplain, hsame]
          refine ⟨rfl, List.not_mem_cons_of_ne_of_not_mem ?_ hquote⟩
          rintro rfl
          exact hplain (by decide)

/-- Without backslashes in it, a quoted word adds the word to what is pending. -/
theorem Written.scan_append {word text : List Char} (h : Written word text)
    (hslash : '\\' ∉ text) (rest : List Char) :
    scan .bare pending (text ++ rest) =
      scan .bare (some (word.reverse ++ pending.getD [])) rest := by
  induction h generalizing pending rest with
  | bare hsome hplain => exact scan_plain hsome hplain rest
  | @single chunk hquote =>
      have hopens : scan .bare pending ('\'' :: chunk ++ ['\''] ++ rest) =
          scan .single (opened pending) (chunk ++ '\'' :: rest) := by
        simp [scan]
      rw [hopens, opened, scan_single hquote]
  | double chunk =>
      have hnone : '\\' ∉ escapeDouble chunk := fun hmem => hslash (by simp [hmem])
      obtain ⟨hsame, hquote⟩ := escapeDouble_of_noSlash hnone
      have hopens : scan .bare pending ('"' :: escapeDouble chunk ++ ['"'] ++ rest) =
          scan .double (opened pending) (chunk ++ '"' :: rest) := by
        simp [scan, hsame]
      rw [hopens, opened, scan_double hquote]
  | append _ _ hfirst hlater =>
      obtain ⟨hone, htwo⟩ : '\\' ∉ _ ∧ '\\' ∉ _ := by simpa using hslash
      rw [List.append_assoc, hfirst hone, hlater htwo]
      simp

end Reading

/-! ## Counting backslashes -/

/-- A text has as many backslashes as what it stands for, and more if it has any. -/
structure Swells (size : Nat) (text : List Char) : Prop where
  le : size ≤ text.count '\\'
  lt : '\\' ∈ text → size < text.count '\\'

theorem Swells.of_noSlash {text : List Char} (h : '\\' ∉ text) : Swells 0 text :=
  ⟨Nat.zero_le _, fun hmem => absurd hmem h⟩

theorem Swells.append {size more : Nat} {first later : List Char} (hfirst : Swells size first)
    (hlater : Swells more later) : Swells (size + more) (first ++ later) := by
  have hone := hfirst.le
  have htwo := hlater.le
  constructor
  · rw [List.count_append]
    omega
  · intro hmem
    rw [List.count_append]
    rcases List.mem_append.mp hmem with h | h
    · have hmore := hfirst.lt h
      omega
    · have hmore := hlater.lt h
      omega

theorem swells_escapeDouble (chunk : List Char) :
    Swells (chunk.count '\\') (escapeDouble chunk) := by
  induction chunk with
  | nil => exact .of_noSlash (by simp [escapeDouble])
  | cons c chunk ih =>
      have hc : Swells ([c].count '\\')
          (if "$`\"\\".toList.contains c then ['\\', c] else [c]) := by
        split
        · constructor <;> simp [List.count_cons]
        · next hplain =>
            have hother : c ≠ '\\' := by
              rintro rfl
              exact hplain (by decide)
            constructor <;> simp [hother, hother.symm]
      have hboth := hc.append ih
      rwa [← List.count_append, List.singleton_append] at hboth

/-- A quoted word has at least the backslashes of the word, and more if it has any. -/
theorem Written.swells {word text : List Char} (h : Written word text) :
    Swells (word.count '\\') text := by
  induction h with
  | @bare chunk _ hplain =>
      have hnone : '\\' ∉ chunk := fun hmem => absurd (hplain _ hmem) (by decide)
      rw [List.count_eq_zero_of_not_mem hnone]
      exact .of_noSlash hnone
  | single _ hslash =>
      rw [List.count_eq_zero_of_not_mem hslash]
      exact .of_noSlash (by simpa using hslash)
  | double chunk =>
      have h : Swells (0 + (chunk.count '\\' + 0)) (['"'] ++ (escapeDouble chunk ++ ['"'])) :=
        (Swells.of_noSlash (by decide)).append
          ((swells_escapeDouble chunk).append (.of_noSlash (by decide)))
      simpa using h
  | append _ _ hfirst hlater =>
      rw [List.count_append]
      exact hfirst.append hlater

end Conch.Line
