import Conch.Json.Value
import Mathlib.Data.List.Basic

/-!
# The text of a value is one line

The compact text of a value has no line feed, whatever texts and numbers there are in it, and
it is never empty.  So values that are written one in a line can be told apart again.
-/

namespace Conch

/-- A text without a line feed. -/
def IsOneLine (text : String) : Prop :=
  '\n' ∉ text.toList

instance : DecidablePred IsOneLine :=
  fun text => inferInstanceAs (Decidable (¬ '\n' ∈ text.toList))

theorem IsOneLine.append {text more : String} (h : IsOneLine text) (hmore : IsOneLine more) :
    IsOneLine (text ++ more) := by
  rw [IsOneLine, String.toList_append, List.mem_append, not_or]
  exact ⟨h, hmore⟩

theorem isOneLine_ofList {chars : List Char} (h : '\n' ∉ chars) :
    IsOneLine (String.ofList chars) := by
  rwa [IsOneLine, String.toList_ofList]

theorem isOneLine_intercalate {separator : String} (hseparator : IsOneLine separator)
    {texts : List String} (h : ∀ text ∈ texts, IsOneLine text) :
    IsOneLine (separator.intercalate texts) := by
  induction texts with
  | nil => simp [IsOneLine]
  | cons text rest ih =>
      obtain ⟨hfirst, hrest⟩ := List.forall_mem_cons.mp h
      cases rest with
      | nil => simpa using hfirst
      | cons second others =>
          rw [String.intercalate_cons_cons]
          exact (hfirst.append hseparator).append (ih hrest)

/-! ## Numbers -/

namespace Number

theorem newline_notMem_toDigits (n : Nat) : '\n' ∉ Nat.toDigits 10 n := by
  intro hmem
  have hdigit := Nat.isDigit_of_mem_toDigits (by decide) (by decide) hmem
  simp at hdigit

theorem isOneLine_toString (n : Nat) : IsOneLine (toString n) := by
  simpa [IsOneLine] using newline_notMem_toDigits n

theorem newline_notMem_significantDigits (n : Nat) : '\n' ∉ significantDigits n := by
  intro hmem
  rw [significantDigits, List.mem_reverse] at hmem
  have hdigits := (List.dropWhile_sublist _).mem hmem
  exact newline_notMem_toDigits n (List.mem_reverse.mp hdigits)

/-- The digits of a number are significant digits, however many are tried. -/
theorem Binary64.exists_digits_shortestFrom (x : Binary64) (top : Int) (tries count : Nat) :
    ∃ n, (x.shortestFrom top tries count).digits = significantDigits n := by
  induction tries generalizing count with
  | zero => exact ⟨x.mantissa, rfl⟩
  | succ tries ih =>
      simp only [shortestFrom]
      split
      · exact ⟨_, rfl⟩
      · exact ih _

theorem Binary64.isOneLine_display (x : Binary64) : IsOneLine x.display := by
  obtain ⟨n, hdigits⟩ := x.exists_digits_shortestFrom
    (floorLog10From x.num x.den 4 (floorLog2 x.num x.den * 30103 / 100000 + 1)) 17 1
  have hshortest : '\n' ∉ x.shortest.digits := by
    rw [shortest, hdigits]
    exact newline_notMem_significantDigits n
  unfold display
  split
  · decide
  · simp only
    split
    · refine isOneLine_ofList ?_
      have hfilled : ∀ count, '\n' ∉ x.shortest.digits ++ List.replicate count '0' := by
        simp [hshortest]
      rw [List.mem_append, not_or, List.mem_cons, not_or]
      refine ⟨fun hmem => hfilled _ (List.mem_of_mem_take hmem), by decide, ?_⟩
      split
      · decide
      · exact fun hmem => hfilled _ (List.mem_of_mem_drop hmem)
    · split
      · refine isOneLine_ofList ?_
        simp [hshortest]
      · refine ((isOneLine_ofList ?_).append ?_).append (isOneLine_toString _)
        · have htake : '\n' ∉ x.shortest.digits.take 1 :=
            fun hmem => hshortest (List.mem_of_mem_take hmem)
          have hdrop : '\n' ∉ x.shortest.digits.drop 1 :=
            fun hmem => hshortest (List.mem_of_mem_drop hmem)
          split
          · exact htake
          · simp only [List.mem_append, List.mem_cons, not_or]
            exact ⟨htake, by decide, hdrop⟩
        · split <;> decide

theorem toString_ne_empty (n : Nat) : toString n ≠ "" := by
  have hdigits := Nat.length_toDigits_pos (b := 10) (n := n)
  intro hempty
  have hnone : Nat.toDigits 10 n = [] := by simpa using congrArg String.toList hempty
  simp [hnone] at hdigits

theorem Binary64.display_ne_empty (x : Binary64) : x.display ≠ "" := by
  unfold display
  split
  · decide
  · simp only
    split
    · simp
    · split
      · simp
      · simp

end Number

theorem JsonNumber.isOneLine_text (number : JsonNumber) : IsOneLine number.text := by
  cases number with
  | natural n => exact Number.isOneLine_toString n
  | negative n =>
      have hminus : IsOneLine "-" := by decide
      exact hminus.append (Number.isOneLine_toString n)
  | binary isNegative magnitude =>
      have hsign : IsOneLine (if isNegative then "-" else "") := by
        split <;> decide
      exact hsign.append magnitude.isOneLine_display

theorem JsonNumber.text_ne_empty (number : JsonNumber) : number.text ≠ "" := by
  cases number with
  | natural n => exact Number.toString_ne_empty n
  | negative n => simp [text]
  | binary isNegative magnitude => simp [text, magnitude.display_ne_empty]

namespace Json

/-! ## Texts -/

theorem newline_notMem_hexDigits (width n : Nat) : '\n' ∉ Text.hexDigits width n := by
  have hdigit : ∀ m < 16, '\n' ≠ Text.hexDigit m := by decide
  induction width generalizing n with
  | zero => simp [Text.hexDigits]
  | succ width ih =>
      have hlast := hdigit (n % 16) (Nat.mod_lt n (by decide))
      simp [Text.hexDigits, ih, hlast]

/-- A line feed is written as something else, and nothing is written as a line feed. -/
theorem newline_notMem_escapeChar (c : Char) : '\n' ∉ escapeChar c := by
  unfold escapeChar
  split
  · decide
  · split
    · decide
    · split
      · decide
      · next hnewline =>
          repeat' split
          · decide
          · decide
          · decide
          · decide
          · simp [newline_notMem_hexDigits]
          · simpa using Ne.symm hnewline

theorem isOneLine_quote (text : String) : IsOneLine (quote text) := by
  refine isOneLine_ofList ?_
  simp [newline_notMem_escapeChar]

/-! ## Values -/

mutual

theorem isOneLine_render : (value : Json) → IsOneLine value.render
  | .null => by decide
  | .bool value => by cases value <;> decide
  | .number value => value.isOneLine_text
  | .string value => isOneLine_quote value
  | .array items => by
      have hitems := isOneLine_intercalate (by decide : IsOneLine ",") (isOneLine_renderItems items)
      have hopen : IsOneLine "[" := by decide
      exact (hopen.append hitems).append (by decide)
  | .object members => by
      have hmembers :=
        isOneLine_intercalate (by decide : IsOneLine ",") (isOneLine_renderMembers members)
      have hopen : IsOneLine "\x7b" := by decide
      exact (hopen.append hmembers).append (by decide)

theorem isOneLine_renderItems : (items : List Json) → ∀ text ∈ renderItems items, IsOneLine text
  | [] => by simp [renderItems]
  | item :: rest => by
      rw [renderItems, List.forall_mem_cons]
      exact ⟨isOneLine_render item, isOneLine_renderItems rest⟩

theorem isOneLine_renderMembers :
    (members : List (String × Json)) → ∀ text ∈ renderMembers members, IsOneLine text
  | [] => by simp [renderMembers]
  | (name, value) :: rest => by
      rw [renderMembers, List.forall_mem_cons]
      have hcolon : IsOneLine ":" := by decide
      exact ⟨((isOneLine_quote name).append hcolon).append (isOneLine_render value),
        isOneLine_renderMembers rest⟩

end

/-- No value has an empty text. -/
theorem render_ne_empty (value : Json) : value.render ≠ "" := by
  cases value with
  | null => decide
  | bool value => cases value <;> decide
  | number value => exact value.text_ne_empty
  | string value => simp [render, quote]
  | array items => simp [render]
  | object members => simp [render]

end Json

end Conch
