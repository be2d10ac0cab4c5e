import Conch.Line.Reading
import Conch.Proofs.Text.Blank

/-!
# A line with `&` behind it

Whatever blanks stand around it, one `&` behind a line that does not end in one asks for
the background and changes nothing else: neither the stages, nor the refusal of `<<`, nor
the label.
-/

namespace Conch.Line

variable {s u v : List Char}

/-- What is trimmed and taken off a line with `&` behind it. -/
theorem dropAmpersand?_trim (s : List Char) (hv : ∀ c ∈ v, Text.isBlank c = true) :
    dropAmpersand? (Text.trim (s ++ '&' :: v)) = some (Text.trimStart s) := by
  simp [Text.trim_append_cons_blanks (by decide : Text.isBlank '&' = false) s hv, dropAmpersand?]

theorem commandPart_of_plain (h : (Text.trim s).getLast? ≠ some '&') :
    commandPart s = (Text.trim s, false) := by
  simp [commandPart, dropAmpersand?, h]

theorem commandPart_background (hu : ∀ c ∈ u, Text.isBlank c = true)
    (hv : ∀ c ∈ v, Text.isBlank c = true) :
    commandPart (s ++ u ++ '&' :: v) = (Text.trim s, true) := by
  simp only [commandPart, dropAmpersand?_trim (s ++ u) hv]
  rw [← Text.trim_append_blanks hu s, Text.trim, Text.trim, Text.trimStart_trimStart]

/-- A line with `&` behind it is read as the line itself, for the background. -/
theorem read?_background {source blanks trailing : String}
    (hplain : (Text.trim source.toList).getLast? ≠ some '&')
    (hblanks : ∀ c ∈ blanks.toList, Text.isBlank c = true)
    (htrailing : ∀ c ∈ trailing.toList, Text.isBlank c = true) :
    read? (source ++ blanks ++ "&" ++ trailing) =
      (read? source).map fun line =>
        ⟨line.stages, true, source ++ blanks ++ "&" ++ trailing⟩ := by
  have hpart : commandPart (source ++ blanks ++ "&" ++ trailing).toList =
      (Text.trim source.toList, true) := by
    rw [String.toList_append, String.toList_append, String.toList_append, List.append_assoc]
    exact commandPart_background hblanks htrailing
  simp only [read?, hpart, commandPart_of_plain hplain]
  split
  · rfl
  · split <;> rfl

/-- The label of a line with `&` behind it is the line itself, trimmed. -/
theorem label_background (source : String) {blanks trailing : String} (stages : List Stage)
    (hblanks : ∀ c ∈ blanks.toList, Text.isBlank c = true)
    (htrailing : ∀ c ∈ trailing.toList, Text.isBlank c = true) :
    label ⟨stages, true, source ++ blanks ++ "&" ++ trailing⟩ = Text.trimmed source := by
  have hdrop : dropAmpersand? (Text.trim (source ++ blanks ++ "&" ++ trailing).toList) =
      some (Text.trimStart (source.toList ++ blanks.toList)) := by
    rw [String.toList_append, String.toList_append, String.toList_append, List.append_assoc]
    exact dropAmpersand?_trim _ htrailing
  simp only [label, hdrop, if_true]
  rw [Text.trimmed, ← Text.trim_append_blanks hblanks source.toList, Text.trim]

end Conch.Line
