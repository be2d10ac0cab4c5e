import Conch.Proofs.Line.Background
import Conch.Proofs.Line.Cutting
import Conch.Proofs.Line.Places

/-!
# Labels

The label of a line is worked out from the line as it was given, and so is the part of it that
is cut into stages.  The two are the same text.  In particular a line with `&` behind it has the
label of the line itself, as it has its stages.
-/

namespace Conch.Line

variable {source : String}

theorem eq_append_of_dropAmpersand? {s rest : List Char} (h : dropAmpersand? s = some rest) :
    s = rest ++ ['&'] := by
  unfold dropAmpersand? at h
  split at h
  · next hlast =>
      obtain rfl := Option.some.inj h
      exact (List.dropLast_append_getLast? '&' hlast).symm
  · cases h

/-- A line is labelled with the part of it that holds its command. -/
theorem toList_label {line : Line} (h : read? source = some line) :
    line.label.toList = (commandPart source.toList).1 := by
  have hline : line.source = source ∧ line.background = (commandPart source.toList).2 := by
    rw [read?_eq] at h
    split at h
    · cases h
    · obtain rfl := Option.some.inj h
      exact ⟨rfl, rfl⟩
  cases hdrop : dropAmpersand? (Text.trim source.toList) with
  | none => simp [label, commandPart, hline, hdrop]
  | some rest =>
      -- what stands before the `&` begins as the line does, with no blank
      have hstart : Text.trim rest = Text.trimEnd rest := by
        have htrim := Text.trimStart_trim source.toList
        rw [eq_append_of_dropAmpersand? hdrop, Text.trimStart_append_cons (by decide)] at htrim
        rw [Text.trim, List.append_cancel_right htrim]
      simp [label, commandPart, hline, hdrop, hstart]

/-- **The label of a line is the command that it asks for.**  Its tokens make up the stages of
the line.  And if a line does not end in `&` but for blanks, one `&` behind it, with any blanks
around, leaves the refusal, the stages, the kind and the label of the line as they are, and asks
for the background. -/
theorem label_reads (source : String) :
    (∀ line, read? source = some line →
      stagesOfGroups (tokenGroups (lex line.label.toList)) = line.stages) ∧
      ∀ blanks trailing : String, (Text.trim source.toList).getLast? ≠ some '&' →
        IsGap blanks.toList → IsGap trailing.toList →
        let marked := source ++ blanks ++ "&" ++ trailing
        (read? marked = none ↔ read? source = none) ∧
          ∀ line, read? source = some line → ∃ job, read? marked = some job ∧
            job.stages = line.stages ∧ job.kind = line.kind ∧ job.label = line.label ∧
            job.background = true := by
  refine ⟨fun line hread => ?_, fun blanks trailing hplain hblanks htrailing => ?_⟩
  · have hlabel := toList_label hread
    rw [read?_eq] at hread
    split at hread
    · cases hread
    · rw [hlabel]
      obtain rfl := Option.some.inj hread
      rfl
  · have hmarked := read?_background hplain hblanks htrailing
    refine ⟨by rw [hmarked, Option.map_eq_none_iff], fun line hread => ?_⟩
    rw [hread] at hmarked
    have hlabel := toList_label hread
    rw [commandPart_of_plain hplain] at hlabel
    refine ⟨_, hmarked, rfl, rfl, ?_, rfl⟩
    rw [label_background source line.stages hblanks htrailing, ← String.toList_inj, hlabel,
      Text.trimmed, String.toList_ofList]

/-- A quote that is left open takes in what stands behind it, but neither the blanks nor the `&`
at the end of the line. -/
theorem label_reads_open :
    let source := "sort -r | grep 'a  "
    let marked := source ++ "\u00a0" ++ "&" ++ " \t"
    ((Text.trim source.toList).getLast? ≠ some '&' ∧ IsGap "\u00a0".toList ∧
        IsGap " \t".toList) ∧
      ∃ line job, read? source = some line ∧ read? marked = some job ∧
        stagesOfGroups (tokenGroups (lex line.label.toList)) =
          [⟨"sort", ["-r"], .inherit, .inherit⟩, ⟨"grep", ["a"], .piped, .inherit⟩] ∧
        job.stages = line.stages ∧ job.label = line.label ∧ job.background = true := by
  intro source marked
  have hplain : (Text.trim source.toList).getLast? ≠ some '&' := by decide
  have hblanks : IsGap "\u00a0".toList := by decide
  have htrailing : IsGap " \t".toList := by decide
  have hread : read? source = some
      ⟨[⟨"sort", ["-r"], .inherit, .inherit⟩, ⟨"grep", ["a"], .piped, .inherit⟩], false,
        source⟩ := by
    decide
  obtain ⟨hlabel, hbackground⟩ := label_reads source
  obtain ⟨-, hmarked⟩ := hbackground "\u00a0" " \t" hplain hblanks htrailing
  obtain ⟨job, hjob, hstages, -, hsame, hasks⟩ := hmarked _ hread
  exact ⟨⟨hplain, hblanks, htrailing⟩, _, job, hread, hjob, hlabel _ hread, hstages, hsame, hasks⟩

end Conch.Line
