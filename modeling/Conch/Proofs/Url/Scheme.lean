import Conch.Proofs.Text.Ascii
import Conch.Proofs.Text.Blank
import Conch.Url.Reading
import Mathlib.Data.List.TakeWhile

/-!
# The scheme of an address

The scheme of an address is what stands before its first colon, once the blanks and control
characters at its start are taken off and the tabs and line ends in it are left out.  So an address
that is fetched need not begin with its scheme as a text, and a look at the text alone can miss it.
-/

namespace Conch.Url

/-- A blank or a control character, which an address may have around it. -/
def isEdge (c : Char) : Bool :=
  c.toNat ≤ 0x20

/-- Whether a character is kept, as tabs and line ends are not. -/
def isKept (c : Char) : Bool :=
  !(c = '\t' || c = '\n' || c = '\r')

/-- The text before the first colon. -/
def beforeColon (text : List Char) : List Char :=
  text.takeWhile (· ≠ ':')

/-- What is read of a text that stands before the first colon. -/
def essentialStart (before : List Char) : List Char :=
  (before.dropWhile isEdge).filter isKept

theorem beforeColon_append {before : List Char} (h : ':' ∉ before) (after : List Char) :
    beforeColon (before ++ ':' :: after) = before := by
  have hall : ∀ c ∈ before, decide (c ≠ ':') = true := by
    intro c hc
    refine decide_eq_true ?_
    rintro rfl
    exact h hc
  rw [beforeColon, List.takeWhile_append_of_pos hall, List.takeWhile_cons_of_neg (by simp),
    List.append_nil]

theorem essential_eq (raw : List Char) :
    essential raw = ((raw.dropWhile isEdge).reverse.dropWhile isEdge).reverse.filter isKept :=
  rfl

/-- A colon parts what is essential before it from what is essential behind it. -/
theorem essential_append_colon (before after : List Char) :
    ∃ rest, essential (before ++ ':' :: after) = essentialStart before ++ ':' :: rest := by
  have hedge : isEdge ':' = false := rfl
  have hkept : isKept ':' = true := rfl
  have hreverse (start : List Char) :
      (start ++ ':' :: after).reverse = after.reverse ++ ':' :: start.reverse := by simp
  refine ⟨((after.reverse.dropWhile isEdge).reverse).filter isKept, ?_⟩
  rw [essential_eq, Text.dropWhile_append_cons hedge, hreverse, Text.dropWhile_append_cons hedge,
    essentialStart]
  simp [hkept]

theorem essential_sublist (raw : List Char) : (essential raw).Sublist raw := by
  have hend : ((raw.dropWhile isEdge).reverse.dropWhile isEdge).reverse.Sublist
      (raw.dropWhile isEdge) := by
    rw [← List.reverse_sublist, List.reverse_reverse]
    exact List.dropWhile_sublist _
  exact List.filter_sublist.trans (hend.trans (List.dropWhile_sublist _))

theorem essentialStart_sublist (before : List Char) : (essentialStart before).Sublist before :=
  List.filter_sublist.trans (List.dropWhile_sublist _)

/-- Where nothing stands that is passed over, everything is essential. -/
theorem essentialStart_eq_self {before : List Char} (h : ∀ c ∈ before, isEdge c = false) :
    essentialStart before = before := by
  have hstart : before.dropWhile isEdge = before := by
    rw [List.dropWhile_eq_self_iff]
    intro hsome
    rw [h _ (List.getElem_mem hsome)]
    exact Bool.false_ne_true
  rw [essentialStart, hstart, List.filter_eq_self]
  intro c hc
  -- the characters that are left out are among those that can stand at an edge
  have hne : ∀ d, isEdge d = true → c ≠ d := by
    rintro d hedge rfl
    rw [h c hc] at hedge
    cases hedge
  simp [isKept, hne '\t' rfl, hne '\n' rfl, hne '\r' rfl]

/-- The scheme is what stands before the first colon, in lower case. -/
theorem eq_append_of_splitScheme? {text scheme rest : List Char}
    (h : splitScheme? text = some (scheme, rest)) :
    ∃ spelt, text = spelt ++ ':' :: rest ∧ ':' ∉ spelt ∧
      spelt.map Text.asciiLowerChar = scheme := by
  simp only [splitScheme?] at h
  split at h
  · next hcolon =>
      split at h
      · obtain ⟨rfl, rfl⟩ := Prod.mk.inj (Option.some.inj h)
        refine ⟨_, ?_, ?_, rfl⟩
        · rw [← hcolon, List.takeWhile_append_dropWhile]
        · intro hmem
          have hchar := List.mem_takeWhile_imp hmem
          revert hchar
          decide
      · cases h
  · cases h

/-- An address that is fetched has one of the two schemes. -/
theorem scheme_of_web {raw : String} {url : Url} (h : read raw = .web url) :
    ∃ scheme rest, splitScheme? (essential raw.toList) = some (scheme, rest) ∧
      (scheme = "http".toList ∨ scheme = "https".toList) := by
  unfold read at h
  split at h
  · cases h
  · next scheme rest hsplit =>
      refine ⟨scheme, rest, hsplit, ?_⟩
      simp only at h
      split at h
      · split at h
        · cases h
        · split at h
          · next hname =>
              rw [← String.toList_ofList (l := scheme)]
              simpa [← String.toList_inj] using hname
          · cases h
      · split at h <;> cases h
      · split at h <;> cases h

/-- **Where the scheme of a fetched address stands.**  It is what is essential before the first
colon, up to the case of its letters. -/
theorem exists_spelling_of_web {raw : String} {url : Url} (h : read raw = .web url) :
    ∃ before after, raw.toList = before ++ ':' :: after ∧ ':' ∉ before ∧
      ((essentialStart before).map Text.asciiLowerChar = "http".toList ∨
        (essentialStart before).map Text.asciiLowerChar = "https".toList) := by
  obtain ⟨scheme, rest, hsplit, hscheme⟩ := scheme_of_web h
  obtain ⟨spelt, hessential, hspelt, rfl⟩ := eq_append_of_splitScheme? hsplit
  have hcolon : ':' ∈ raw.toList := (essential_sublist _).subset (by rw [hessential]; simp)
  obtain ⟨before, after, hraw, hbefore⟩ := List.eq_append_cons_of_mem hcolon
  obtain ⟨kept, hkept⟩ := essential_append_colon before after
  have hstart : ':' ∉ essentialStart before := fun hmem =>
    hbefore ((essentialStart_sublist before).subset hmem)
  -- both are followed by the first colon of the essential text
  have hsame : spelt = essentialStart before := by
    rw [hraw, hkept] at hessential
    rw [← beforeColon_append hspelt rest, ← hessential, beforeColon_append hstart]
  rw [hsame] at hscheme
  exact ⟨before, after, hraw, hbefore, hscheme⟩

end Conch.Url
