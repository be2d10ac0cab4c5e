import Conch.Text.Ascii
import Mathlib.Data.List.Forall2
import Mathlib.Tactic.SplitIfs

/-!
# The case of ASCII letters

Lower case has no capitals left, and nothing else is changed.  So two texts with the same lower
case differ, character by character, at most in the case of ASCII letters.
-/

namespace Conch.Text

theorem toNat_asciiLowerChar (c : Char) :
    (asciiLowerChar c).toNat =
      if 65 ≤ c.toNat ∧ c.toNat ≤ 90 then c.toNat + 32 else c.toNat := by
  have hcapital : ('A' ≤ c ∧ c ≤ 'Z') ↔ 65 ≤ c.toNat ∧ c.toNat ≤ 90 := Iff.rfl
  rw [asciiLowerChar]
  split
  · next h =>
      have hvalid : (c.toNat + 32).isValidChar := Or.inl (by have := hcapital.mp h; omega)
      rw [if_pos (hcapital.mp h), Char.ofNat, dif_pos hvalid]
      rfl
  · next h => rw [if_neg (hcapital.not.mp h)]

theorem toNat_asciiUpperChar (c : Char) :
    (asciiUpperChar c).toNat =
      if 97 ≤ c.toNat ∧ c.toNat ≤ 122 then c.toNat - 32 else c.toNat := by
  have hsmall : ('a' ≤ c ∧ c ≤ 'z') ↔ 97 ≤ c.toNat ∧ c.toNat ≤ 122 := Iff.rfl
  rw [asciiUpperChar]
  split
  · next h =>
      have hvalid : (c.toNat - 32).isValidChar := Or.inl (by have := hsmall.mp h; omega)
      rw [if_pos (hsmall.mp h), Char.ofNat, dif_pos hvalid]
      rfl
  · next h => rw [if_neg (hsmall.not.mp h)]

/-- Lower case has no capitals left. -/
theorem asciiLowerChar_idem (c : Char) : asciiLowerChar (asciiLowerChar c) = asciiLowerChar c := by
  apply Char.toNat_inj.mp
  simp only [toNat_asciiLowerChar]
  split_ifs <;> omega

theorem asciiLower_idem (s : String) : asciiLower (asciiLower s) = asciiLower s := by
  simp only [asciiLower, String.toList_ofList, List.map_map]
  congr 2
  funext c
  exact asciiLowerChar_idem c

/-- Two characters have the same lower case if they are the same or if the first one is a form of
the other. -/
theorem asciiLowerChar_eq_iff {c d : Char} :
    asciiLowerChar c = asciiLowerChar d ↔
      c = d ∨ c = asciiUpperChar d ∨ c = asciiLowerChar d := by
  simp only [← Char.toNat_inj, toNat_asciiLowerChar, toNat_asciiUpperChar]
  split_ifs <;> omega

/-- Two texts that differ at most in the case of ASCII letters. -/
def SameUpToCase (a b : String) : Prop :=
  asciiLower a = asciiLower b

instance (a b : String) : Decidable (SameUpToCase a b) :=
  inferInstanceAs (Decidable (_ = _))

/-- Character by character, each is the same or another form of the same letter. -/
theorem sameUpToCase_iff {a b : String} :
    SameUpToCase a b ↔
      List.Forall₂ (fun c d => c = d ∨ c = asciiUpperChar d ∨ c = asciiLowerChar d)
        a.toList b.toList := by
  have hlists : SameUpToCase a b ↔
      a.toList.map asciiLowerChar = b.toList.map asciiLowerChar := by
    rw [SameUpToCase, asciiLower, asciiLower, ← String.toList_inj, String.toList_ofList,
      String.toList_ofList]
  rw [hlists, ← List.forall₂_eq_eq_eq, List.forall₂_map_left_iff, List.forall₂_map_right_iff]
  simp only [asciiLowerChar_eq_iff]

end Conch.Text
