import Conch.Text.Order
import Mathlib.Data.Char
import Mathlib.Data.List.Lex
import Mathlib.Data.Prod.Lex

/-!
# The order of texts is the dictionary order

Texts are compared at the first place where they differ, by code point, and a text with a key
by its key first.  Both are linear orders, so texts that are sorted have one order only.
-/

namespace Conch.Text

theorem toNat_lt_iff {a b : Char} : a.toNat < b.toNat ↔ a < b :=
  Iff.rfl

theorem le_iff {s t : List Char} : le s t = true ↔ s ≤ t := by
  induction s generalizing t with
  | nil =>
      cases t with
      | nil => simp [le]
      | cons b t => exact iff_of_true rfl (le_of_lt (List.nil_lt_cons b t))
  | cons a s ih =>
      cases t with
      | nil => exact iff_of_false (by simp [le]) (not_le_of_gt (List.nil_lt_cons a s))
      | cons b t =>
          rw [le_iff_lt_or_eq, List.cons_lt_cons_iff, List.cons.injEq, le]
          split
          · next hsame => simp [hsame, ih, le_iff_lt_or_eq]
          · next hother => simp [hother, toNat_lt_iff]

theorem keyedLe_iff {a b : List Char × List Char} :
    keyedLe a b = true ↔ toLex a ≤ toLex b := by
  rw [Prod.Lex.toLex_le_toLex, keyedLe]
  split
  · next hsame => simp [hsame, le_iff]
  · next hother => rw [le_iff, le_iff_lt_or_eq]; simp [hother]

theorem keyedLe_trans (a b c : List Char × List Char) (hab : keyedLe a b = true)
    (hbc : keyedLe b c = true) : keyedLe a c = true :=
  keyedLe_iff.mpr ((keyedLe_iff.mp hab).trans (keyedLe_iff.mp hbc))

theorem keyedLe_total (a b : List Char × List Char) : (keyedLe a b || keyedLe b a) = true := by
  rw [Bool.or_eq_true, keyedLe_iff, keyedLe_iff]
  exact le_total _ _

end Conch.Text
