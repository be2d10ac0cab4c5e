import Conch.Text.Utf8
import Mathlib.Tactic.SplitIfs

/-!
# UTF-8 is read back

The octets of a character lead decoding through its value and back to the state between
characters, so a text that is encoded is decoded to itself, lossy or not.
-/

namespace Conch.Text.Utf8

theorem toNat_toUInt8 {n : Nat} (h : n < 256) : n.toUInt8.toNat = n := by
  simp [Nat.toUInt8, Nat.mod_eq_of_lt h]

/-! ## Reading back -/

/-- An octet in its range that is the last one of a character. -/
theorem step_last {value low high : Nat} {b : UInt8} (hlow : low ≤ b.toNat)
    (hhigh : b.toNat ≤ high) :
    step (.owing 0 value low high) b =
      ([Char.ofNat (64 * value + (b.toNat - 0x80))], .start) := by
  simp [step, hlow, hhigh]

/-- An octet in its range with more to come. -/
theorem step_more {more value low high : Nat} {b : UInt8} (hlow : low ≤ b.toNat)
    (hhigh : b.toNat ≤ high) :
    step (.owing (more + 1) value low high) b =
      ([], .owing more (64 * value + (b.toNat - 0x80)) 0x80 0xBF) := by
  simp [step, hlow, hhigh]

/-- The first octet of a character of two. -/
theorem begin_of_two {b : UInt8} (hlow : 0xC2 ≤ b.toNat) (hhigh : b.toNat < 0xE0) :
    begin b = ([], .owing 0 (b.toNat - 0xC0) 0x80 0xBF) := by
  have hlead : Lead.of? b = some ⟨1, b.toNat - 0xC0, 0x80, 0xBF⟩ := by
    simp only [Lead.of?]
    split_ifs <;> first | rfl | omega
  simp [begin, hlead]

/-- The first octet of a character of three. -/
theorem begin_of_three {b : UInt8} (hlow : 0xE0 ≤ b.toNat) (hhigh : b.toNat < 0xF0) :
    begin b = ([], .owing 1 (b.toNat - 0xE0) (if b.toNat = 0xE0 then 0xA0 else 0x80)
      (if b.toNat = 0xED then 0x9F else 0xBF)) := by
  have hlead : Lead.of? b = some ⟨2, b.toNat - 0xE0, if b.toNat = 0xE0 then 0xA0 else 0x80,
      if b.toNat = 0xED then 0x9F else 0xBF⟩ := by
    simp only [Lead.of?]
    split_ifs <;> first | omega | simp [*]
  simp [begin, hlead]

/-- The first octet of a character of four. -/
theorem begin_of_four {b : UInt8} (hlow : 0xF0 ≤ b.toNat) (hhigh : b.toNat < 0xF5) :
    begin b = ([], .owing 2 (b.toNat - 0xF0) (if b.toNat = 0xF0 then 0x90 else 0x80)
      (if b.toNat = 0xF4 then 0x8F else 0xBF)) := by
  have hlead : Lead.of? b = some ⟨3, b.toNat - 0xF0, if b.toNat = 0xF0 then 0x90 else 0x80,
      if b.toNat = 0xF4 then 0x8F else 0xBF⟩ := by
    simp only [Lead.of?]
    split_ifs <;> first | omega | simp [*]
  simp [begin, hlead]

/-- A character that is encoded is what its octets decode to. -/
theorem decodeFrom_encodeChar (c : Char) (rest : List UInt8) :
    decodeFrom .start (encodeChar c ++ rest) = c :: decodeFrom .start rest := by
  have hvalid : c.toNat < 0xD800 ∨ 0xDFFF < c.toNat ∧ c.toNat < 0x110000 := c.valid
  have hself : Char.ofNat c.toNat = c := Char.ofNat_toNat c
  generalize hn : c.toNat = n at *
  unfold encodeChar
  simp only [hn]
  split_ifs with hone htwo hthree
  · have hb := toNat_toUInt8 (n := n) (by omega)
    simp [decodeFrom, step, begin, Lead.of?, hb, hone, hself]
  · have hlead := toNat_toUInt8 (n := 0xC0 + n / 64) (by omega)
    have hlast := toNat_toUInt8 (n := 0x80 + n % 64) (by omega)
    have hvalue : 64 * (n / 64) + n % 64 = n := by omega
    simp only [List.cons_append, List.nil_append, decodeFrom]
    rw [step, begin_of_two (by omega) (by omega), step_last (by omega) (by omega), hlead, hlast]
    simp [hvalue, hself]
  · have hlead := toNat_toUInt8 (n := 0xE0 + n / 4096) (by omega)
    have hnext := toNat_toUInt8 (n := 0x80 + n / 64 % 64) (by omega)
    have hlast := toNat_toUInt8 (n := 0x80 + n % 64) (by omega)
    have hvalue : 64 * (64 * (n / 4096) + n / 64 % 64) + n % 64 = n := by omega
    simp only [List.cons_append, List.nil_append, decodeFrom]
    rw [step, begin_of_three (by omega) (by omega), step_more (by split_ifs <;> omega)
      (by split_ifs <;> omega), step_last (by omega) (by omega), hlead, hnext, hlast]
    simp [hvalue, hself]
  · have hlead := toNat_toUInt8 (n := 0xF0 + n / 262144) (by omega)
    have hnext := toNat_toUInt8 (n := 0x80 + n / 4096 % 64) (by omega)
    have hthird := toNat_toUInt8 (n := 0x80 + n / 64 % 64) (by omega)
    have hlast := toNat_toUInt8 (n := 0x80 + n % 64) (by omega)
    have hvalue : 64 * (64 * (64 * (n / 262144) + n / 4096 % 64) + n / 64 % 64) + n % 64 = n := by
      omega
    simp only [List.cons_append, List.nil_append, decodeFrom]
    rw [step, begin_of_four (by omega) (by omega), step_more (by split_ifs <;> omega)
      (by split_ifs <;> omega), step_more (by omega) (by omega), step_last (by omega) (by omega),
      hlead, hnext, hthird, hlast]
    simp [hvalue, hself]

theorem decodeLossy_encode (s : List Char) : decodeLossy (encode s) = s := by
  induction s with
  | nil => rfl
  | cons c rest ih =>
      rw [encode, List.flatMap_cons, decodeLossy, decodeFrom_encodeChar]
      exact congrArg (c :: ·) ih

end Conch.Text.Utf8
