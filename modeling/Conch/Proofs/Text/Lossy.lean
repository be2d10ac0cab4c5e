import Conch.Proofs.Text.Pieces
import Conch.Proofs.Text.Utf8

/-!
# Octets that need not be a text

The characters of ASCII are single octets, and they are the only ones that these octets occur in.
So it is the same whether a text is cut at some of them before it is encoded or behind, and
whether octets are cut before they are decoded or behind, even where they are no text.  What is
replaced in decoding, and what is decoded from several octets, is never one of them.
-/

namespace Conch.Text.Utf8

/-! ## Encoded characters -/

theorem encodeChar_of_ascii {c : Char} (h : c.toNat < 0x80) : encodeChar c = [c.toNat.toUInt8] := by
  simp [encodeChar, h]

/-- A character beyond ASCII has no octet of ASCII. -/
theorem le_of_mem_encodeChar {c : Char} (h : 0x80 ≤ c.toNat) {b : UInt8} (hb : b ∈ encodeChar c) :
    0x80 ≤ b.toNat := by
  have hvalid : c.toNat < 0xD800 ∨ 0xDFFF < c.toNat ∧ c.toNat < 0x110000 := c.valid
  simp only [encodeChar] at hb
  split_ifs at hb with hone htwo hthree
  · omega
  all_goals
    simp only [List.mem_cons, List.not_mem_nil, or_false] at hb
    rcases hb with rfl | rfl | rfl | rfl <;> rw [toNat_toUInt8 (by omega)] <;> omega

/-! ## Decoded characters -/

/-- Octets with values between bounds, and `more` octets behind them, complete a value to the
number of a character beyond ASCII. -/
def Completes : (more value low high : Nat) → Prop
  | 0, value, low, high => ∀ n, low ≤ n → n ≤ high →
      0x80 ≤ 64 * value + (n - 0x80) ∧ (64 * value + (n - 0x80)).isValidChar
  | more + 1, value, low, high => ∀ n, low ≤ n → n ≤ high →
      Completes more (64 * value + (n - 0x80)) 0x80 0xBF

/-- A state that no octet of ASCII goes on from, and that comes to nothing but a character beyond
ASCII. -/
def State.IsSound : State → Prop
  | .start => True
  | .owing more value low high => 0x80 ≤ low ∧ Completes more value low high

/-- An octet of ASCII is a character by itself, and breaks off what has been begun. -/
theorem step_of_ascii {state : State} (hsound : state.IsSound) {b : UInt8} (hb : b.toNat < 0x80) :
    step state b = (state.finish ++ [Char.ofNat b.toNat], .start) := by
  have hbegin : begin b = ([Char.ofNat b.toNat], .start) := by
    simp [begin, Lead.of?, hb]
  cases state with
  | start => exact hbegin
  | owing more value low high =>
      have hlow : ¬ (low ≤ b.toNat ∧ b.toNat ≤ high) := by
        have := hsound.1
        omega
      rw [step, if_neg hlow, hbegin]
      rfl

theorem replacement_beyond : 0x80 ≤ replacement.toNat := by decide

theorem toNat_ofNat_of_valid {n : Nat} (h : n.isValidChar) : (Char.ofNat n).toNat = n := by
  rw [Char.ofNat, dif_pos h]
  rfl

theorem toNat_ofNat_octet (b : UInt8) : (Char.ofNat b.toNat).toNat = b.toNat :=
  toNat_ofNat_of_valid (.inl (by have := b.toNat_lt; omega))

theorem le_toNat_ofNat {n : Nat} (h : 0x80 ≤ n ∧ n.isValidChar) : 0x80 ≤ (Char.ofNat n).toNat := by
  rw [toNat_ofNat_of_valid h.2]
  exact h.1

/-- What an octet beyond ASCII begins is beyond ASCII. -/
theorem begin_beyond {b : UInt8} (hb : 0x80 ≤ b.toNat) :
    (∀ c ∈ (begin b).1, 0x80 ≤ c.toNat) ∧ (begin b).2.IsSound ∧
      ((begin b).1 ≠ [] ∨ (begin b).2 ≠ .start) := by
  have hvalid : ∀ n, 0x80 ≤ n → (n < 0xD800 ∨ 0xDFFF < n ∧ n < 0x110000) →
      0x80 ≤ n ∧ n.isValidChar := fun n hn hrange => ⟨hn, hrange⟩
  -- how many octets follow is read off the first one, and so are the bounds of the second: they
  -- leave out what fewer octets could say, the surrogates, and what is no character
  by_cases htwo : 0xC2 ≤ b.toNat ∧ b.toNat < 0xE0
  · rw [begin_of_two htwo.1 htwo.2]
    refine ⟨nofun, ⟨le_refl _, fun n hlow hhigh => hvalid _ ?_ ?_⟩, .inr nofun⟩ <;> omega
  by_cases hthree : 0xE0 ≤ b.toNat ∧ b.toNat < 0xF0
  · rw [begin_of_three hthree.1 hthree.2]
    refine ⟨nofun, ⟨by split_ifs <;> omega, fun n hlow hhigh m hm hmost => hvalid _ ?_ ?_⟩,
      .inr nofun⟩
    · split_ifs at hlow <;> omega
    · split_ifs at hlow hhigh <;> omega
  by_cases hfour : 0xF0 ≤ b.toNat ∧ b.toNat < 0xF5
  · rw [begin_of_four hfour.1 hfour.2]
    refine ⟨nofun, ⟨by split_ifs <;> omega, fun n hlow hhigh m hm hmost k hk hkmost =>
      hvalid _ ?_ ?_⟩, .inr nofun⟩
    · split_ifs at hlow <;> omega
    · split_ifs at hlow hhigh <;> omega
  · have hnone : Lead.of? b = none := by
      simp only [Lead.of?]
      split_ifs <;> first | rfl | omega
    have hbegin : begin b = ([replacement], .start) := by simp [begin, hnone]
    rw [hbegin]
    exact ⟨by simpa using replacement_beyond, trivial, .inl (List.cons_ne_nil _ _)⟩

/-- What an octet beyond ASCII completes, breaks off or begins is beyond ASCII. -/
theorem step_beyond {state : State} (hsound : state.IsSound) {b : UInt8} (hb : 0x80 ≤ b.toNat) :
    (∀ c ∈ (step state b).1, 0x80 ≤ c.toNat) ∧ (step state b).2.IsSound ∧
      ((step state b).1 ≠ [] ∨ (step state b).2 ≠ .start) := by
  cases state with
  | start => exact begin_beyond hb
  | owing more value low high =>
      by_cases hrange : low ≤ b.toNat ∧ b.toNat ≤ high
      · have hnext := hsound.2
        cases more with
        | zero =>
            rw [step_last hrange.1 hrange.2]
            have hvalue := le_toNat_ofNat (hnext _ hrange.1 hrange.2)
            exact ⟨by simpa using hvalue, trivial, .inl (List.cons_ne_nil _ _)⟩
        | succ more =>
            rw [step_more hrange.1 hrange.2]
            exact ⟨nofun, ⟨le_refl _, hnext _ hrange.1 hrange.2⟩, .inr nofun⟩
      · obtain ⟨hchars, hstate, -⟩ := begin_beyond hb
        rw [step, if_neg hrange]
        refine ⟨?_, hstate, .inl (List.cons_ne_nil _ _)⟩
        rw [List.forall_mem_cons]
        exact ⟨replacement_beyond, hchars⟩

/-- So a character beyond ASCII comes at once, or one has been begun. -/
theorem step_beyond_or {state : State} (hsound : state.IsSound) {b : UInt8} (hb : 0x80 ≤ b.toNat) :
    (∃ c ∈ (step state b).1, 0x80 ≤ c.toNat) ∨
      (step state b).2.IsSound ∧ (step state b).2 ≠ .start := by
  obtain ⟨hchars, hstate, hsome | hsome⟩ := step_beyond hsound hb
  · obtain ⟨c, later, hcons⟩ := List.exists_cons_of_ne_nil hsome
    exact .inl ⟨c, by simp [hcons], hchars c (by simp [hcons])⟩
  · exact .inr ⟨hstate, hsome⟩

theorem finish_beyond (state : State) : ∀ c ∈ state.finish, 0x80 ≤ c.toNat := by
  cases state with
  | start => exact nofun
  | owing => simpa [State.finish] using replacement_beyond

theorem State.IsSound.step {state : State} (hsound : state.IsSound) (b : UInt8) :
    (step state b).2.IsSound := by
  by_cases hb : b.toNat < 0x80
  · rw [step_of_ascii hsound hb]
    trivial
  · exact (step_beyond hsound (Nat.le_of_not_lt hb)).2.1

/-- An octet of ASCII parts what is decoded from the octets before it and behind it. -/
theorem decodeFrom_append_cons {state : State} (hsound : state.IsSound) {b : UInt8}
    (hb : b.toNat < 0x80) (s t : List UInt8) :
    decodeFrom state (s ++ b :: t) =
      decodeFrom state s ++ Char.ofNat b.toNat :: decodeLossy t := by
  induction s generalizing state with
  | nil => simp [decodeFrom, step_of_ascii hsound hb, decodeLossy]
  | cons d rest ih => simp [decodeFrom, ih (hsound.step d)]

/-- Once a character has been begun, one beyond ASCII will come. -/
theorem exists_beyond {state : State} (hsound : state.IsSound) (howing : state ≠ .start)
    (bytes : List UInt8) : ∃ c ∈ decodeFrom state bytes, 0x80 ≤ c.toNat := by
  induction bytes generalizing state with
  | nil =>
      cases state with
      | start => exact absurd rfl howing
      | owing => exact ⟨replacement, List.mem_cons_self, replacement_beyond⟩
  | cons b rest ih =>
      have hchar : (∃ c ∈ (step state b).1, 0x80 ≤ c.toNat) ∨
          (step state b).2.IsSound ∧ (step state b).2 ≠ .start := by
        by_cases hb : b.toNat < 0x80
        · cases state with
          | start => exact absurd rfl howing
          | owing =>
              rw [step_of_ascii hsound hb]
              exact .inl ⟨replacement, List.mem_cons_self, replacement_beyond⟩
        · exact step_beyond_or hsound (Nat.le_of_not_lt hb)
      rcases hchar with ⟨c, hc, hbeyond⟩ | ⟨hstate, hsome⟩
      · exact ⟨c, List.mem_append_left _ hc, hbeyond⟩
      · obtain ⟨c, hc, hbeyond⟩ := ih hstate hsome
        exact ⟨c, List.mem_append_right _ hc, hbeyond⟩

/-- A text of ASCII is decoded from nothing but its own octets. -/
theorem decodeLossy_eq_iff {s : List Char} (hascii : ∀ c ∈ s, c.toNat < 0x80)
    (bytes : List UInt8) : decodeLossy bytes = s ↔ bytes = encode s := by
  refine ⟨fun h => ?_, fun h => by rw [h, decodeLossy_encode]⟩
  induction bytes generalizing s with
  | nil =>
      obtain rfl : s = [] := h.symm
      rfl
  | cons b rest ih =>
      by_cases hb : b.toNat < 0x80
      · have hstep : decodeLossy (b :: rest) = Char.ofNat b.toNat :: decodeLossy rest := by
          have hsound : State.IsSound .start := trivial
          simp [decodeLossy, decodeFrom, step_of_ascii hsound hb, State.finish]
        rw [hstep] at h
        subst h
        rw [List.forall_mem_cons] at hascii
        have hchar : encodeChar (Char.ofNat b.toNat) = [b] := by
          rw [encodeChar_of_ascii hascii.1, toNat_ofNat_octet]
          simp
        rw [encode, List.flatMap_cons, hchar]
        exact congrArg (b :: ·) (ih hascii.2 rfl)
      · -- such an octet leaves a character that cannot be one of `s`
        have hsound : State.IsSound .start := trivial
        exfalso
        obtain ⟨c, hc, hbeyond⟩ : ∃ c ∈ s, 0x80 ≤ c.toNat := by
          rw [← h, decodeLossy, decodeFrom]
          rcases step_beyond_or hsound (Nat.le_of_not_lt hb) with ⟨c, hc, hbeyond⟩ | ⟨hstate, hsome⟩
          · exact ⟨c, List.mem_append_left _ hc, hbeyond⟩
          · obtain ⟨c, hc, hbeyond⟩ := exists_beyond hstate hsome rest
            exact ⟨c, List.mem_append_right _ hc, hbeyond⟩
        have := hascii c hc
        omega

/-! ## Cutting -/

section Cutting

/-- A separator between octets, from one between characters. -/
def onOctets (sep : Char → Bool) (b : UInt8) : Bool :=
  sep (Char.ofNat b.toNat)

theorem onOctets_char (c : Char) (h : c.toNat < 0x80) :
    onOctets (· = c) = (· = c.toNat.toUInt8) := by
  funext b
  simp only [onOctets, decide_eq_decide]
  rw [← Char.toNat_inj, toNat_ofNat_octet, ← UInt8.toNat_inj, toNat_toUInt8 (by omega)]

variable {sep : Char → Bool} (hascii : ∀ c, sep c = true → c.toNat < 0x80)
include hascii

theorem onOctets_beyond {b : UInt8} (hb : 0x80 ≤ b.toNat) : onOctets sep b = false := by
  rw [onOctets, ← Bool.not_eq_true]
  intro hsep
  have := hascii _ hsep
  rw [toNat_ofNat_octet] at this
  omega

theorem sep_beyond {chars : List Char} (h : ∀ c ∈ chars, 0x80 ≤ c.toNat) :
    ∀ c ∈ chars, sep c = false := by
  intro c hc
  rw [← Bool.not_eq_true]
  intro hsep
  have := hascii c hsep
  have := h c hc
  omega

/-- A text is cut as its octets are. -/
theorem splitBy_encode (s : List Char) :
    splitBy (onOctets sep) (encode s) = (splitBy sep s).map encode := by
  induction s with
  | nil => rfl
  | cons c rest ih =>
      rw [encode, List.flatMap_cons]
      by_cases hsep : sep c = true
      · have hc := hascii c hsep
        have hoctet : onOctets sep c.toNat.toUInt8 = true := by
          rw [onOctets, toNat_toUInt8 (by omega), Char.ofNat_toNat, hsep]
        rw [encodeChar_of_ascii hc, List.singleton_append, splitBy_cons_of_sep hoctet,
          splitBy_cons_of_sep hsep, List.map_cons]
        exact congrArg ([] :: ·) ih
      · obtain ⟨piece, pieces, hrest⟩ := List.exists_cons_of_ne_nil (splitBy_ne_nil sep rest)
        rw [hrest, List.map_cons] at ih
        -- no octet of a longer character is one of ASCII
        have hplain : ∀ b ∈ encodeChar c, onOctets sep b = false := by
          intro b hb
          by_cases hc : c.toNat < 0x80
          · rw [encodeChar_of_ascii hc, List.mem_singleton] at hb
            rw [hb, onOctets, toNat_toUInt8 (by omega), Char.ofNat_toNat]
            simpa using hsep
          · exact onOctets_beyond hascii (le_of_mem_encodeChar (Nat.le_of_not_lt hc) hb)
        have hpieces : splitBy sep (c :: rest) = (c :: piece) :: pieces := by
          simp [splitBy, hsep, hrest]
        rw [hpieces, List.map_cons]
        exact splitBy_append_of_none hplain ih

theorem splitBy_decodeFrom {state : State} (hsound : state.IsSound) {bytes piece : List UInt8}
    {pieces : List (List UInt8)} (h : splitBy (onOctets sep) bytes = piece :: pieces) :
    splitBy sep (decodeFrom state bytes) = decodeFrom state piece :: pieces.map decodeLossy := by
  induction bytes generalizing state piece pieces with
  | nil =>
      obtain ⟨rfl, rfl⟩ := List.cons.inj h
      exact splitBy_of_none (sep_beyond hascii (finish_beyond state))
  | cons b rest ih =>
      obtain ⟨first, later, hrest⟩ :=
        List.exists_cons_of_ne_nil (splitBy_ne_nil (onOctets sep) rest)
      by_cases hsep : onOctets sep b = true
      · rw [splitBy_cons_of_sep hsep] at h
        obtain ⟨rfl, rfl⟩ := List.cons.inj h
        -- a separator is a single octet, and ends what has been begun
        have hb : b.toNat < 0x80 := by
          by_contra hbeyond
          rw [onOctets_beyond hascii (Nat.le_of_not_lt hbeyond)] at hsep
          cases hsep
        have hstart : State.IsSound .start := trivial
        have hdecoded : decodeFrom state (b :: rest) =
            state.finish ++ Char.ofNat b.toNat :: decodeLossy rest :=
          decodeFrom_append_cons hsound hb [] rest
        have hchar : sep (Char.ofNat b.toNat) = true := hsep
        rw [hdecoded, splitBy_append_cons hchar, decodeLossy, ih hstart hrest,
          splitBy_of_none (sep_beyond hascii (finish_beyond state)), hrest]
        rfl
      · have hpieces : splitBy (onOctets sep) (b :: rest) = (b :: first) :: later := by
          simp [splitBy, hsep, hrest]
        rw [hpieces] at h
        obtain ⟨rfl, rfl⟩ := List.cons.inj h
        -- an octet that separates nothing adds no separator to the text
        have hplain : (∀ c ∈ (step state b).1, sep c = false) ∧ (step state b).2.IsSound := by
          by_cases hb : b.toNat < 0x80
          · rw [step_of_ascii hsound hb]
            refine ⟨?_, trivial⟩
            rw [List.forall_mem_append]
            exact ⟨sep_beyond hascii (finish_beyond state), by simpa [onOctets] using hsep⟩
          · obtain ⟨hchars, hstate, -⟩ := step_beyond hsound (Nat.le_of_not_lt hb)
            exact ⟨sep_beyond hascii hchars, hstate⟩
        exact splitBy_append_of_none hplain.1 (ih hplain.2 hrest)

/-- What octets are decoded to is cut as they are. -/
theorem splitBy_decodeLossy (bytes : List UInt8) :
    splitBy sep (decodeLossy bytes) = (splitBy (onOctets sep) bytes).map decodeLossy := by
  obtain ⟨piece, pieces, h⟩ := List.exists_cons_of_ne_nil (splitBy_ne_nil (onOctets sep) bytes)
  have hstart : State.IsSound .start := trivial
  rw [decodeLossy, splitBy_decodeFrom hascii hstart h, h]
  rfl

end Cutting

end Conch.Text.Utf8
