import Conch.Files.Source
import Mathlib.Data.Seq.Basic

/-!
# Reading a stream

What an open file delivers is a stream of octets with or without an end, cut into chunks of any
sizes.  `Took` follows a capped reading turn by turn.  What has been taken is always the start of
the stream and never more than one octet beyond the cap, so the reading comes to the whole stream or
is refused, whatever the chunks.
-/

namespace Conch.Files

open Stream'

/-! ## Turns -/

/-- An open file that delivers a stream: asked for octets, it gives the next ones, at least one and
at most as many as were asked for, and none only at the end. -/
def Source.Delivers (source : Source) (stream : Seq UInt8) : Prop :=
  ∀ offset count, 0 < count → ∃ size, 0 < size ∧ size ≤ count ∧
    source.read offset count = .ok ((stream.drop offset).take size)

/-- How many octets a turn asks for. -/
def askedFor (cap : Nat) (taken : List UInt8) : Nat :=
  min chunkSize (cap + 1 - taken.length)

/-- So many turns of a capped reading take these octets, and none of them has met the end. -/
inductive Source.Took (source : Source) (cap : Nat) : Nat → List UInt8 → Prop
  | start : Took source cap 0 []
  | turn {turns : Nat} {taken chunk : List UInt8} (htook : Took source cap turns taken)
      (hroom : taken.length ≤ cap)
      (hread : source.read taken.length (askedFor cap taken) = .ok chunk) (hmore : chunk ≠ []) :
      Took source cap (turns + 1) (taken ++ chunk)

section Took

variable {source : Source} {stream : Seq UInt8} {cap : Nat}

theorem askedFor_pos {taken : List UInt8} (h : taken.length ≤ cap) : 0 < askedFor cap taken := by
  have hchunk : chunkSize = 8192 := rfl
  unfold askedFor
  omega

/-- As long as nobody asks to stop, a reading passes through its turns. -/
theorem Source.Took.drain_eq {turns : Nat} {taken : List UInt8}
    (h : source.Took cap turns taken) {cancelled : Nat → Bool}
    (hlive : ∀ turn < turns, cancelled turn = false) (left : Nat) :
    source.drain cancelled cap (left + turns) 0 [] =
      source.drain cancelled cap left turns taken := by
  induction h generalizing left with
  | start => rfl
  | @turn turns taken chunk htook hroom hread hmore ih =>
      have hearlier := ih (fun turn hturn => hlive turn (Nat.lt_succ_of_lt hturn)) (left + 1)
      rw [Nat.add_right_comm, Nat.add_assoc] at hearlier
      rw [hearlier]
      have hcount : askedFor cap taken ≠ 0 := (askedFor_pos hroom).ne'
      obtain ⟨b, rest, rfl⟩ := List.exists_cons_of_ne_nil hmore
      unfold askedFor at hcount hread
      simp only [Source.drain, hlive turns (Nat.lt_succ_self turns), Bool.false_eq_true, if_false,
        if_neg hcount, hread]

/-- The start of a stream as far as it has been taken, and the next chunk. -/
theorem take_append_chunk {taken : List UInt8} (htaken : taken = stream.take taken.length)
    (size : Nat) :
    taken ++ (stream.drop taken.length).take size =
      stream.take (taken ++ (stream.drop taken.length).take size).length := by
  have hlength : ((stream.drop taken.length).take size).length ≤ size := Seq.length_take_le
  refine List.ext_getElem? fun place => ?_
  rw [Seq.getElem?_take, List.length_append]
  by_cases hbefore : place < taken.length
  · rw [List.getElem?_append_left hbefore, if_pos (by omega), htaken, Seq.getElem?_take,
      if_pos hbefore]
  · rw [List.getElem?_append_right (Nat.le_of_not_lt hbefore)]
    by_cases hwithin : place - taken.length < ((stream.drop taken.length).take size).length
    · rw [if_pos (by omega), Seq.getElem?_take, if_pos (by omega), Seq.drop_get?,
        Nat.add_sub_of_le (Nat.le_of_not_lt hbefore)]
    · rw [if_neg (by omega), List.getElem?_eq_none (Nat.le_of_not_lt hwithin)]

/-- What has been taken is the start of the stream. -/
theorem Source.Took.taken_eq (hdelivers : source.Delivers stream) {turns : Nat}
    {taken : List UInt8} (h : source.Took cap turns taken) :
    taken = stream.take taken.length ∧ turns ≤ taken.length ∧ taken.length ≤ cap + 1 := by
  induction h with
  | start => exact ⟨by simp, Nat.le_refl _, Nat.zero_le _⟩
  | @turn turns taken chunk htook hroom hread hmore ih =>
      obtain ⟨htaken, hturns, -⟩ := ih
      obtain ⟨size, -, hsize, hgiven⟩ := hdelivers taken.length _ (askedFor_pos hroom)
      obtain rfl : chunk = (stream.drop taken.length).take size := by
        simpa using hread.symm.trans hgiven
      have hlength : ((stream.drop taken.length).take size).length ≤ size := Seq.length_take_le
      have hpositive := List.length_pos_iff.mpr hmore
      have hasked : askedFor cap taken ≤ cap + 1 - taken.length := Nat.min_le_right _ _
      refine ⟨take_append_chunk htaken size, ?_, ?_⟩ <;> rw [List.length_append] <;> omega

/-- A chunk is empty only at the end of the stream. -/
theorem take_drop_eq_nil_iff {offset size : Nat} (hpositive : 0 < size) :
    (stream.drop offset).take size = [] ↔ stream.TerminatedAt offset := by
  constructor
  · intro h
    have hfirst : ((stream.drop offset).take size)[0]? = none := by rw [h]; rfl
    rwa [Seq.getElem?_take, if_pos hpositive, Seq.drop_get?] at hfirst
  · intro hend
    refine List.ext_getElem? fun place => ?_
    rw [Seq.getElem?_take, Seq.drop_get?, stream.le_stable (Nat.le_add_right _ _) hend, ite_self,
      List.getElem?_nil]

/-- The start of a stream is the whole stream if it is shorter than was asked for. -/
theorem terminatedAt_of_length_take_lt {count : Nat} (h : (stream.take count).length < count) :
    stream.TerminatedAt (stream.take count).length := by
  have hbehind : (stream.take count)[(stream.take count).length]? = none :=
    List.getElem?_eq_none (Nat.le_refl _)
  rwa [Seq.getElem?_take, if_pos h] at hbehind

/-- Beyond the end of a stream nothing more is taken. -/
theorem take_eq_of_terminatedAt {length count : Nat} (hend : stream.TerminatedAt length)
    (hle : length ≤ count) : stream.take length = stream.take count := by
  refine List.ext_getElem? fun place => ?_
  rw [Seq.getElem?_take, Seq.getElem?_take]
  by_cases hbefore : place < length
  · rw [if_pos hbefore, if_pos (Nat.lt_of_lt_of_le hbefore hle)]
  · rw [if_neg hbefore, stream.le_stable (Nat.le_of_not_lt hbefore) hend, ite_self]

/-- A reading has taken the whole stream or one octet more than the cap, or there is one more
turn. -/
theorem Source.Took.goes_on (hdelivers : source.Delivers stream) {turns : Nat}
    {taken : List UInt8} (h : source.Took cap turns taken) :
    taken = stream.take (cap + 1) ∨
      ∃ chunk, chunk ≠ [] ∧ source.Took cap (turns + 1) (taken ++ chunk) := by
  obtain ⟨htaken, -, hcap⟩ := h.taken_eq hdelivers
  by_cases hroom : taken.length ≤ cap
  · obtain ⟨size, hpositive, -, hread⟩ := hdelivers taken.length _ (askedFor_pos hroom)
    by_cases hchunk : (stream.drop taken.length).take size = []
    · left
      rw [htaken]
      exact take_eq_of_terminatedAt ((take_drop_eq_nil_iff hpositive).mp hchunk) hcap
    · exact .inr ⟨_, hchunk, h.turn hroom hread hchunk⟩
  · left
    have hlength : taken.length = cap + 1 := by omega
    rw [htaken, hlength]

/-- So a reading that nobody stops gets there. -/
theorem exists_took (cap : Nat) (hdelivers : source.Delivers stream) :
    ∃ turns, source.Took cap turns (stream.take (cap + 1)) := by
  suffices hgoes : ∀ (turns : Nat) (taken : List UInt8), source.Took cap turns taken →
      ∃ turns, source.Took cap turns (stream.take (cap + 1)) from hgoes 0 [] .start
  intro turns taken htook
  induction hdistance : cap + 1 - taken.length using Nat.strong_induction_on
    generalizing turns taken with
  | _ distance ih =>
      rcases htook.goes_on hdelivers with hdone | ⟨chunk, hmore, hnext⟩
      · exact ⟨turns, hdone ▸ htook⟩
      · -- the next turn takes more, and not beyond the cap
        obtain ⟨-, -, hcap⟩ := hnext.taken_eq hdelivers
        have hpositive := List.length_pos_iff.mpr hmore
        rw [List.length_append] at hcap
        exact ih _ (by rw [List.length_append]; omega) (turns + 1) _ hnext rfl

/-! ## The whole reading -/

/-- A reading that nobody stops takes the stream as far as one octet beyond the cap. -/
theorem drain_of_live (cap : Nat) (hdelivers : source.Delivers stream) {cancelled : Nat → Bool}
    (hlive : ∀ turn, cancelled turn = false) :
    source.drain cancelled cap (cap + 2) 0 [] = .ok (stream.take (cap + 1)) := by
  obtain ⟨turns, htook⟩ := exists_took cap hdelivers
  obtain ⟨-, hturns, hcap⟩ := htook.taken_eq hdelivers
  have hleft : cap + 2 = (cap + 1 - turns) + 1 + turns := by omega
  rw [hleft, htook.drain_eq fun turn _ => hlive turn]
  simp only [Source.drain, hlive, Bool.false_eq_true, if_false]
  split
  · rfl
  · next hcount =>
      have hroom : (stream.take (cap + 1)).length ≤ cap := by
        omega
      have hend := terminatedAt_of_length_take_lt (Nat.lt_succ_of_le hroom)
      obtain ⟨size, hpositive, -, hread⟩ := hdelivers _ _ (askedFor_pos hroom)
      unfold askedFor at hread
      rw [hread, (take_drop_eq_nil_iff hpositive).mpr hend]

/-- A request to stop is met before the next turn. -/
theorem drain_of_cancelled (hdelivers : source.Delivers stream) {cancelled : Nat → Bool}
    {turns : Nat} {taken : List UInt8} (htook : source.Took cap turns taken)
    (hlive : ∀ turn < turns, cancelled turn = false) (hcancelled : cancelled turns = true) :
    source.drain cancelled cap (cap + 2) 0 [] = .error .aborted := by
  obtain ⟨-, hturns, hcap⟩ := htook.taken_eq hdelivers
  have hleft : cap + 2 = (cap + 1 - turns) + 1 + turns := by omega
  rw [hleft, htook.drain_eq hlive]
  simp only [Source.drain, hcancelled, if_true]

/-- Nothing is asked for beyond one octet more than the cap. -/
theorem drain_congr {other : Source}
    (hsame : ∀ offset count, offset + count ≤ cap + 1 →
      other.read offset count = source.read offset count)
    (cancelled : Nat → Bool) (left turn : Nat) (taken : List UInt8) :
    other.drain cancelled cap left turn taken = source.drain cancelled cap left turn taken := by
  induction left generalizing turn taken with
  | zero => rfl
  | succ left ih =>
      simp only [Source.drain]
      split
      · rfl
      · split
        · rfl
        · next hcount =>
            have hwithin : taken.length + min chunkSize (cap + 1 - taken.length) ≤ cap + 1 := by
              omega
            rw [hsame _ _ hwithin]
            split <;> first | rfl | exact ih _ _

theorem length'_ofList_le_iff {bytes : List UInt8} {cap : Nat} :
    (Seq.ofList bytes).length' ≤ (cap : ENat) ↔ bytes.length ≤ cap := by
  rw [Seq.length'_le_iff, Seq.TerminatedAt, Seq.ofList_get?, List.getElem?_eq_none_iff]

/-- A stream of bounded length has an end. -/
theorem exists_ofList_of_length'_le {stream : Seq UInt8} {cap : Nat}
    (h : stream.length' ≤ (cap : ENat)) : ∃ bytes, stream = Seq.ofList bytes :=
  ⟨stream.toList ⟨cap, Seq.length'_le_iff.mp h⟩, (Seq.ofList_toList _ _).symm⟩

/-- A reading that nobody stops comes to the whole stream if that is within the cap, and otherwise
is refused. -/
theorem readAll_of_live (cap : Nat) (hdelivers : source.Delivers stream) {cancelled : Nat → Bool}
    (hlive : ∀ turn, cancelled turn = false) :
    (∀ bytes : List UInt8, stream = Seq.ofList bytes → bytes.length ≤ cap →
        source.readAll cancelled cap = .ok bytes) ∧
      (cap < stream.length' → source.readAll cancelled cap = .error .tooLarge) := by
  have hdrain := drain_of_live cap hdelivers hlive
  refine ⟨fun bytes hbytes hlength => ?_, fun hlong => ?_⟩
  · have htake : stream.take (cap + 1) = bytes := by
      refine List.ext_getElem? fun place => ?_
      rw [hbytes, Seq.getElem?_take, Seq.ofList_get?]
      split
      · rfl
      · exact (List.getElem?_eq_none (by omega)).symm
    simp only [Source.readAll, hdrain, htake, if_neg (Nat.not_lt.mpr hlength)]
  · obtain ⟨b, hb⟩ := Seq.lt_length'_iff.mp hlong
    have hbeyond : (stream.take (cap + 1))[cap]? = some b := by
      rw [Seq.getElem?_take, if_pos (Nat.lt_succ_self cap)]
      exact hb
    have hlength := (List.getElem?_eq_some_iff.mp hbeyond).1
    simp only [Source.readAll, hdrain, if_pos hlength]

end Took

/-- A file delivers its octets. -/
theorem delivers_ofBytes (bytes : List UInt8) :
    (Source.ofBytes bytes).Delivers (Seq.ofList bytes) := by
  refine fun offset count hcount => ⟨count, hcount, Nat.le_refl _, congrArg Except.ok ?_⟩
  refine List.ext_getElem? fun place => ?_
  rw [Seq.getElem?_take, Seq.drop_get?, Seq.ofList_get?, List.getElem?_take, List.getElem?_drop]

end Conch.Files
