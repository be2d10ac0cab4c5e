import Conch.Text.Ascii

/-!
# Punycode

Labels of host names are written in ASCII: first the ASCII characters of the label, then
a number for each of the others, in the order of their code points.  A number is the
count of places passed since the one before, in base 36 with digits of varying weight.
-/

namespace Conch.Url.Punycode

/-- The first code point that is not written as itself. -/
def firstPoint : Nat := 128

/-- The bias before any number has been written. -/
def firstBias : Nat := 72

/-- The first number that is too great to be read. -/
def numberLimit : Nat := Nat.pow 2 32

/-- The digit of a value below 36: letters first, then decimal digits. -/
def digit (value : Nat) : Char :=
  if value < 26 then Char.ofNat (97 + value) else Char.ofNat (22 + value)

/-- The value of a digit, in either case. -/
def digitValue? (c : Char) : Option Nat :=
  let c := Text.asciiLowerChar c
  if Text.isDigit c then some (c.toNat - 22)
  else if Text.isLetter c then some (c.toNat - 97)
  else none

/-- The weight limit of the digit at index `k`. -/
def threshold (bias k : Nat) : Nat :=
  min 26 (max 1 (36 * (k + 1) - bias))

theorem threshold_pos (bias k : Nat) : 0 < threshold bias k := by
  unfold threshold
  omega

/-- Halves a distance to the size where its bias can be read off, counting the steps. -/
def scaleDown (delta steps : Nat) : Nat × Nat :=
  if 455 < delta then scaleDown (delta / 35) (steps + 1) else (delta, steps)
termination_by delta
decreasing_by omega

/-- The bias after a number has been written. -/
def adapt (delta points : Nat) (isFirst : Bool) : Nat :=
  let delta := if isFirst then delta / 700 else delta / 2
  let (delta, steps) := scaleDown (delta + delta / points) 0
  36 * steps + 36 * delta / (delta + 38)

/-- A number in digits of varying weight, from the digit at index `k` on. -/
def writeNumber (bias k n : Nat) : List Char :=
  let limit := threshold bias k
  if n < limit then [digit n]
  else
    digit (limit + (n - limit) % (36 - limit)) ::
      writeNumber bias (k + 1) ((n - limit) / (36 - limit))
termination_by n
decreasing_by
  have positive := threshold_pos bias k
  exact Nat.lt_of_le_of_lt (Nat.div_le_self _ _) (by omega)

/-- Where writing stands. -/
structure Writing where
  point : Nat
  delta : Nat
  bias : Nat
  /-- The characters handled so far. -/
  handled : Nat
  text : List Char

/-- Passes one character of the label on the way to those with the code point of the
round. -/
def Writing.pass (ascii : Nat) (state : Writing) (c : Char) : Writing :=
  if c.toNat < state.point then { state with delta := state.delta + 1 }
  else if c.toNat = state.point then
    { state with
      text := state.text ++ writeNumber state.bias 0 state.delta
      bias := adapt state.delta (state.handled + 1) (state.handled = ascii)
      delta := 0
      handled := state.handled + 1 }
  else state

/-- Writes the characters of a label that have a code point, in one round over the label. -/
def Writing.round (label : List Char) (ascii : Nat) (state : Writing) (point : Nat) : Writing :=
  let delta := state.delta + (point - state.point) * (state.handled + 1)
  let state := label.foldl (Writing.pass ascii) { state with point, delta }
  { state with point := state.point + 1, delta := state.delta + 1 }

/-- The code points of a label that are not written as themselves, ascending. -/
def points (label : List Char) : List Nat :=
  let beyond := (label.map Char.toNat).filter fun n => firstPoint ≤ n
  (beyond.mergeSort fun a b => decide (a ≤ b)).eraseReps

/-- A label in ASCII. -/
def encode (label : List Char) : List Char :=
  let ascii := label.filter fun c => c.toNat < firstPoint
  let start := if ascii.isEmpty then [] else ascii ++ ['-']
  let state : Writing := ⟨firstPoint, 0, firstBias, ascii.length, start⟩
  ((points label).foldl (Writing.round label ascii.length) state).text

/-- Reads a number: its value and the text after it. -/
def readNumber (bias : Nat) : List Char → (k weight value : Nat) → Option (Nat × List Char)
  | [], _, _, _ => none
  | c :: rest, k, weight, value =>
      match digitValue? c with
      | none => none
      | some d =>
          let value := value + d * weight
          let limit := threshold bias k
          if numberLimit ≤ value then none
          else if d < limit then some (value, rest)
          else if numberLimit ≤ weight * (36 - limit) then none
          else readNumber bias rest (k + 1) (weight * (36 - limit)) value

theorem readNumber_rest_length {bias : Nat} {text : List Char} {k weight value : Nat}
    {n : Nat} {rest : List Char} (h : readNumber bias text k weight value = some (n, rest)) :
    rest.length < text.length := by
  induction text generalizing k weight value with
  | nil => simp [readNumber] at h
  | cons c tail ih =>
      simp only [readNumber] at h
      split at h
      · simp at h
      · split at h
        · simp at h
        · split at h
          · obtain ⟨-, rfl⟩ := Prod.mk.inj (Option.some.inj h)
            simp
          · split at h
            · simp at h
            · exact Nat.lt_succ_of_lt (ih h)

/-- Puts the characters that numbers stand for into a label.  The next one has a code point
from `point` on and a place from `place` on. -/
def readNumbers (text : List Char) (point place bias : Nat) (label : List Char) :
    Option (List Char) :=
  if text.isEmpty then some label
  else
    match _h : readNumber bias text 0 1 place with
    | none => none
    | some (next, rest) =>
        let count := label.length + 1
        let point := point + next / count
        if point.isValidChar then
          let index := next % count
          readNumbers rest point (index + 1) (adapt (next - place) count (place = 0))
            (label.take index ++ Char.ofNat point :: label.drop index)
        else none
termination_by text.length
decreasing_by exact readNumber_rest_length (by assumption)

/-- The text before the last hyphen and the text after it.  A text without a hyphen, or with
one only at its start, comes after. -/
def splitAtLastHyphen (text : List Char) : List Char × List Char :=
  let tail := (text.reverse.takeWhile (· ≠ '-')).reverse
  let head := (text.take (text.length - tail.length)).dropLast
  if head.isEmpty then ([], text) else (head, tail)

/-- The label that an ASCII text writes. -/
def decode (text : List Char) : Option (List Char) :=
  let (ascii, numbers) := splitAtLastHyphen text
  readNumbers numbers firstPoint 0 firstBias ascii

end Conch.Url.Punycode
