/-!
# UTF-8

Encoding of characters into octets, strict decoding, and the lossy decoding that
puts one replacement character for every maximal prefix of a well-formed sequence
that the octets break off.
-/

namespace Conch.Text.Utf8

/-- The octets of one character. -/
def encodeChar (c : Char) : List UInt8 :=
  let n := c.toNat
  if n < 0x80 then [n.toUInt8]
  else if n < 0x800 then [(0xC0 + n / 64).toUInt8, (0x80 + n % 64).toUInt8]
  else if n < 0x10000 then
    [(0xE0 + n / 4096).toUInt8, (0x80 + n / 64 % 64).toUInt8, (0x80 + n % 64).toUInt8]
  else
    [(0xF0 + n / 262144).toUInt8, (0x80 + n / 4096 % 64).toUInt8,
      (0x80 + n / 64 % 64).toUInt8, (0x80 + n % 64).toUInt8]

/-- The octets of a text. -/
def encode (s : List Char) : List UInt8 :=
  s.flatMap encodeChar

/-- What a lead octet announces: how many octets follow it, the value bits it
carries, and the range that the first of the following octets must lie in. -/
structure Lead where
  following : Nat
  bits : Nat
  low : Nat
  high : Nat

/-- The lead octets of well-formed sequences.  The ranges exclude overlong forms,
surrogates and values beyond the last code point. -/
def Lead.of? (b : UInt8) : Option Lead :=
  let n := b.toNat
  if n < 0x80 then some ⟨0, n, 0x80, 0xBF⟩
  else if n < 0xC2 then none
  else if n < 0xE0 then some ⟨1, n - 0xC0, 0x80, 0xBF⟩
  else if n = 0xE0 then some ⟨2, 0, 0xA0, 0xBF⟩
  else if n = 0xED then some ⟨2, 0xD, 0x80, 0x9F⟩
  else if n < 0xF0 then some ⟨2, n - 0xE0, 0x80, 0xBF⟩
  else if n = 0xF0 then some ⟨3, 0, 0x90, 0xBF⟩
  else if n < 0xF4 then some ⟨3, n - 0xF0, 0x80, 0xBF⟩
  else if n = 0xF4 then some ⟨3, 4, 0x80, 0x8F⟩
  else none

/-- Where decoding stands: between characters, or inside a character with octets
owed, the value so far, and the range of the next octet. -/
inductive State where
  | start
  | owing (more : Nat) (value : Nat) (low high : Nat)

/-- The replacement character. -/
def replacement : Char := '\uFFFD'

/-- Starts a character with the octet `b`: what it decodes to at once, and the state
after it.  An octet that starts no character is replaced. -/
def begin (b : UInt8) : List Char × State :=
  match Lead.of? b with
  | none => ([replacement], .start)
  | some ⟨0, bits, _, _⟩ => ([Char.ofNat bits], .start)
  | some ⟨more + 1, bits, low, high⟩ => ([], .owing more bits low high)

/-- One octet: the characters it completes or breaks off, and the state after it. -/
def step : State → UInt8 → List Char × State
  | .start, b => begin b
  | .owing more value low high, b =>
      if low ≤ b.toNat ∧ b.toNat ≤ high then
        let value := 64 * value + (b.toNat - 0x80)
        match more with
        | 0 => ([Char.ofNat value], .start)
        | more + 1 => ([], .owing more value 0x80 0xBF)
      else
        let (chars, state) := begin b
        (replacement :: chars, state)

/-- The characters owed at the end of the octets. -/
def State.finish : State → List Char
  | .start => []
  | .owing .. => [replacement]

/-- Lossy decoding from a given state. -/
def decodeFrom (state : State) : List UInt8 → List Char
  | [] => state.finish
  | b :: rest =>
      let (chars, state) := step state b
      chars ++ decodeFrom state rest

/-- Lossy decoding. -/
def decodeLossy (bytes : List UInt8) : List Char :=
  decodeFrom .start bytes

/-- Whether the octets from a given state on form whole characters. -/
def wellFormedFrom (state : State) : List UInt8 → Bool
  | [] =>
      match state with
      | .start => true
      | .owing .. => false
  | b :: rest =>
      match state with
      | .start => (Lead.of? b).isSome && wellFormedFrom (step .start b).2 rest
      | .owing more value low high =>
          decide (low ≤ b.toNat ∧ b.toNat ≤ high) &&
            wellFormedFrom (step (.owing more value low high) b).2 rest

/-- Strict decoding: `none` unless the octets are well-formed throughout. -/
def decode? (bytes : List UInt8) : Option (List Char) :=
  if wellFormedFrom .start bytes then some (decodeLossy bytes) else none

/-- The number of octets of a character. -/
def charWidth (c : Char) : Nat :=
  if c.toNat < 0x80 then 1
  else if c.toNat < 0x800 then 2
  else if c.toNat < 0x10000 then 3
  else 4

/-- The number of octets of a text. -/
def width (s : List Char) : Nat :=
  s.foldl (fun n c => n + charWidth c) 0

end Conch.Text.Utf8
