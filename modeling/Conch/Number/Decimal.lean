import Conch.Number.Binary64

/-!
# Decimal texts of numbers

Two ways of writing a binary number: with a fixed number of places, rounded from the
exact value with ties to even, and with the fewest digits that read back as the same
number.
-/

namespace Conch.Number

/-- The decimal digits of a number, filled up on the left with zeros. -/
def digitsPadded (width n : Nat) : String :=
  let digits := Nat.toDigits 10 n
  String.ofList (List.replicate (width - digits.length) '0' ++ digits)

/-- A quotient with so many places after the point. -/
def fixedRatio (places num den : Nat) : String :=
  let scaled := roundDiv (num * Nat.pow 10 places) den
  if places = 0 then toString scaled
  else
    toString (scaled / Nat.pow 10 places) ++ "." ++ digitsPadded places (scaled % Nat.pow 10 places)

/-- A number with so many places after the point. -/
def Binary64.fixed (places : Nat) (x : Binary64) : String :=
  fixedRatio places x.num x.den

/-- Decimal digits and the power of ten of the first of them. -/
structure Scientific where
  digits : List Char
  exponent : Int
  deriving DecidableEq, Repr, Inhabited

/-- The greatest `k` with `10 ^ k ≤ num / den`, found from an upper bound downwards. -/
def floorLog10From (num den : Nat) : Nat → Int → Int
  | 0, k => k
  | steps + 1, k =>
      let fits :=
        if 0 ≤ k then decide (den * Nat.pow 10 k.toNat ≤ num)
        else decide (den ≤ num * Nat.pow 10 (-k).toNat)
      if fits then k else floorLog10From num den steps (k - 1)

/-- `num / den * 10 ^ shift` rounded to the nearest whole number. -/
def scaledTen (num den : Nat) (shift : Int) : Nat :=
  if 0 ≤ shift then roundDiv (num * Nat.pow 10 shift.toNat) den
  else roundDiv num (den * Nat.pow 10 (-shift).toNat)

/-- The number nearest to `n * 10 ^ exponent`. -/
def Binary64.ofScaled (n : Nat) (exponent : Int) : Binary64 :=
  if 0 ≤ exponent then ofRatio (n * Nat.pow 10 exponent.toNat) 1
  else ofRatio n (Nat.pow 10 (-exponent).toNat)

/-- The digits of a whole number without the zeros at its end. -/
def significantDigits (n : Nat) : List Char :=
  ((Nat.toDigits 10 n).reverse.dropWhile (· = '0')).reverse

/-- The fewest digits that read back as `x`, tried from `count` digits on. -/
def Binary64.shortestFrom (x : Binary64) (top : Int) : Nat → Nat → Scientific
  | 0, _ => ⟨significantDigits x.mantissa, top⟩
  | tries + 1, count =>
      let shift := (count : Int) - 1 - top
      let n := scaledTen x.num x.den shift
      if Binary64.ofScaled n (-shift) = x then
        ⟨significantDigits n, if n = Nat.pow 10 count then top + 1 else top⟩
      else x.shortestFrom top tries (count + 1)

/-- The fewest digits that read back as a positive number. -/
def Binary64.shortest (x : Binary64) : Scientific :=
  let guess := ((Binary64.floorLog2 x.num x.den) * 30103) / 100000 + 1
  x.shortestFrom (floorLog10From x.num x.den 4 guess) 17 1

/-- A number with the fewest digits: positional with at least one place from `10 ^ -5`
up to `10 ^ 16`, and with an exponent beyond. -/
def Binary64.display (x : Binary64) : String :=
  if x.mantissa = 0 then "0.0"
  else
    let s := x.shortest
    let count := s.digits.length
    if 0 ≤ s.exponent && s.exponent < 16 then
      let whole := s.exponent.toNat + 1
      let digits := s.digits ++ List.replicate (whole - count) '0'
      let places := digits.drop whole
      String.ofList (digits.take whole ++ '.' :: (if places.isEmpty then ['0'] else places))
    else if -5 ≤ s.exponent && s.exponent < 0 then
      String.ofList
        ('0' :: '.' :: List.replicate ((-s.exponent).toNat - 1) '0' ++ s.digits)
    else
      let head := s.digits.take 1
      let places := s.digits.drop 1
      let mark := if s.exponent < 0 then "e-" else "e+"
      String.ofList (if places.isEmpty then head else head ++ '.' :: places) ++ mark ++
        toString s.exponent.natAbs

end Conch.Number
