/-!
# Binary numbers of 64 bits

Non-negative numbers with a mantissa of 53 bits, computed exactly and then rounded to
the nearest, a tie going to the even mantissa.  Numbers beyond the largest finite one
are not cut off here; `isFinite` tells them apart.
-/

namespace Conch.Number

/-- The quotient rounded to the nearest whole number, a tie going to the even one. -/
def roundDiv (num den : Nat) : Nat :=
  let quotient := num / den
  let twice := 2 * (num % den)
  if den < twice || (twice = den && quotient % 2 = 1) then quotient + 1 else quotient

/-- The number `mantissa * 2 ^ exponent`. -/
structure Binary64 where
  mantissa : Nat
  exponent : Int
  deriving DecidableEq, Repr, Inhabited

namespace Binary64

/-- The least exponent. -/
def minExponent : Int := -1074

/-- The number zero. -/
def zero : Binary64 := ⟨0, minExponent⟩

/-- `num * 2 ^ shift / den` rounded to the nearest whole number. -/
def scaled (num den : Nat) (shift : Int) : Nat :=
  if 0 ≤ shift then roundDiv (num * Nat.pow 2 shift.toNat) den
  else roundDiv num (den * Nat.pow 2 (-shift).toNat)

/-- The greatest `k` with `2 ^ k ≤ num / den`, for a positive quotient. -/
def floorLog2 (num den : Nat) : Int :=
  let guess : Int := (Nat.log2 num : Int) - (Nat.log2 den : Int)
  let fits :=
    if 0 ≤ guess then decide (den * Nat.pow 2 guess.toNat ≤ num)
    else decide (den ≤ num * Nat.pow 2 (-guess).toNat)
  if fits then guess else guess - 1

/-- The number nearest to a quotient. -/
def ofRatio (num den : Nat) : Binary64 :=
  if num = 0 then zero
  else
    let exponent := max (floorLog2 num den - 52) minExponent
    let mantissa := scaled num den (-exponent)
    if mantissa = Nat.pow 2 53 then ⟨Nat.pow 2 52, exponent + 1⟩ else ⟨mantissa, exponent⟩

/-- The number nearest to a whole number. -/
def ofNat (n : Nat) : Binary64 :=
  ofRatio n 1

/-- The numerator of the number as a quotient. -/
def num (x : Binary64) : Nat :=
  x.mantissa * Nat.pow 2 x.exponent.toNat

/-- The denominator of the number as a quotient. -/
def den (x : Binary64) : Nat :=
  Nat.pow 2 (-x.exponent).toNat

/-- The rounded product. -/
def mul (x y : Binary64) : Binary64 :=
  ofRatio (x.num * y.num) (x.den * y.den)

/-- The rounded quotient. -/
def div (x y : Binary64) : Binary64 :=
  ofRatio (x.num * y.den) (x.den * y.num)

/-- Whether the number is not beyond the largest finite one. -/
def isFinite (x : Binary64) : Bool :=
  x.exponent ≤ 971

/-- The number in the interchange format. -/
def bits (x : Binary64) : Nat :=
  if x.mantissa < Nat.pow 2 52 then x.mantissa
  else (x.exponent + 1075).toNat * Nat.pow 2 52 + (x.mantissa - Nat.pow 2 52)

end Binary64
end Conch.Number
