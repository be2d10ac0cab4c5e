import Conch.Number.Decimal
import Conch.Text.Ascii
import Conch.Text.Pieces
import Conch.Toml.Table

/-!
# Numbers, truth values and moments

The values of a configuration text that are written as bare words.  A word is everything
up to a character that no bare value has, so a word that is none of the forms below is an
error whatever follows it.
-/

namespace Conch.Toml

/-- The characters that bare values are made of. -/
def isWordChar (c : Char) : Bool :=
  Text.isLetterOrDigit c || "+-._:".toList.contains c

/-- Whether a word consists of digits, with underscores only between two of them. -/
def areDigits (isDigit : Char → Bool) (word : List Char) : Bool :=
  (Text.splitBy (· = '_') word).all fun piece => !piece.isEmpty && piece.all isDigit

/-- A word without the sign it may start with. -/
def dropSign : List Char → List Char
  | '+' :: rest | '-' :: rest => rest
  | word => word

/-- Whether a word without sign is a decimal whole number: no zero starts a longer one. -/
def isWhole (word : List Char) : Bool :=
  areDigits Text.isDigit word && (word.head? ≠ some '0' || word.length = 1)

/-- The number of a word of digits to a base. -/
def wholeValue (base : Nat) (word : List Char) : Nat :=
  (word.filter (· ≠ '_')).foldl (fun n c => base * n + (Text.hexValue? c).getD 0) 0

/-- Whole numbers have 64 bits and a sign. -/
def inRange (n : Int) : Bool :=
  -(Int.pow 2 63) ≤ n && n < Int.pow 2 63

/-- The whole number of a word to a base of its own. -/
def basedInteger? (word : List Char) : Option Int :=
  let read (base : Nat) (digits : List Char) : Option Int :=
    let isBaseDigit (c : Char) : Bool := (Text.hexValue? c).any (· < base)
    if areDigits isBaseDigit digits then some (wholeValue base digits) else none
  match word with
  | '0' :: 'x' :: digits => read 16 digits
  | '0' :: 'o' :: digits => read 8 digits
  | '0' :: 'b' :: digits => read 2 digits
  | _ => none

/-- The whole number of a word. -/
def integer? (word : List Char) : Option Int :=
  let n? :=
    if isWhole (dropSign word) then
      let n : Int := wholeValue 10 (dropSign word)
      some (if word.head? = some '-' then -n else n)
    else basedInteger? word
  n?.filter inRange

/-- The parts of a number with a point or an exponent: the whole part, the places after
the point and the exponent with its sign. -/
structure Decimal where
  whole : List Char
  places : Option (List Char)
  exponent : Option (List Char)

/-- Takes a word without sign apart. -/
def Decimal.ofWord (word : List Char) : Decimal :=
  let isMark (c : Char) : Bool := c = 'e' || c = 'E'
  let (number, exponent) :=
    match word.dropWhile fun c => !isMark c with
    | [] => (word, none)
    | _ :: rest => (word.takeWhile fun c => !isMark c, some rest)
  match number.dropWhile (· ≠ '.') with
  | [] => ⟨number, none, exponent⟩
  | _ :: places => ⟨number.takeWhile (· ≠ '.'), some places, exponent⟩

/-- Whether the parts have the form of a number with a point or an exponent. -/
def Decimal.isWellFormed (d : Decimal) : Bool :=
  isWhole d.whole && d.places.all (areDigits Text.isDigit) &&
    d.exponent.all (fun e => areDigits Text.isDigit (dropSign e)) &&
    (d.places.isSome || d.exponent.isSome)

/-- The significand and the power of ten of the number. -/
def Decimal.parts (d : Decimal) : Nat × Int :=
  let places := (d.places.getD []).filter (· ≠ '_')
  let exponent : Int :=
    match d.exponent with
    | none => 0
    | some e =>
        let n : Int := wholeValue 10 (dropSign e)
        if e.head? = some '-' then -n else n
  (wholeValue 10 (d.whole ++ places), exponent - places.length)

/-- Whether the number rounds to one that is not finite.  The count of its digits decides
for all numbers but those close to the largest finite one. -/
def Decimal.overflows (d : Decimal) : Bool :=
  let (significand, power) := d.parts
  let size := power + (Nat.toDigits 10 significand).length
  if significand = 0 || size ≤ 308 then false
  else if 310 < size then true
  else !(Number.Binary64.ofScaled significand power).isFinite

/-- Whether a word is a number with a point or an exponent, or one of the two words for
what is no number. -/
def isFloat (word : List Char) : Bool :=
  let unsigned := dropSign word
  let d := Decimal.ofWord unsigned
  unsigned = "inf".toList || unsigned = "nan".toList ||
    (d.isWellFormed && (word.head? = some '-' || !d.overflows))

/-- The number of a text of so many digits. -/
def digitsOf? (count : Nat) (s : List Char) : Option Nat :=
  if s.length = count then Text.digitsValue? s else none

/-- Whether a year has a day more. -/
def isLeapYear (year : Nat) : Bool :=
  year % 4 = 0 && (year % 100 ≠ 0 || year % 400 = 0)

/-- The number of days of a month. -/
def daysIn (year month : Nat) : Nat :=
  if month = 2 then if isLeapYear year then 29 else 28
  else if [4, 6, 9, 11].contains month then 30
  else 31

/-- Whether a word is a date. -/
def isDate (word : List Char) : Bool :=
  match Text.splitBy (· = '-') word with
  | [year, month, day] =>
      match digitsOf? 4 year, digitsOf? 2 month, digitsOf? 2 day with
      | some year, some month, some day =>
          1 ≤ month && month ≤ 12 && 1 ≤ day && day ≤ daysIn year month
      | _, _, _ => false
  | _ => false

/-- Whether a word is a time of day. -/
def isTime (word : List Char) : Bool :=
  match Text.splitBy (· = ':') word with
  | [hour, minute, second] =>
      let (second, places) :=
        match second.dropWhile (· ≠ '.') with
        | [] => (second, none)
        | _ :: places => (second.takeWhile (· ≠ '.'), some places)
      (digitsOf? 2 hour).any (· ≤ 23) && (digitsOf? 2 minute).any (· ≤ 59) &&
        (digitsOf? 2 second).any (· ≤ 60) &&
        places.all fun places => (Text.digitsValue? places).isSome
  | _ => false

/-- Whether a word is the distance of a time zone. -/
def isOffset (word : List Char) : Bool :=
  match word with
  | ['Z'] | ['z'] => true
  | sign :: rest =>
      (sign = '+' || sign = '-') &&
        match Text.splitBy (· = ':') rest with
        | [hour, minute] =>
            (digitsOf? 2 hour).any (· ≤ 23) && (digitsOf? 2 minute).any (· ≤ 59)
        | _ => false
  | [] => false

/-- Whether a word is a time of day with or without a time zone. -/
def isZonedTime (word : List Char) : Bool :=
  let startsOffset (c : Char) : Bool := c = 'Z' || c = 'z' || c = '+' || c = '-'
  let offset := word.dropWhile fun c => !startsOffset c
  isTime (word.takeWhile fun c => !startsOffset c) && (offset.isEmpty || isOffset offset)

/-- Whether a word is a date, a time of day, or both with a `T` between. -/
def isMoment (word : List Char) : Bool :=
  isDate word || isTime word ||
    match word.drop 10 with
    | mark :: time => (mark = 'T' || mark = 't') && isDate (word.take 10) && isZonedTime time
    | [] => false

/-- The value that a word writes. -/
def scalar? (word : List Char) : Option Item :=
  if word = "true".toList then some (.boolean true)
  else if word = "false".toList then some (.boolean false)
  else
    match integer? word with
    | some n => some (.integer n)
    | none =>
        if isFloat word then some .float
        else if isMoment word then some .moment
        else none

/-- Reads a value that is written as a bare word.  After a date, a blank and a time of day
belong to it. -/
def readScalar (s : List Char) : Option (Item × List Char) :=
  let word := s.takeWhile isWordChar
  let rest := s.dropWhile isWordChar
  match rest with
  | ' ' :: more =>
      if isDate word && isZonedTime (more.takeWhile isWordChar) then
        some (.moment, more.dropWhile isWordChar)
      else (scalar? word).map fun item => (item, rest)
  | _ => (scalar? word).map fun item => (item, rest)

end Conch.Toml
