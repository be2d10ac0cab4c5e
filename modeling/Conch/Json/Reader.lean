import Conch.Json.Cursor
import Conch.Json.Value

/-!
# Reading JSON texts

Reading is strict, with positions in its errors, and nests at most 127 levels.  A
value that is not wanted is skipped instead: skipping checks the form of the text but
neither its depth nor the range of its numbers.  The functions on strings, values and
frames carry a bound on the octets left, which every step uses up.
-/

namespace Conch.Json

/-- The levels that a text may nest, the outermost value included, plus one. -/
def depthLimit : Nat := 128

/-- Reads the octets of a fixed word. -/
def expectWord : List Char → Cursor → Except ReadError Cursor
  | [], cursor => .ok cursor
  | c :: word, cursor =>
      match cursor.peek? with
      | none => cursor.fault .endInValue
      | some b =>
          if b = byteOf c then expectWord word cursor.next
          else cursor.next.fault .wordExpected

/-- The four hexadecimal digits of an escape. -/
def readHex4 (cursor : Cursor) : Except ReadError (Nat × Cursor) :=
  match cursor.rest with
  | a :: b :: c :: d :: rest =>
      let cursor : Cursor := ⟨cursor.offset + 4, rest⟩
      let digit (n : UInt8) : Option Nat := Text.hexValue? (Char.ofNat n.toNat)
      match digit a, digit b, digit c, digit d with
      | some a, some b, some c, some d =>
          .ok (((a * 16 + b) * 16 + c) * 16 + d, cursor)
      | _, _, _, _ => cursor.fault .badEscape
  | _ => (cursor.skip cursor.rest.length).fault .endInString

/-- Whether a number is the first half of a surrogate pair. -/
def isLeading (n : Nat) : Bool := 0xD800 ≤ n && n ≤ 0xDBFF

/-- Whether a number is the second half of a surrogate pair. -/
def isTrailing (n : Nat) : Bool := 0xDC00 ≤ n && n ≤ 0xDFFF

/-- Expects an octet within an escape of a surrogate pair. -/
def expectInPair (c : Char) (cursor : Cursor) : Except ReadError Cursor :=
  match cursor.peek? with
  | none => cursor.fault .endInString
  | some b =>
      if b = byteOf c then .ok cursor.next else cursor.next.fault .endOfHexEscape

/-- The character of an escape with hexadecimal digits. -/
def readUnicodeEscape (cursor : Cursor) : Except ReadError (Char × Cursor) := do
  let (n, cursor) ← readHex4 cursor
  if isTrailing n then cursor.fault .loneSurrogate
  else if isLeading n then
    let cursor ← expectInPair '\\' cursor
    let cursor ← expectInPair 'u' cursor
    let (m, cursor) ← readHex4 cursor
    if isTrailing m then
      return (Char.ofNat (0x10000 + (n - 0xD800) * 1024 + (m - 0xDC00)), cursor)
    else cursor.fault .loneSurrogate
  else return (Char.ofNat n, cursor)

/-- The character of an escape whose letter is not `u`. -/
def simpleEscape? (b : UInt8) : Option Char :=
  if b = byteOf '"' then some '"'
  else if b = byteOf '\\' then some '\\'
  else if b = byteOf '/' then some '/'
  else if b = byteOf 'b' then some (Char.ofNat 8)
  else if b = byteOf 'f' then some (Char.ofNat 12)
  else if b = byteOf 'n' then some '\n'
  else if b = byteOf 'r' then some '\r'
  else if b = byteOf 't' then some '\t'
  else none

/-- Reads an escape, after its backslash. -/
def readEscape (cursor : Cursor) : Except ReadError (Char × Cursor) :=
  match cursor.peek? with
  | none => cursor.fault .endInString
  | some b =>
      match simpleEscape? b with
      | some c => .ok (c, cursor.next)
      | none =>
          if b = byteOf 'u' then readUnicodeEscape cursor.next
          else cursor.next.fault .badEscape

/-- Reads a string after its opening quote; the octets read are held last first. -/
def readStringFrom : Nat → List UInt8 → Cursor → Except ReadError (String × Cursor)
  | 0, _, cursor => cursor.fault .endInString
  | left + 1, taken, cursor =>
      match cursor.peek? with
      | none => cursor.fault .endInString
      | some b =>
          if b = byteOf '"' then
            .ok (String.ofList (Text.Utf8.decodeLossy taken.reverse), cursor.next)
          else if b = byteOf '\\' then
            match readEscape cursor.next with
            | .error error => .error error
            | .ok (c, cursor) =>
                readStringFrom left ((Text.Utf8.encodeChar c).reverse ++ taken) cursor
          else if b < 32 then cursor.next.fault .controlCharacter
          else readStringFrom left (b :: taken) cursor.next

/-- Reads a string after its opening quote. -/
def readString (cursor : Cursor) : Except ReadError (String × Cursor) :=
  readStringFrom (cursor.rest.length + 1) [] cursor

/-- The greatest whole number of 64 bits. -/
def maxNatural : Nat := Nat.pow 2 64 - 1

/-- The number nearest to `significand * 10 ^ exponent` in the steps in which it is
computed here: the significand is rounded first, and large negative powers of ten are
divided off by `10 ^ 308` at a time. -/
def binaryOfParts : Nat → Number.Binary64 → Int → Option Number.Binary64
  | 0, x, _ => some x
  | steps + 1, x, exponent =>
      if exponent.natAbs ≤ 308 then
        let power := Number.Binary64.ofNat (Nat.pow 10 exponent.natAbs)
        if 0 ≤ exponent then
          let product := x.mul power
          if product.isFinite then some product else none
        else some (x.div power)
      else if x.mantissa = 0 then some x
      else if 0 ≤ exponent then none
      else binaryOfParts steps (x.div (Number.Binary64.ofNat (Nat.pow 10 308))) (exponent + 308)

/-- The number of parts, or an error where the reading stands. -/
def finishBinary (isNegative : Bool) (significand : Nat) (exponent : Int) (cursor : Cursor) :
    Except ReadError (JsonNumber × Cursor) :=
  match binaryOfParts 8 (Number.Binary64.ofNat significand) exponent with
  | some x => .ok (.binary isNegative x, cursor)
  | none => cursor.fault .numberOutOfRange

/-- Adds digits to a significand as long as it stays within 64 bits: the significand,
the number of digits taken, and the place behind them. -/
def takeDigits : Nat → Nat → Nat → Cursor → Nat × Nat × Cursor
  | 0, significand, taken, cursor => (significand, taken, cursor)
  | left + 1, significand, taken, cursor =>
      match cursor.peek? with
      | some b =>
          if isDigitByte b && significand * 10 + (b.toNat - 48) ≤ maxNatural then
            takeDigits left (significand * 10 + (b.toNat - 48)) (taken + 1) cursor.next
          else (significand, taken, cursor)
      | none => (significand, taken, cursor)

/-- The greatest exponent that is read exactly. -/
def maxExponent : Nat := Nat.pow 2 31 - 1

/-- Reads the digits of an exponent; `none` if they go beyond the greatest exponent. -/
def takeExponent : Nat → Nat → Cursor → Option Nat × Cursor
  | 0, value, cursor => (some value, cursor)
  | left + 1, value, cursor =>
      match cursor.peek? with
      | some b =>
          if isDigitByte b then
            let value := value * 10 + (b.toNat - 48)
            if maxExponent < value then (none, cursor.next)
            else takeExponent left value cursor.next
          else (some value, cursor)
      | none => (some value, cursor)

/-- Reads an exponent at its letter. -/
def readExponent (isNegative : Bool) (significand : Nat) (scale : Int) (cursor : Cursor) :
    Except ReadError (JsonNumber × Cursor) :=
  let cursor := cursor.next
  let (isSmall, cursor) :=
    match cursor.peek? with
    | some b =>
        if b = byteOf '+' then (false, cursor.next)
        else if b = byteOf '-' then (true, cursor.next)
        else (false, cursor)
    | none => (false, cursor)
  match cursor.peek? with
  | none => cursor.fault .endInValue
  | some b =>
      if isDigitByte b then
        match takeExponent cursor.rest.length 0 cursor with
        | (some value, cursor) =>
            let exponent := if isSmall then scale - value else scale + value
            finishBinary isNegative significand exponent cursor
        | (none, cursor) =>
            if significand ≠ 0 && !isSmall then cursor.fault .numberOutOfRange
            else .ok (.binary isNegative .zero, cursor.skipWhile isDigitByte)
      else cursor.next.fault .badNumber

/-- Whether an octet starts an exponent. -/
def startsExponent (b : Option UInt8) : Bool :=
  b = some (byteOf 'e') || b = some (byteOf 'E')

/-- Reads the places after a point, at the point. -/
def readPlaces (isNegative : Bool) (significand : Nat) (scale : Int) (cursor : Cursor) :
    Except ReadError (JsonNumber × Cursor) :=
  let cursor := cursor.next
  let (significand, taken, cursor) := takeDigits cursor.rest.length significand 0 cursor
  let more := cursor.peek?.any isDigitByte
  if taken = 0 && !more then
    if cursor.rest.isEmpty then cursor.faultAhead .endInValue
    else cursor.faultAhead .badNumber
  else
    let cursor := cursor.skipWhile isDigitByte
    let scale := scale - taken
    if startsExponent cursor.peek? then readExponent isNegative significand scale cursor
    else finishBinary isNegative significand scale cursor

/-- Reads a number after its sign. -/
def readNumber (isNegative : Bool) (cursor : Cursor) : Except ReadError (JsonNumber × Cursor) :=
  match cursor.peek? with
  | none => cursor.fault .endInValue
  | some b =>
      if !isDigitByte b then cursor.next.fault .badNumber
      else
        let leadingZero := b = byteOf '0'
        let (significand, _, behind) :=
          if leadingZero then (0, 1, cursor.next) else takeDigits cursor.rest.length 0 0 cursor
        if leadingZero && behind.peek?.any isDigitByte then behind.faultAhead .badNumber
        else
          let dropped := behind.rest.takeWhile isDigitByte
          let behind := behind.skipWhile isDigitByte
          let scale : Int := dropped.length
          if behind.peek? = some (byteOf '.') then
            readPlaces isNegative significand scale behind
          else if startsExponent behind.peek? then
            readExponent isNegative significand scale behind
          else if !dropped.isEmpty then finishBinary isNegative significand scale behind
          else if !isNegative then .ok (.natural significand, behind)
          else if significand = 0 || Nat.pow 2 63 < significand then
            .ok (.binary true (Number.Binary64.ofNat significand), behind)
          else .ok (.negative significand, behind)

/-- Whether an array has another item, and the place where it starts. -/
def nextItem (isFirst : Bool) (cursor : Cursor) : Except ReadError (Bool × Cursor) :=
  let cursor := cursor.skipBlanks
  match cursor.peek? with
  | none => cursor.faultAhead .endInArray
  | some b =>
      if b = byteOf ']' then .ok (false, cursor)
      else if isFirst then .ok (true, cursor)
      else if b = byteOf ',' then
        let cursor := cursor.next.skipBlanks
        match cursor.peek? with
        | none => cursor.faultAhead .endInValue
        | some b =>
            if b = byteOf ']' then cursor.faultAhead .trailingComma else .ok (true, cursor)
      else cursor.faultAhead .arrayCommaOrEndExpected

/-- Whether an object has another member, and the place where its name starts. -/
def nextMember (isFirst : Bool) (cursor : Cursor) : Except ReadError (Bool × Cursor) :=
  let cursor := cursor.skipBlanks
  match cursor.peek? with
  | none => cursor.faultAhead .endInObject
  | some b =>
      if b = byteOf '\x7d' then .ok (false, cursor)
      else if isFirst then
        if b = byteOf '"' then .ok (true, cursor) else cursor.faultAhead .keyNotString
      else if b = byteOf ',' then
        let cursor := cursor.next.skipBlanks
        match cursor.peek? with
        | none => cursor.faultAhead .endInValue
        | some b =>
            if b = byteOf '"' then .ok (true, cursor)
            else if b = byteOf '\x7d' then cursor.faultAhead .trailingComma
            else cursor.faultAhead .keyNotString
      else cursor.faultAhead .objectCommaOrEndExpected

/-- The place behind the colon after a name. -/
def expectColon (cursor : Cursor) : Except ReadError Cursor :=
  let cursor := cursor.skipBlanks
  match cursor.peek? with
  | none => cursor.faultAhead .endInObject
  | some b =>
      if b = byteOf ':' then .ok cursor.next else cursor.faultAhead .colonExpected

/-- The place behind the end of an array. -/
def endArray (cursor : Cursor) : Except ReadError Cursor :=
  let cursor := cursor.skipBlanks
  match cursor.peek? with
  | none => cursor.faultAhead .endInArray
  | some b =>
      if b = byteOf ']' then .ok cursor.next
      else if b = byteOf ',' then
        let cursor := cursor.next.skipBlanks
        if cursor.peek? = some (byteOf ']') then cursor.faultAhead .trailingComma
        else cursor.faultAhead .trailingCharacters
      else cursor.faultAhead .trailingCharacters

/-- The place behind the end of an object. -/
def endObject (cursor : Cursor) : Except ReadError Cursor :=
  let cursor := cursor.skipBlanks
  match cursor.peek? with
  | none => cursor.faultAhead .endInObject
  | some b =>
      if b = byteOf '\x7d' then .ok cursor.next
      else if b = byteOf ',' then cursor.faultAhead .trailingComma
      else cursor.faultAhead .trailingCharacters

/-- The place where a value starts, with its first octet. -/
def startValue (cursor : Cursor) : Except ReadError (UInt8 × Cursor) :=
  let cursor := cursor.skipBlanks
  match cursor.peek? with
  | none => cursor.faultAhead .endInValue
  | some b => .ok (b, cursor)

mutual

/-- Reads a value that may nest `depth - 1` levels. -/
def readValue : Nat → Nat → Cursor → Except ReadError (Json × Cursor)
  | 0, _, cursor => cursor.fault .endInValue
  | left + 1, depth, cursor => do
      let (b, cursor) ← startValue cursor
      if b = byteOf 'n' then
        return (.null, ← expectWord ['u', 'l', 'l'] cursor.next)
      else if b = byteOf 't' then
        return (.bool true, ← expectWord ['r', 'u', 'e'] cursor.next)
      else if b = byteOf 'f' then
        return (.bool false, ← expectWord ['a', 'l', 's', 'e'] cursor.next)
      else if b = byteOf '-' then
        let (value, cursor) ← readNumber true cursor.next
        return (.number value, cursor)
      else if isDigitByte b then
        let (value, cursor) ← readNumber false cursor
        return (.number value, cursor)
      else if b = byteOf '"' then
        let (text, cursor) ← readString cursor.next
        return (.string text, cursor)
      else if b = byteOf '[' then
        if depth ≤ 1 then cursor.faultAhead .tooDeep
        else
          let (items, cursor) ← readItems left (depth - 1) true cursor.next
          return (.array items, ← endArray cursor)
      else if b = byteOf '\x7b' then
        if depth ≤ 1 then cursor.faultAhead .tooDeep
        else
          let (members, cursor) ← readMembers left (depth - 1) true [] cursor.next
          return (.object members, ← endObject cursor)
      else cursor.faultAhead .valueExpected

/-- Reads the items of an array up to its end. -/
def readItems : Nat → Nat → Bool → Cursor → Except ReadError ((List Json) × Cursor)
  | 0, _, _, cursor => cursor.fault .endInValue
  | left + 1, depth, isFirst, cursor => do
      let (more, cursor) ← nextItem isFirst cursor
      if more then
        let (item, cursor) ← readValue left depth cursor
        let (items, cursor) ← readItems left depth false cursor
        return (item :: items, cursor)
      else return ([], cursor)

/-- Reads the members of an object up to its end; of members of one name the last
counts. -/
def readMembers : Nat → Nat → Bool → List (String × Json) → Cursor →
    Except ReadError ((List (String × Json)) × Cursor)
  | 0, _, _, _, cursor => cursor.fault .endInValue
  | left + 1, depth, isFirst, members, cursor => do
      let (more, cursor) ← nextMember isFirst cursor
      if more then
        let (name, cursor) ← readString cursor.next
        let (value, cursor) ← readValue left depth (← expectColon cursor)
        readMembers left depth false (insertMember name value members) cursor
      else return (members, cursor)

end

/-- Skips a string after its opening quote. -/
def skipStringFrom : Nat → Cursor → Except ReadError Cursor
  | 0, cursor => cursor.fault .endInString
  | left + 1, cursor =>
      match cursor.peek? with
      | none => cursor.fault .endInString
      | some b =>
          if b = byteOf '"' then .ok cursor.next
          else if b = byteOf '\\' then
            let cursor := cursor.next
            match cursor.peek? with
            | none => cursor.fault .endInString
            | some b =>
                if (simpleEscape? b).isSome then skipStringFrom left cursor.next
                else if b = byteOf 'u' then
                  match readHex4 cursor.next with
                  | .error error => .error error
                  | .ok (_, cursor) => skipStringFrom left cursor
                else cursor.next.fault .badEscape
          else if b < 32 then cursor.fault .controlCharacter
          else skipStringFrom left cursor.next

/-- Skips the exponent of a number, at its letter. -/
def skipExponent (cursor : Cursor) : Except ReadError Cursor :=
  let cursor := cursor.next
  let cursor :=
    if cursor.peek? = some (byteOf '+') || cursor.peek? = some (byteOf '-') then cursor.next
    else cursor
  if cursor.peek?.any isDigitByte then .ok (cursor.skipWhile isDigitByte)
  else cursor.next.fault .badNumber

/-- Skips a number after its sign. -/
def skipNumber (cursor : Cursor) : Except ReadError Cursor :=
  match cursor.peek? with
  | none => cursor.fault .badNumber
  | some b =>
      if !isDigitByte b then cursor.next.fault .badNumber
      else if b = byteOf '0' && cursor.next.peek?.any isDigitByte then
        cursor.next.faultAhead .badNumber
      else
        let cursor := cursor.skipWhile isDigitByte
        if cursor.peek? = some (byteOf '.') then
          let places := cursor.next
          if !places.peek?.any isDigitByte then places.faultAhead .badNumber
          else
            let cursor := places.skipWhile isDigitByte
            if startsExponent cursor.peek? then skipExponent cursor else .ok cursor
        else if startsExponent cursor.peek? then skipExponent cursor
        else .ok cursor

/-- A container whose end has not been reached. -/
inductive Frame where
  | array
  | object
  deriving DecidableEq, Repr

/-- What skipping comes to after a value or an opening bracket. -/
inductive SkipStep where
  /-- The whole value has been skipped. -/
  | done (cursor : Cursor)
  /-- Another value follows within the frames. -/
  | value (frames : List Frame) (cursor : Cursor)

/-- Skips the name of a member and its colon. -/
def skipName (cursor : Cursor) : Except ReadError Cursor :=
  let cursor := cursor.skipBlanks
  match cursor.peek? with
  | none => cursor.faultAhead .endInObject
  | some b =>
      if b = byteOf '"' then do
        let cursor ← skipStringFrom (cursor.rest.length + 1) cursor.next
        expectColon cursor
      else cursor.faultAhead .keyNotString

/-- Closes frames as long as they end, and goes on to the next value of the innermost
one that does not.  `commaAllowed` says that a value stands before. -/
def closeFrames : List Frame → Bool → Cursor → Except ReadError SkipStep
  | [], _, cursor => .ok (.done cursor)
  | frame :: frames, commaAllowed, cursor => do
      let cursor := cursor.skipBlanks
      let enter (cursor : Cursor) : Except ReadError SkipStep := do
        match frame with
        | .array => return .value (frame :: frames) cursor
        | .object => return .value (frame :: frames) (← skipName cursor)
      match cursor.peek? with
      | none =>
          cursor.faultAhead (if frame = .array then .endInArray else .endInObject)
      | some b =>
          if b = byteOf ',' && commaAllowed then enter cursor.next
          else if b = byteOf (if frame = .array then ']' else '\x7d') then
            closeFrames frames true cursor.next
          else if commaAllowed then
            cursor.faultAhead
              (if frame = .array then .arrayCommaOrEndExpected else .objectCommaOrEndExpected)
          else enter cursor

/-- Skips values until the outermost one is complete. -/
def skipFrom : Nat → List Frame → Cursor → Except ReadError Cursor
  | 0, _, cursor => cursor.fault .endInValue
  | left + 1, frames, cursor => do
      let (b, cursor) ← startValue cursor
      let step ←
        if b = byteOf 'n' then
          closeFrames frames true (← expectWord ['u', 'l', 'l'] cursor.next)
        else if b = byteOf 't' then
          closeFrames frames true (← expectWord ['r', 'u', 'e'] cursor.next)
        else if b = byteOf 'f' then
          closeFrames frames true (← expectWord ['a', 'l', 's', 'e'] cursor.next)
        else if b = byteOf '-' then
          closeFrames frames true (← skipNumber cursor.next)
        else if isDigitByte b then closeFrames frames true (← skipNumber cursor)
        else if b = byteOf '"' then
          closeFrames frames true (← skipStringFrom (cursor.rest.length + 1) cursor.next)
        else if b = byteOf '[' then closeFrames (.array :: frames) false cursor.next
        else if b = byteOf '\x7b' then closeFrames (.object :: frames) false cursor.next
        else cursor.faultAhead .valueExpected
      match step with
      | .done cursor => return cursor
      | .value frames cursor => skipFrom left frames cursor

/-- Skips a value. -/
def skipValue (cursor : Cursor) : Except ReadError Cursor :=
  skipFrom (cursor.rest.length + 1) [] cursor

end Conch.Json
