import Conch.Json.Reader
import Conch.Text.Literal

/-!
# Requests

A request names a channel and may carry a payload.  It is written as an object with
the members `channel` and `payload`, or as an array of the two; other members are
skipped, and a payload that is left out is null.  Reading stops at the first problem,
and the problem says where.
-/

namespace Conch

/-- A request of a client. -/
structure Request where
  channel : String
  payload : Json
  deriving Repr, Inhabited

namespace Request

open Json

/-- What a message calls the form of a request. -/
def formName : String := "struct IpcRequest"

/-- What a message calls a number. -/
def numberName : JsonNumber → String
  | .natural n => "integer `" ++ toString n ++ "`"
  | .negative n => "integer `-" ++ toString n ++ "`"
  | .binary isNegative magnitude =>
      "floating point `" ++ (JsonNumber.binary isNegative magnitude).text ++ "`"

/-- The problem with a value at hand where another type was expected.  A scalar is read
first, so a problem within it comes before; of a container only the bracket is seen. -/
def wrongTypeAt {α : Type} (expected : String) (cursor : Cursor) : Except ReadError α := do
  let (b, cursor) ← startValue cursor
  let wrong {α : Type} (found : String) (cursor : Cursor) : Except ReadError α :=
    cursor.fault (.wrongType found expected)
  if b = byteOf '[' then wrong "sequence" cursor
  else if b = byteOf '\x7b' then wrong "map" cursor
  else
    let (value, cursor) ← readValue 1 1 cursor
    match value with
    | .null => wrong "null" cursor
    | .bool value => wrong ("boolean `" ++ (if value then "true" else "false") ++ "`") cursor
    | .number value => wrong (numberName value) cursor
    | .string text => wrong ("string " ++ Text.literal text) cursor
    | .array _ => wrong "sequence" cursor
    | .object _ => wrong "map" cursor

/-- Reads a value that has to be a string. -/
def readText (cursor : Cursor) : Except ReadError (String × Cursor) := do
  let (b, after) ← startValue cursor
  if b = byteOf '"' then readString after.next else wrongTypeAt "a string" cursor

/-- The steps that suffice for reading the rest of a text. -/
def stepsFor (cursor : Cursor) : Nat :=
  3 * cursor.rest.length + 3

/-- Reads a payload, which stands within a request. -/
def readPayload (cursor : Cursor) : Except ReadError (Json × Cursor) :=
  readValue (stepsFor cursor) (depthLimit - 1) cursor

/-- A problem with the request as a whole.  It is reported behind the end of the
container if the container ends here, else where the next octet stands. -/
def faultAtEnd {α : Type} (problem : Problem) (close : Cursor → Except ReadError Cursor)
    (cursor : Cursor) : Except ReadError α :=
  match close cursor with
  | .ok behind => behind.fault problem
  | .error _ => cursor.skipBlanks.fault problem

/-- Reads the items of a request written as an array. -/
def readItems (cursor : Cursor) : Except ReadError (Request × Cursor) := do
  let (hasChannel, cursor) ← nextItem true cursor
  if !hasChannel then
    faultAtEnd (.wrongLength 0 (formName ++ " with 2 elements")) endArray cursor
  else
    let (channel, cursor) ← readText cursor
    let (hasPayload, cursor) ← nextItem false cursor
    let (payload, cursor) ← if hasPayload then readPayload cursor else pure (.null, cursor)
    return (⟨channel, payload⟩, ← endArray cursor)

/-- Reads the members of a request written as an object, given those read before. -/
def readMembers : Nat → Bool → Option String → Option Json → Cursor →
    Except ReadError (Request × Cursor)
  | 0, _, _, _, cursor => cursor.fault .endInObject
  | left + 1, isFirst, channel, payload, cursor => do
      let (more, cursor) ← nextMember isFirst cursor
      if !more then
        match channel with
        | none => faultAtEnd (.memberMissing "channel") endObject cursor
        | some channel => return (⟨channel, payload.getD .null⟩, ← endObject cursor)
      else
        let (name, cursor) ← readString cursor.next
        if name = "channel" then
          if channel.isSome then faultAtEnd (.memberRepeated name) endObject cursor
          else
            let (text, cursor) ← readText (← expectColon cursor)
            readMembers left false (some text) payload cursor
        else if name = "payload" then
          if payload.isSome then faultAtEnd (.memberRepeated name) endObject cursor
          else
            let (value, cursor) ← readPayload (← expectColon cursor)
            readMembers left false channel (some value) cursor
        else
          readMembers left false channel payload (← skipValue (← expectColon cursor))

/-- Reads a request from a place on. -/
def readFrom (cursor : Cursor) : Except ReadError (Request × Cursor) := do
  let (b, start) ← startValue cursor
  if b = byteOf '[' then readItems start.next
  else if b = byteOf '\x7b' then
    readMembers (start.rest.length + 1) true none none start.next
  else wrongTypeAt formName cursor

/-- Reads the octets of a request. -/
def readBytes (bytes : List UInt8) : Except ReadError Request := do
  let (request, cursor) ← readFrom (Cursor.start bytes)
  let cursor := cursor.skipBlanks
  if cursor.rest.isEmpty then return request
  else cursor.faultAhead .trailingCharacters

/-- Reads a request; a problem is given with its wording. -/
def read (line : String) : Except String Request :=
  let bytes := Text.Utf8.encode line.toList
  match readBytes bytes with
  | .ok request => .ok request
  | .error error => .error (error.message bytes)

end Request
end Conch
