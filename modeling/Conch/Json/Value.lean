import Conch.Number.Decimal
import Conch.Text.Ascii

/-!
# JSON values

Values of the interchange format and their compact text.
-/

namespace Conch

/-- A JSON number as read: a whole number in the range of 64 bits, or a binary number
with its sign. -/
inductive JsonNumber where
  | natural (n : Nat)
  | negative (n : Nat)
  | binary (isNegative : Bool) (magnitude : Number.Binary64)
  deriving DecidableEq, Repr, Inhabited

/-- A JSON value.  The members of an object are in the order of their names. -/
inductive Json where
  | null
  | bool (value : Bool)
  | number (value : JsonNumber)
  | string (value : String)
  | array (items : List Json)
  | object (members : List (String × Json))
  deriving Repr, Inhabited

namespace JsonNumber

/-- The text of a number. -/
def text : JsonNumber → String
  | .natural n => toString n
  | .negative n => "-" ++ toString n
  | .binary isNegative magnitude =>
      (if isNegative then "-" else "") ++ magnitude.display

end JsonNumber

namespace Json

/-- A whole number as a value. -/
def ofInt (n : Int) : Json :=
  if n < 0 then .number (.negative n.natAbs) else .number (.natural n.toNat)

/-- A text as a value, or null. -/
def ofText? : Option String → Json
  | some text => .string text
  | none => .null

/-- A character within a JSON string. -/
def escapeChar (c : Char) : List Char :=
  if c = '"' then ['\\', '"']
  else if c = '\\' then ['\\', '\\']
  else if c = '\n' then ['\\', 'n']
  else if c = '\r' then ['\\', 'r']
  else if c = '\t' then ['\\', 't']
  else if c.toNat = 8 then ['\\', 'b']
  else if c.toNat = 12 then ['\\', 'f']
  else if c.toNat < 0x20 then '\\' :: 'u' :: Text.hexDigits 4 c.toNat
  else [c]

/-- A JSON string. -/
def quote (s : String) : String :=
  String.ofList ('"' :: s.toList.flatMap escapeChar ++ ['"'])

mutual

/-- The compact text of a value. -/
def render : Json → String
  | .null => "null"
  | .bool value => if value then "true" else "false"
  | .number value => value.text
  | .string value => quote value
  | .array items => "[" ++ ",".intercalate (renderItems items) ++ "]"
  | .object members => "\x7b" ++ ",".intercalate (renderMembers members) ++ "\x7d"

/-- The texts of the items of an array. -/
def renderItems : List Json → List String
  | [] => []
  | item :: rest => item.render :: renderItems rest

/-- The texts of the members of an object. -/
def renderMembers : List (String × Json) → List String
  | [] => []
  | (name, value) :: rest => (quote name ++ ":" ++ value.render) :: renderMembers rest

end

/-- The members with one put in its place by name; it replaces one of the same name. -/
def insertMember (name : String) (value : Json) : List (String × Json) → List (String × Json)
  | [] => [(name, value)]
  | (n, v) :: rest =>
      if name < n then (name, value) :: (n, v) :: rest
      else if name = n then (name, value) :: rest
      else (n, v) :: insertMember name value rest

end Json
end Conch
