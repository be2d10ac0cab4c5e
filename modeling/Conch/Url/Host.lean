import Conch.Text.Lines
import Conch.Url.Label
import Conch.Url.Percent

/-!
# Hosts

The host of an address is a name, a number of 32 bits or a number of 128 bits.  Whether a
text is a number is decided by its last label; a text that looks like a number but is
none is refused.
-/

namespace Conch.Url

/-- A host. -/
inductive Host where
  | domain (text : List Char)
  | v4 (address : Nat)
  /-- The eight groups of sixteen bits. -/
  | v6 (groups : List Nat)
  deriving DecidableEq, Repr, Inhabited

/-- The number that digits write to a base; `none` if one of them is no digit of it. -/
def numberOf? (base : Nat) (digits : List Char) : Option Nat :=
  let step (n : Nat) (c : Char) : Option Nat :=
    match Text.hexValue? c with
    | some d => if d < base then some (base * n + d) else none
    | none => none
  digits.foldlM step 0

/-- The number that a label writes: hexadecimal after `0x`, octal after a zero, else
decimal. -/
def labelNumber? : List Char → Option Nat
  | [] => none
  | '0' :: 'x' :: digits | '0' :: 'X' :: digits => numberOf? 16 digits
  | '0' :: c :: digits => numberOf? 8 (c :: digits)
  | digits => numberOf? 10 digits

/-- The labels of a name without the empty one behind a dot at the end. -/
def labels (name : List Char) : List (List Char) :=
  let all := Text.splitBy (· = '.') name
  if 1 < all.length && all.getLast? = some [] then all.dropLast else all

/-- Whether the last label of a name is a number, or digits throughout. -/
def endsInNumber (name : List Char) : Bool :=
  match (labels name).getLast? with
  | none => false
  | some label => (!label.isEmpty && label.all Text.isDigit) || (labelNumber? label).isSome

/-- The address of at most four numbers, of which the last fills up what the others
leave. -/
def addressOf? (numbers : List Nat) : Option Nat :=
  match numbers.reverse with
  | [] => none
  | last :: before =>
      let before := before.reverse
      if 3 < before.length || before.any (255 < ·) then none
      else if Nat.pow 256 (4 - before.length) ≤ last then none
      else some (before.foldl (fun n b => 256 * n + b) 0 * Nat.pow 256 (4 - before.length) + last)

/-- The name that a text with encoded octets stands for, unless it is empty. -/
def nameOf? (text : List Char) : Option (List Char) :=
  match writtenName? (Text.Utf8.decodeLossy (percentDecode text)) with
  | some (c :: name) => some (c :: name)
  | _ => none

/-- The number of a group of hexadecimal digits, with the rest of the text. -/
def takeGroup : Nat → Nat → List Char → Nat × List Char
  | 0, value, s => (value, s)
  | _, value, [] => (value, [])
  | left + 1, value, c :: rest =>
      match Text.hexValue? c with
      | some d => takeGroup left (16 * value + d) rest
      | none => (value, c :: rest)

/-- A number below 256 without leading zeros. -/
def octetOf? (digits : List Char) : Option Nat :=
  match Text.digitsValue? digits with
  | some n => if n ≤ 255 && (digits.length = 1 || digits.head? ≠ some '0') then some n else none
  | none => none

/-- The two groups that four decimal octets write. -/
def dottedGroups? (text : List Char) : Option (List Nat) :=
  match (Text.splitBy (· = '.') text).mapM octetOf? with
  | some [a, b, c, d] => some [256 * a + b, 256 * c + d]
  | _ => none

/-- Reads groups.  The groups read before are held last first; `gap` is their number at
the place where groups are left out. -/
def readGroups : Nat → List Nat → Option Nat → List Char → Option (List Nat × Option Nat)
  | _, groups, gap, [] => some (groups, gap)
  | 0, _, _, _ :: _ => none
  | left + 1, groups, gap, c :: rest =>
      if 8 ≤ groups.length then none
      else if c = ':' then
        if gap.isSome then none else readGroups left groups (some groups.length) rest
      else
        let (value, after) := takeGroup 4 0 (c :: rest)
        match after with
        | [] => some (value :: groups, gap)
        | '.' :: _ =>
            if (Text.hexValue? c).isNone || 6 < groups.length then none
            else
              match dottedGroups? (c :: rest) with
              | some pair => some (pair.reverse ++ groups, gap)
              | none => none
        | ':' :: after =>
            if after.isEmpty then none else readGroups left (value :: groups) gap after
        | _ => none

/-- The eight groups of an address text. -/
def groupsOf? (text : List Char) : Option (List Nat) :=
  let start :=
    match text with
    | ':' :: ':' :: rest => some (some 0, rest)
    | ':' :: _ => none
    | _ => if text.length < 2 then none else some (none, text)
  match start with
  | none => none
  | some (gap, rest) =>
      match readGroups (text.length + 1) [] gap rest with
      | none => none
      | some (groups, gap) =>
          let groups := groups.reverse
          match gap with
          | some place =>
              if 8 ≤ groups.length then none
              else
                some (groups.take place ++ List.replicate (8 - groups.length) 0 ++
                  groups.drop place)
          | none => if groups.length = 8 then some groups else none

/-- Reads an address in brackets, the opening bracket already read. -/
def bracketed? (text : List Char) : Option Host :=
  if text.getLast? = some ']' then (groupsOf? text.dropLast).map Host.v6 else none

/-- Reads the host of an address that is fetched. -/
def Host.read? (text : List Char) : Option Host :=
  match text with
  | '[' :: rest => bracketed? rest
  | _ =>
      match nameOf? text with
      | none => none
      | some name =>
          if endsInNumber name then
            (((labels name).mapM labelNumber?).bind addressOf?).map Host.v4
          else some (.domain name)

/-- Whether a text can be the host of an address of another kind. -/
def isOpaqueHost (text : List Char) : Bool :=
  match text with
  | '[' :: rest => (bracketed? rest).isSome
  | _ => !text.any fun c => c.toNat = 0 || " #/:<>?@[\\]^|".toList.contains c

/-- The first longest run of two or more zero groups: its place and its length. -/
def zeroRun (groups : List Nat) : Option (Nat × Nat) :=
  let lengths := (List.range 8).map fun i =>
    (i, ((groups.drop i).takeWhile (· = 0)).length)
  let longest := (lengths.map (·.2)).foldl max 0
  if longest < 2 then none else lengths.find? fun run => run.2 = longest

/-- Groups with colons between them. -/
def groupsText (groups : List Nat) : List Char :=
  Text.joinWith [':'] (groups.map (Nat.toDigits 16))

/-- The text of a host. -/
def Host.text : Host → List Char
  | .domain text => text
  | .v4 address =>
      Text.joinWith ['.'] <|
        [address / 16777216, address / 65536 % 256, address / 256 % 256, address % 256].map
          (Nat.toDigits 10)
  | .v6 groups =>
      let inner :=
        match zeroRun groups with
        | none => groupsText groups
        | some (place, count) =>
            groupsText (groups.take place) ++ [':', ':'] ++
              groupsText (groups.drop (place + count))
      '[' :: inner ++ [']']

end Conch.Url
