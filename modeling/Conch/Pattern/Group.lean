import Conch.Pattern.Node
import Conch.Unicode.Classes

/-!
# Openings of groups

A parenthesis opens a group, which may have a name or flags of its own, or it holds nothing
but flags for what follows.
-/

namespace Conch.Pattern

/-- What a parenthesis opens. -/
inductive Opening where
  /-- A group that keeps what it matches, and its name with the span of it. -/
  | kept (name : Option (String × Span))
  /-- A group with flags of its own. -/
  | plain (settings : List FlagSetting)
  /-- Flags for what follows. -/
  | flags (settings : List FlagSetting)
  deriving Repr, Inhabited

/-- The flag of a letter. -/
def flagOf? : Char → Option Flag
  | 'i' => some .ignoreCase
  | 'm' => some .multiLine
  | 's' => some .dotMatchesAll
  | 'U' => some .swapGreed
  | 'u' => some .unicode
  | 'R' => some .returnEndsLine
  | 'x' => some .freeSpacing
  | _ => none

/-- The flags read so far. -/
structure FlagList where
  /-- The settings with the span of each, last first. -/
  settings : List (FlagSetting × Span) := []
  /-- The span of the hyphen behind which flags are switched off. -/
  negation : Option Span := none
  /-- Whether the hyphen was the last character. -/
  isDangling : Bool := false
  deriving Repr, Inhabited

/-- Adds a flag or the hyphen. -/
def FlagList.add (flags : FlagList) (c : Char) (span : Span) : Except Mistake FlagList :=
  if c = '-' then
    match flags.negation with
    | some earlier => span.clash .negationRepeated earlier
    | none => .ok { flags with negation := some span, isDangling := true }
  else
    match flagOf? c with
    | none => span.mistake .flagUnknown
    | some flag =>
        match flags.settings.find? fun (setting, _) => setting.flag = flag with
        | some (_, earlier) => span.clash .flagRepeated earlier
        | none =>
            let setting := ⟨flag, flags.negation.isNone⟩
            .ok { flags with settings := (setting, span) :: flags.settings, isDangling := false }

/-- The settings of a complete list of flags. -/
def FlagList.close (flags : FlagList) : Except Mistake (List FlagSetting) :=
  match flags.negation with
  | some span =>
      if flags.isDangling then span.mistake .negationDangling
      else .ok (flags.settings.reverse.map (·.1))
  | none => .ok (flags.settings.reverse.map (·.1))

/-- Reads flags up to the colon or parenthesis behind them, where the cursor then stands. -/
def readFlags (flags : FlagList) (cursor : Cursor) :
    Except Mistake (List FlagSetting × Cursor) :=
  match _h : cursor.peek? with
  | none => cursor.span.mistake .flagsUnfinished
  | some c =>
      if c = ':' || c = ')' then flags.close.map fun settings => (settings, cursor)
      else
        match flags.add c cursor.charSpan with
        | .error mistake => .error mistake
        | .ok flags => readFlags flags cursor.next
termination_by cursor.rest.length
decreasing_by exact Cursor.next_length_lt (by assumption)

/-- Whether a character may begin a name. -/
def isNameStart (c : Char) : Bool :=
  c = '_' || Unicode.inRanges Unicode.alphabeticTable c.toNat

/-- Whether a character may go on a name. -/
def isNameChar (c : Char) : Bool :=
  c = '_' || c = '.' || c = '[' || c = ']' || Unicode.isAlphanumeric c

/-- Reads a name up to the angle bracket behind it, where the cursor then stands; the
characters read already come last first. -/
def readNameFrom (taken : List Char) (cursor : Cursor) : Except Mistake (List Char × Cursor) :=
  match _h : cursor.peek? with
  | none => cursor.span.mistake .nameUnclosed
  | some c =>
      if c = '>' then .ok (taken.reverse, cursor)
      else if (if taken.isEmpty then isNameStart c else isNameChar c) then
        readNameFrom (c :: taken) cursor.next
      else cursor.charSpan.mistake .nameCharInvalid
termination_by cursor.rest.length
decreasing_by exact Cursor.next_length_lt (by assumption)

/-- Reads the name of a group that is not among the names given earlier.  The cursor stands
at the first character of the name. -/
def readName (names : List (String × Span)) (cursor : Cursor) :
    Except Mistake ((String × Span) × Cursor) := do
  let (name, last) ← readNameFrom [] cursor
  let span := last.since cursor.place
  if name.isEmpty then cursor.span.mistake .nameEmpty
  else
    let name := String.ofList name
    match names.lookup name with
    | some earlier => span.clash .nameRepeated earlier
    | none => .ok ((name, span), last.next)

/-- Reads what a parenthesis opens, given the names of the groups before.  The cursor stands
at the parenthesis. -/
def readOpening (names : List (String × Span)) (cursor : Cursor) :
    Except Mistake (Opening × Cursor) := do
  let inner := cursor.step
  let looks := [['?', '='], ['?', '!'], ['?', '<', '='], ['?', '<', '!']]
  if let some after := looks.findSome? inner.after? then
    (after.since cursor.place).mistake .lookaround
  else if let some named := inner.after? ['?', 'P', '<'] <|> inner.after? ['?', '<'] then
    let (name, after) ← readName names named
    .ok (.kept (some name), after)
  else if inner.peek? = some '?' then
    let asked := inner.next
    if asked.rest.isEmpty then cursor.charSpan.mistake .groupUnclosed
    else
      let (settings, last) ← readFlags {} asked
      if last.peek? = some ':' then .ok (.plain settings, last.next)
      else if settings.isEmpty then inner.span.mistake .operandMissing
      else .ok (.flags settings, last.next)
  else .ok (.kept none, inner)

end Conch.Pattern
