import Conch.Pattern.Node

/-!
# Repetitions

A repetition follows its operand: one of three signs, or counts in braces.  A question mark
behind it chooses whether few repetitions are tried before many.
-/

namespace Conch.Pattern

/-- A repetition sign with its least and its greatest count. -/
def countsOf? : Char → Option (Nat × Option Nat)
  | '?' => some (0, some 1)
  | '*' => some (0, none)
  | '+' => some (1, none)
  | _ => none

/-- Whether a node can be repeated. -/
def Node.isOperand : Node → Bool
  | .empty _ | .flags _ _ => false
  | _ => true

/-- Whether a question mark follows a repetition, and the place behind it. -/
def readMark (cursor : Cursor) : Bool × Cursor :=
  if cursor.peek? = some '?' then (true, cursor.next) else (false, cursor)

/-- How often a node is repeated. -/
structure Counts where
  least : Nat
  most : Option Nat
  /-- Whether a question mark follows. -/
  isMarked : Bool
  deriving DecidableEq, Repr, Inhabited

/-- The repetition of a node by what ends at a cursor. -/
def Counts.repeat (counts : Counts) (cursor : Cursor) (operand : Node) : Node :=
  .repetition (cursor.since operand.span.first) counts.least counts.most counts.isMarked operand

/-- Reads a count: the count or what is wrong with it, and the place behind it. -/
def readCount (cursor : Cursor) : Except Mistake Nat × Cursor :=
  let start := (cursor.take Text.isBlank).2
  let (digits, last) := start.take Text.isDigit
  let span := last.since start.place
  let after := (last.take Text.isBlank).2
  match Text.digitsValue? (digits.map (·.1)) with
  | none => (span.mistake .countMissing, after)
  | some count =>
      if count < Nat.pow 2 32 then (.ok count, after) else (span.mistake .decimalInvalid, after)

/-- Reads the greatest count and closes the counts.  The cursor stands behind the comma
that follows the least count. -/
def readMost (least : Except Mistake Nat) (cursor : Cursor) :
    Except Mistake ((Nat × Option Nat) × Cursor) := do
  if cursor.peek? = some '}' then
    let least ← least
    .ok ((least, none), cursor)
  else
    let least ← least
    let (most, after) := readCount cursor
    let most ← most
    .ok ((least, some most), after)

/-- Reads the counts in braces and the question mark that may follow them.  The cursor
stands at the opening brace. -/
def readCounts (brace : Cursor) : Except Mistake (Counts × Cursor) := do
  let unclosed (cursor : Cursor) : Except Mistake (Counts × Cursor) :=
    (cursor.since brace.place).mistake .countUnclosed
  let inner := brace.step
  if inner.rest.isEmpty then unclosed inner
  else
    let (least, after) := readCount inner
    let behind := after.step
    if after.rest.isEmpty then unclosed after
    else if after.peek? = some ',' && behind.rest.isEmpty then unclosed behind
    else
      let ((least, most), last) ←
        if after.peek? = some ',' then readMost least behind
        else least.map fun least => ((least, some least), after)
      if last.peek? ≠ some '}' then unclosed last
      else
        let (isMarked, after) := readMark last.step
        if most.any (· < least) then (after.since brace.place).mistake .countsReversed
        else .ok (⟨least, most, isMarked⟩, after)

/-- Reads a repetition of a node.  The cursor stands at its sign or its opening brace. -/
def readRepetition (operand : Option Node) (cursor : Cursor) :
    Except Mistake (Node × Cursor) := do
  match operand with
  | none => cursor.span.mistake .operandMissing
  | some operand =>
      if !operand.isOperand then cursor.span.mistake .operandMissing
      else
        match cursor.peek?.bind countsOf? with
        | some (least, most) =>
            let (isMarked, after) := readMark cursor.next
            .ok (Counts.repeat ⟨least, most, isMarked⟩ after operand, after)
        | none =>
            let (counts, after) ← readCounts cursor
            .ok (counts.repeat after operand, after)

end Conch.Pattern
