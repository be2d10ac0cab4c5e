import Conch.Pattern.Escape

/-!
# Sets in square brackets

A set lists characters, ranges, classes and further sets in brackets, and combines them
with `&&`, `--` and `~~`, which associate to the left.  The sets that are open around the
place of reading are kept as a list, so that no set is too deep to be read.
-/

namespace Conch.Pattern

/-- A set that is open. -/
structure OpenSet where
  /-- From the bracket up to the first item. -/
  opening : Span
  negated : Bool
  /-- What stands before the last operation. -/
  pending : Option (SetItem × SetOperation)
  /-- Where the items since the last operation begin. -/
  first : Place
  /-- The items since the last operation, last first. -/
  items : List SetItem
  deriving Repr, Inhabited

namespace OpenSet

/-- Adds an item. -/
def add (set : OpenSet) (item : SetItem) : OpenSet :=
  { set with items := item :: set.items }

/-- What has been read of a set. -/
def content (set : OpenSet) : SetItem :=
  let right := SetItem.ofItems set.first set.items.reverse
  match set.pending with
  | none => right
  | some (left, operation) =>
      .combined ⟨left.span.first, right.span.last⟩ operation left right

/-- Goes on behind an operation. -/
def combine (set : OpenSet) (operation : SetOperation) (place : Place) : OpenSet :=
  { set with pending := some (set.content, operation), first := place, items := [] }

/-- The mistake of a set that never closes. -/
def unclosed {α : Type} (set : OpenSet) : Except Mistake α :=
  set.opening.mistake .setUnclosed

end OpenSet

/-- The character at a cursor as an item that stands for itself. -/
def plainItem (char : Char × Span) : SetItem :=
  .literal ⟨char.2, char.1, false⟩

/-- Reads a closing bracket that stands directly behind the opening one, where it stands
for itself. -/
def readLeadingBracket (start : Place) (cursor : Cursor) :
    Except Mistake (List SetItem × Cursor) :=
  if cursor.peek? = some ']' then
    let after := cursor.step
    if after.rest.isEmpty then (after.since start).mistake .setUnclosed
    else .ok ([plainItem (']', cursor.charSpan)], after)
  else .ok ([], cursor)

/-- Reads the hyphens or the closing bracket that a set begins with and that stand for
themselves. -/
def readLeadingItems (start : Place) (cursor : Cursor) :
    Except Mistake (List SetItem × Cursor) :=
  let (hyphens, after) := cursor.take (· = '-')
  if hyphens.isEmpty then readLeadingBracket start cursor
  else if after.rest.isEmpty then start.span.mistake .setUnclosed
  else .ok (hyphens.map plainItem, after)

/-- Opens a set.  The cursor stands at the bracket. -/
def openSet (cursor : Cursor) : Except Mistake (OpenSet × Cursor) := do
  let start := cursor.place
  let inner := cursor.step
  let negated := inner.peek? = some '^'
  let inner := if negated then inner.step else inner
  if inner.rest.isEmpty then (inner.since start).mistake .setUnclosed
  else
    let (items, after) ← readLeadingItems start inner
    .ok (⟨after.since start, negated, none, inner.place, items.reverse⟩, after)

/-- The class of ASCII characters of a name. -/
def asciiClassOf? : String → Option AsciiClass
  | "alnum" => some .alnum
  | "alpha" => some .alpha
  | "ascii" => some .ascii
  | "blank" => some .blank
  | "cntrl" => some .cntrl
  | "digit" => some .digit
  | "graph" => some .graph
  | "lower" => some .lower
  | "print" => some .print
  | "punct" => some .punct
  | "space" => some .space
  | "upper" => some .upper
  | "word" => some .word
  | "xdigit" => some .xdigit
  | _ => none

/-- Reads a class of ASCII characters, `none` where there is none.  The cursor stands at a
bracket. -/
def readAsciiClass? (cursor : Cursor) : Option (SetItem × Cursor) := do
  let opened ← cursor.after? ['[', ':']
  let negated := opened.peek? = some '^'
  let named := if negated then opened.next else opened
  let name := named.rest.takeWhile (· != ':')
  let after ← (named.advance name.length).after? [':', ']']
  let kind ← asciiClassOf? (String.ofList name)
  some (.ascii (after.since cursor.place) negated kind, after)

/-- Reads one character of a set, or an escape. -/
def readSetPart (cursor : Cursor) : Except Mistake (Node × Cursor) :=
  match cursor.peek? with
  | none => cursor.span.mistake .setUnclosed
  | some '\\' => readEscape cursor
  | some c => .ok (.literal ⟨cursor.charSpan, c, false⟩, cursor.next)

/-- A part as an item of a set: assertions are none. -/
def itemOf : Node → Except Mistake SetItem
  | .literal char => .ok (.literal char)
  | .shorthand span negated kind => .ok (.shorthand span negated kind)
  | .property span negated query => .ok (.property span negated query)
  | part => part.span.mistake .assertionInSet

/-- A part as an end of a range. -/
def rangeEndOf : Node → Except Mistake Literal
  | .literal char => .ok char
  | part => part.span.mistake .rangeEndNotLiteral

/-- The range between two parts. -/
def rangeOf (first last : Node) : Except Mistake SetItem := do
  let span : Span := ⟨first.span.first, last.span.last⟩
  let low ← rangeEndOf first
  let high ← rangeEndOf last
  if low.char ≤ high.char then .ok (.range span low high)
  else span.mistake .rangeReversed

/-- Reads a character, a class or a range of a set.  A hyphen makes a range unless a
closing bracket or another hyphen follows it. -/
def readSetItem (set : OpenSet) (cursor : Cursor) : Except Mistake (SetItem × Cursor) := do
  let (first, after) ← readSetPart cursor
  let after := after.skip
  let beyond := after.lookBeyond?
  if after.rest.isEmpty then set.unclosed
  else if after.peek? ≠ some '-' || beyond = some ']' || beyond = some '-' then
    let item ← itemOf first
    .ok (item, after)
  else if after.step.rest.isEmpty then set.unclosed
  else
    let (last, after) ← readSetPart after.step
    let item ← rangeOf first last
    .ok (item, after)

/-- Reads on in a set up to the end of the outermost one, given the sets around it. -/
def readSetFrom : Nat → List OpenSet → OpenSet → Cursor → Except Mistake (Node × Cursor)
  | 0, _, set, _ => set.unclosed
  | left + 1, outer, set, cursor => do
      let cursor := cursor.skip
      match cursor.rest with
      | [] => set.unclosed
      | '[' :: _ =>
          match readAsciiClass? cursor with
          | some (item, after) => readSetFrom left outer (set.add item) after
          | none =>
              let (inner, after) ← openSet cursor
              readSetFrom left (set :: outer) inner after
      | ']' :: _ =>
          let after := cursor.next
          let span := after.since set.opening.first
          match outer with
          | [] => .ok (.bracket span set.negated set.content, after)
          | parent :: outer =>
              let item := SetItem.bracket span set.negated set.content
              readSetFrom left outer (parent.add item) after
      | '&' :: '&' :: _ =>
          let after := cursor.advance 2
          readSetFrom left outer (set.combine .intersection after.place) after
      | '-' :: '-' :: _ =>
          let after := cursor.advance 2
          readSetFrom left outer (set.combine .difference after.place) after
      | '~' :: '~' :: _ =>
          let after := cursor.advance 2
          readSetFrom left outer (set.combine .symmetricDifference after.place) after
      | _ =>
          let (item, after) ← readSetItem set cursor
          readSetFrom left outer (set.add item) after

/-- Reads a set.  The cursor stands at its bracket. -/
def readSet (cursor : Cursor) : Except Mistake (Node × Cursor) := do
  let (set, after) ← openSet cursor
  readSetFrom (after.rest.length + 1) [] set after

end Conch.Pattern
