import Conch.Pattern.Bracket
import Conch.Pattern.Group
import Conch.Pattern.Repetition

/-!
# Reading patterns

A pattern is read from left to right.  The groups that are open around the place of reading
are kept as a list, so that reading does not depend on how deep they are; only the
finished pattern is refused when it nests too deeply.
-/

namespace Conch.Pattern

/-- The branches of a group, as far as they have been read. -/
structure Branches where
  /-- Where the first branch begins. -/
  first : Place
  /-- The branches before the last one, last first. -/
  earlier : List Node
  /-- Where the last branch begins. -/
  start : Place
  /-- The parts of the last branch, last first. -/
  parts : List Node
  deriving Repr, Inhabited

namespace Branches

/-- The branches of a group that begins at a place. -/
def opened (place : Place) : Branches := ⟨place, [], place, []⟩

/-- Adds a part to the last branch. -/
def add (branches : Branches) (part : Node) : Branches :=
  { branches with parts := part :: branches.parts }

/-- The last branch, which ends at a place. -/
def lastBranch (branches : Branches) (place : Place) : Node :=
  Node.ofParts ⟨branches.start, place⟩ branches.parts.reverse

/-- Ends the last branch and opens another one behind the sign between them. -/
def split (branches : Branches) (sign : Cursor) : Branches :=
  { branches with
    earlier := branches.lastBranch sign.place :: branches.earlier
    start := sign.next.place
    parts := [] }

/-- The node of branches that end at a place. -/
def node (branches : Branches) (place : Place) : Node :=
  let last := branches.lastBranch place
  if branches.earlier.isEmpty then last
  else .alternation ⟨branches.first, place⟩ (last :: branches.earlier).reverse

end Branches

/-- A group that is open. -/
structure OpenGroup where
  /-- The span of its parenthesis. -/
  opening : Span
  /-- Whether the group keeps what it matches. -/
  isKept : Bool
  settings : List FlagSetting
  /-- Whether blanks meant nothing before the group. -/
  freeSpacing : Bool
  /-- The branches that the group stands in. -/
  around : Branches
  deriving Repr, Inhabited

/-- A pattern that has been read in part. -/
structure Draft where
  /-- The names given to groups, with their spans. -/
  names : List (String × Span)
  /-- The open groups, innermost first. -/
  groups : List OpenGroup
  branches : Branches
  deriving Repr, Inhabited

/-- What free spacing is behind settings. -/
def Cursor.apply (cursor : Cursor) (settings : List FlagSetting) : Cursor :=
  { cursor with
    freeSpacing := (settingOf? settings .freeSpacing).getD cursor.freeSpacing }

/-- Opens a group or takes flags.  The cursor stands at the parenthesis. -/
def Draft.openGroup (draft : Draft) (cursor : Cursor) : Except Mistake (Draft × Cursor) := do
  let (opening, after) ← readOpening draft.names cursor
  match opening with
  | .flags settings =>
      let part := .flags (after.since cursor.place) settings
      .ok ({ draft with branches := draft.branches.add part }, after.apply settings)
  | .kept name =>
      let group := ⟨cursor.charSpan, true, [], after.freeSpacing, draft.branches⟩
      .ok ({ names := name.toList ++ draft.names
             groups := group :: draft.groups
             branches := Branches.opened after.place }, after)
  | .plain settings =>
      let group := ⟨cursor.charSpan, false, settings, after.freeSpacing, draft.branches⟩
      .ok ({ draft with
             groups := group :: draft.groups
             branches := Branches.opened after.place }, after.apply settings)

/-- Closes the innermost group.  The cursor stands at the parenthesis. -/
def Draft.closeGroup (draft : Draft) (cursor : Cursor) : Except Mistake (Draft × Cursor) :=
  match draft.groups with
  | [] => cursor.charSpan.mistake .groupUnopened
  | group :: groups =>
      let after := { cursor.next with freeSpacing := group.freeSpacing }
      let body := draft.branches.node cursor.place
      let span := after.since group.opening.first
      let part := .group span group.isKept group.settings body
      .ok ({ draft with groups, branches := group.around.add part }, after)

/-- Repeats the last part of the last branch. -/
def Draft.repeatLast (draft : Draft) (cursor : Cursor) : Except Mistake (Draft × Cursor) := do
  let (part, after) ← readRepetition draft.branches.parts.head? cursor
  let parts := part :: draft.branches.parts.tail
  .ok ({ draft with branches := { draft.branches with parts } }, after)

/-- Reads a part that neither opens nor closes a group. -/
def readPart (c : Char) (cursor : Cursor) : Except Mistake (Node × Cursor) :=
  match c with
  | '[' => readSet cursor
  | '\\' => readEscape cursor
  | '.' => .ok (.dot cursor.charSpan, cursor.next)
  | '^' => .ok (.assertion cursor.charSpan .lineStart, cursor.next)
  | '$' => .ok (.assertion cursor.charSpan .lineEnd, cursor.next)
  | c => .ok (.literal ⟨cursor.charSpan, c, false⟩, cursor.next)

/-- Reads the next part, opening, closing or sign of a pattern. -/
def Draft.step (draft : Draft) (c : Char) (cursor : Cursor) :
    Except Mistake (Draft × Cursor) := do
  match c with
  | '(' => draft.openGroup cursor
  | ')' => draft.closeGroup cursor
  | '|' => .ok ({ draft with branches := draft.branches.split cursor }, cursor.next)
  | '?' | '*' | '+' | '{' => draft.repeatLast cursor
  | c =>
      let (part, after) ← readPart c cursor
      .ok ({ draft with branches := draft.branches.add part }, after)

/-- The node of a pattern that ends at a place. -/
def Draft.close (draft : Draft) (place : Place) : Except Mistake Node :=
  match draft.groups with
  | [] => .ok (draft.branches.node place)
  | group :: _ => group.opening.mistake .groupUnclosed

/-- Reads on in a pattern up to its end. -/
def readFrom : Nat → Draft → Cursor → Except Mistake Node
  | 0, draft, cursor => draft.close cursor.place
  | left + 1, draft, cursor => do
      let cursor := cursor.skip
      match cursor.peek? with
      | none => draft.close cursor.place
      | some c =>
          let (draft, after) ← draft.step c cursor
          readFrom left draft after

/-- Reads a pattern. -/
def readNode (pattern : List Char) : Except Mistake Node := do
  let draft := ⟨[], [], Branches.opened Place.start⟩
  let node ← readFrom (pattern.length + 1) draft (Cursor.start pattern)
  match node.tooDeep? 0 with
  | some span => span.mistake .tooDeep
  | none => .ok node

end Conch.Pattern
