import Conch.Text.Blank
import Conch.Text.Pieces

/-!
# Places in patterns

A place lies between two characters of a pattern.  A cursor is a place with what is left of
the pattern there.  In free spacing, blanks and comments between the parts of a pattern
mean nothing, and the cursor skips them.
-/

namespace Conch.Pattern

/-- A place between two characters.  The offset counts from zero, line and column count
from one. -/
structure Place where
  offset : Nat
  line : Nat
  column : Nat
  deriving DecidableEq, Repr, Inhabited

/-- The place before the first character. -/
def Place.start : Place := ⟨0, 1, 1⟩

/-- The place behind a character. -/
def Place.after (place : Place) (c : Char) : Place :=
  if c = '\n' then ⟨place.offset + 1, place.line + 1, 1⟩
  else ⟨place.offset + 1, place.line, place.column + 1⟩

/-- What lies between two places. -/
structure Span where
  first : Place
  last : Place
  deriving DecidableEq, Repr, Inhabited

/-- The empty span at a place. -/
def Place.span (place : Place) : Span := ⟨place, place⟩

/-- A place of reading. -/
structure Cursor where
  place : Place
  rest : List Char
  /-- Whether blanks and comments between the parts of the pattern mean nothing. -/
  freeSpacing : Bool
  deriving DecidableEq, Repr, Inhabited

/-- Skips characters up to the first that is neither blank nor in a comment; the flag says
whether a comment is open.  A comment ends with its line. -/
def skipBlanks : Bool → Place → List Char → Place × List Char
  | _, place, [] => (place, [])
  | true, place, c :: rest => skipBlanks (c != '\n') (place.after c) rest
  | false, place, c :: rest =>
      if Text.isBlank c then skipBlanks false (place.after c) rest
      else if c = '#' then skipBlanks true (place.after c) rest
      else (place, c :: rest)

theorem skipBlanks_length_le (inComment : Bool) (place : Place) (rest : List Char) :
    (skipBlanks inComment place rest).2.length ≤ rest.length := by
  fun_induction skipBlanks inComment place rest with
  | case1 => simp
  | case2 _ _ _ ih => simp only [List.length_cons]; omega
  | case3 _ _ _ _ ih => simp only [List.length_cons]; omega
  | case4 _ _ _ ih => simp only [List.length_cons]; omega
  | case5 => simp

namespace Cursor

/-- The start of a pattern. -/
def start (pattern : List Char) : Cursor := ⟨Place.start, pattern, false⟩

/-- The next character. -/
def peek? (cursor : Cursor) : Option Char :=
  cursor.rest.head?

/-- The place behind the next character. -/
def next (cursor : Cursor) : Cursor :=
  match cursor.rest with
  | [] => cursor
  | c :: rest => { cursor with place := cursor.place.after c, rest }

/-- The place behind so many characters. -/
def advance (cursor : Cursor) : Nat → Cursor
  | 0 => cursor
  | count + 1 => cursor.next.advance count

/-- The place behind the given characters, if they come next. -/
def after? (cursor : Cursor) (expected : List Char) : Option Cursor :=
  if (Text.afterStart? expected cursor.rest).isSome then some (cursor.advance expected.length)
  else none

/-- The place of the next character that means something. -/
def skip (cursor : Cursor) : Cursor :=
  if cursor.freeSpacing then
    let (place, rest) := skipBlanks false cursor.place cursor.rest
    { cursor with place, rest }
  else cursor

/-- The place of the character that means something behind the next one. -/
def step (cursor : Cursor) : Cursor :=
  cursor.next.skip

theorem skip_length_le (cursor : Cursor) : cursor.skip.rest.length ≤ cursor.rest.length := by
  unfold skip
  split
  · exact skipBlanks_length_le false cursor.place cursor.rest
  · exact Nat.le_refl _

theorem next_length_lt {cursor : Cursor} {c : Char} (h : cursor.peek? = some c) :
    cursor.next.rest.length < cursor.rest.length := by
  obtain ⟨place, rest, freeSpacing⟩ := cursor
  cases rest with
  | nil => simp [peek?] at h
  | cons d rest => simp [next]

theorem step_length_lt {cursor : Cursor} {c : Char} (h : cursor.peek? = some c) :
    cursor.step.rest.length < cursor.rest.length :=
  Nat.lt_of_le_of_lt (skip_length_le cursor.next) (next_length_lt h)

/-- The characters that `keep` selects from here on, each with its span, after those taken
already, last first.  What means nothing between them is left out. -/
def takeFrom (keep : Char → Bool) (taken : List (Char × Span)) (cursor : Cursor) :
    List (Char × Span) × Cursor :=
  match _h : cursor.peek? with
  | none => (taken.reverse, cursor)
  | some c =>
      if keep c then takeFrom keep ((c, ⟨cursor.place, cursor.next.place⟩) :: taken) cursor.step
      else (taken.reverse, cursor)
termination_by cursor.rest.length
decreasing_by exact step_length_lt (by assumption)

/-- The characters that `keep` selects from here on, each with its span. -/
def take (cursor : Cursor) (keep : Char → Bool) : List (Char × Span) × Cursor :=
  takeFrom keep [] cursor

/-- The empty span here. -/
def span (cursor : Cursor) : Span :=
  cursor.place.span

/-- The span of the next character. -/
def charSpan (cursor : Cursor) : Span :=
  ⟨cursor.place, cursor.next.place⟩

/-- The span from an earlier place up to here. -/
def since (cursor : Cursor) (first : Place) : Span :=
  ⟨first, cursor.place⟩

/-- The character that means something behind the next one, as far as one can see without
reading comments: the first character of a comment counts. -/
def lookBeyond? (cursor : Cursor) : Option Char :=
  let following := cursor.rest.tail
  if cursor.freeSpacing then
    match following.dropWhile Text.isBlank with
    | '#' :: comment =>
        match comment.dropWhile Text.isBlank with
        | [] => following.head?
        | c :: _ => some c
    | [] => following.head?
    | c :: _ => some c
  else following.head?

end Cursor

end Conch.Pattern
