import Conch.Pattern.Expr

/-!
# Matching

Read from the left, an expression leads from a set of places in a line to the set of places
where a match that began in the first set may end.  A line matches when some match begins
somewhere in it.

Sets of places are descending lists, so that a repetition that moves to the right only
touches the front of the places it has reached.
-/

namespace Conch.Pattern

/-- The union of two descending lists, on top of a list in reverse. -/
def mergeOnto (done : List Nat) : List Nat → List Nat → List Nat
  | [], right => done.reverseAux right
  | left, [] => done.reverseAux left
  | a :: left, b :: right =>
      if b < a then mergeOnto (a :: done) left (b :: right)
      else if a < b then mergeOnto (b :: done) (a :: left) right
      else mergeOnto (a :: done) left right
termination_by left right => left.length + right.length

/-- The union of two sets of places. -/
def merge (left right : List Nat) : List Nat :=
  mergeOnto [] left right

/-- What a descending list has and another has not, on top of a list in reverse. -/
def withoutOnto (done : List Nat) : List Nat → List Nat → List Nat
  | [], _ => done.reverse
  | left, [] => done.reverseAux left
  | a :: left, b :: right =>
      if b < a then withoutOnto (a :: done) left (b :: right)
      else if a < b then withoutOnto done (a :: left) right
      else withoutOnto done left right
termination_by left right => left.length + right.length

/-- The places of the first set that are not in the second. -/
def without (left right : List Nat) : List Nat :=
  withoutOnto [] left right

/-- The places where so many steps end. -/
def exactly (step : List Nat → List Nat) : Nat → List Nat → List Nat
  | 0, places => places
  | count + 1, places =>
      let next := step places
      if next = places then places else exactly step count next

/-- The places reached by at most so many more steps, given those reached already and those
of them that were reached last. -/
def atMost (step : List Nat → List Nat) : Nat → List Nat → List Nat → List Nat
  | 0, reached, _ => reached
  | count + 1, reached, latest =>
      match without (step latest) reached with
      | [] => reached
      | fresh => atMost step count (merge fresh reached) fresh

/-- The places behind the characters of a line that fulfil a condition. -/
def placesBehind (chars : Array Char) (holds : Char → Bool) (places : List Nat) : List Nat :=
  places.filterMap fun place =>
    match chars[place]? with
    | some c => if holds c then some (place + 1) else none
    | none => none

/-- The places behind a text. -/
def placesBehindText (chars : Array Char) : List Char → List Nat → List Nat
  | [], places => places
  | _, [] => []
  | c :: text, places => placesBehindText chars text (placesBehind chars (· = c) places)

mutual

/-- The places where matches end that begin at some place of a set. -/
def Expr.ends (chars : Array Char) : Expr → List Nat → List Nat
  | .empty, places => places
  | .text text, places => placesBehindText chars text places
  | .char ranges _, places =>
      placesBehind chars (fun c => Unicode.inRanges ranges c.toNat) places
  | .anchor condition, places => places.filter (condition.holds chars)
  | .capture _ body, places => body.ends chars places
  | .repeated least most _ body, places =>
      let begun := exactly (body.ends chars) least places
      let count := match most with
        | some most => most - least
        | none => chars.size + 1
      atMost (body.ends chars) count begun begun
  | .sequence parts, places => endsOfAll chars parts places
  | .choice branches, places => endsOfAny chars [] branches places

/-- The places where matches of one expression after the other end. -/
def endsOfAll (chars : Array Char) : List Expr → List Nat → List Nat
  | [], places => places
  | expr :: exprs, places => endsOfAll chars exprs (expr.ends chars places)

/-- The places where matches of some expression of a list end, with those found before. -/
def endsOfAny (chars : Array Char) (found : List Nat) : List Expr → List Nat → List Nat
  | [], _ => found
  | expr :: exprs, places => endsOfAny chars (merge found (expr.ends chars places)) exprs places

end

/-- Whether an expression matches somewhere in a line. -/
def Expr.occursIn (expr : Expr) (line : List Char) : Bool :=
  let chars := line.toArray
  !(expr.ends chars (List.range (chars.size + 1)).reverse).isEmpty

end Conch.Pattern
