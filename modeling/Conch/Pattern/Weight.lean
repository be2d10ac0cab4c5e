import Conch.Pattern.Expr
import Conch.Pattern.Tally

/-!
# The weight of expressions

An expression is searched for by two automata, one that reads octets from the left and one
that reads them from the right.  An expression of which either weighs too much is not
searched for, so that counts cannot make a short pattern arbitrarily costly.
-/

namespace Conch.Pattern

open Unicode (Range)

/-- The weight that an automaton may have, in octets. -/
def weightLimit : Nat := 10 * 1024 * 1024

/-- A tally that is not above the limit. -/
def Tally.check (tally : Tally) : Option Tally :=
  if weightLimit < tally.weight then none else some tally

/-- The directions in which an automaton reads. -/
inductive Direction where
  | forward
  | backward
  deriving DecidableEq, Repr, Inhabited

/-- Adds one character of some ranges. -/
def Tally.addChar (tally : Tally) (direction : Direction) (ranges : List Range) : Tally :=
  if ranges.all fun range => range.last ≤ 0x7F then
    (tally.addStates 1).addSteps ranges.length
  else
    match direction with
    | .forward => tally.addForwardClass (octetWays ranges)
    | .backward => tally.addBackwardClass (octetWays ranges)

/-! ## Choices among texts -/

/-- A part of the words below a state, which have grown by their first octets: the words by
their next octet, without it, in the order in which the octets came up. -/
abbrev WordGroups := List (UInt8 × List (List UInt8))

/-- Adds the rest of a word to the group of its next octet. -/
def WordGroups.add (groups : WordGroups) (octet : UInt8) (rest : List UInt8) : WordGroups :=
  match groups with
  | [] => [(octet, [rest])]
  | (octet', rests) :: groups =>
      if octet' = octet then (octet', rest :: rests) :: groups
      else (octet', rests) :: WordGroups.add groups octet rest

/-- The groups of words, cut wherever a word ends; words that end before any goes on cut
once. -/
def wordChunks (chunks : List WordGroups) (current : WordGroups) (anyOpen : Bool) :
    List (List UInt8) → List WordGroups
  | [] => (current :: chunks).reverse
  | [] :: words =>
      if !anyOpen && !chunks.isEmpty then wordChunks chunks current anyOpen words
      else wordChunks (current :: chunks) [] anyOpen words
  | (octet :: rest) :: words =>
      wordChunks chunks (WordGroups.add current octet rest) true words

/-- Adds the states below which words of at most so many octets branch. -/
def Tally.addWords : Nat → List (List UInt8) → Tally → Tally
  | 0, _, tally => tally
  | longest + 1, words, tally =>
      let chunks := wordChunks [] [] false words
      let tally := chunks.foldl (fun tally chunk =>
        let tally := chunk.foldl (fun tally (_, rests) =>
          if rests.all (·.isEmpty) then tally
          else Tally.addWords longest rests.reverse tally) tally
        match chunk with
        | [] => tally
        | [_] => tally.addStates 1
        | groups => tally.addSteps groups.length) tally
      let filled := chunks.filter fun chunk => !chunk.isEmpty
      tally.addFork (filled.length + (chunks.length - 1))

/-- The octets of a text. -/
def textOctets? : Expr → Option (List UInt8)
  | .text chars => some (chars.flatMap Text.Utf8.encodeChar)
  | _ => none

/-- Adds a choice among texts, which share the states of the octets that they begin with. -/
def Tally.addTexts (tally : Tally) (direction : Direction) (texts : List (List UInt8)) :
    Tally :=
  let words := match direction with
    | .forward => texts
    | .backward => texts.map List.reverse
  let longest := words.foldl (fun longest word => max longest word.length) 0
  (tally.addStates 1).addWords longest words

/-! ## Expressions -/

mutual

/-- Whether an expression takes up an octet at least; `none` where that is not known, because
it has a part that never matches. -/
def Expr.takesUp? : Expr → Option Bool
  | .empty | .anchor _ => some false
  | .text _ => some true
  | .char ranges _ => if ranges.isEmpty then none else some true
  | .capture _ body => body.takesUp?
  | .repeated least _ _ body => body.takesUp?.map (least != 0 && ·)
  | .sequence parts => anyTakesUp? false parts
  | .choice branches => allTakeUp? true branches

/-- Whether some expression of a list takes up an octet, or one before did. -/
def anyTakesUp? (before : Bool) : List Expr → Option Bool
  | [] => some before
  | expr :: exprs =>
      match expr.takesUp? with
      | some takesUp => anyTakesUp? (before || takesUp) exprs
      | none => none

/-- Whether all expressions of a list take up an octet, and all before did. -/
def allTakeUp? (before : Bool) : List Expr → Option Bool
  | [] => some before
  | expr :: exprs =>
      match expr.takesUp? with
      | some takesUp => allTakeUp? (before && takesUp) exprs
      | none => none

end

/-- Adds something again and again, as long as the tally is not above the limit. -/
def addCopies (add : Tally → Option Tally) : Nat → Tally → Option Tally
  | 0, tally => some tally
  | count + 1, tally => add tally >>= addCopies add count

/-- Adds something so many times; none at all is a state that leads on. -/
def addExactly (add : Tally → Option Tally) (count : Nat) (tally : Tally) : Option Tally :=
  if count = 0 then (tally.addStates 1).check else addCopies add count tally

/-- Adds repetitions without an end of something; the flag says whether each takes up an
octet. -/
def addAtLeast (add : Tally → Option Tally) (takesUp : Bool) (least : Nat) (tally : Tally) :
    Option Tally :=
  match least with
  | 0 =>
      if takesUp then add (tally.addFork 2)
      else do
        let tally ← add tally
        (((tally.addFork 2).addFork 2).addStates 1).check
  | least + 1 => do
      let tally ← addCopies add (least + 1) tally
      (tally.addFork 2).check

/-- Adds so many repetitions of something at least, and so many more at most. -/
def addBetween (add : Tally → Option Tally) (least more : Nat) (tally : Tally) :
    Option Tally := do
  let tally ← addExactly add least tally
  if more = 0 then some tally
  else addCopies (fun tally => add (tally.addFork 2)) more (tally.addStates 1)

/-- Adds something that may be left out. -/
def addOptional (add : Tally → Option Tally) (tally : Tally) : Option Tally := do
  let tally ← add (tally.addFork 2)
  (tally.addStates 1).check

mutual

/-- Adds an expression; `none` if the tally is then above the limit.  Only an automaton that
reads forward has states for groups. -/
def Expr.addTo (direction : Direction) : Expr → Tally → Option Tally
  | .empty, tally | .anchor _, tally => (tally.addStates 1).check
  | .text chars, tally =>
      (tally.addStates (chars.flatMap Text.Utf8.encodeChar).length).check
  | .char ranges _, tally => (tally.addChar direction ranges.toList).check
  | .capture _ body, tally =>
      match direction with
      | .forward => do
          let tally ← body.addTo direction (tally.addStates 1)
          (tally.addStates 1).check
      | .backward => body.addTo direction tally
  | .repeated least most _ body, tally =>
      let add := body.addTo direction
      match least, most with
      | 0, some 1 => addOptional add tally
      | least, none => addAtLeast add (body.takesUp? = some true) least tally
      | least, some most => addBetween add least (most - least) tally
  | .sequence parts, tally =>
      match direction with
      | .forward => addParts direction parts tally
      | .backward => (backwardSteps direction [] parts).foldlM (fun tally add => add tally) tally
  | .choice branches, tally =>
      match branches.mapM textOctets? with
      | some texts => (tally.addTexts direction texts).check
      | none => addBranches direction branches.length 0 branches tally

/-- Adds expressions from the first to the last. -/
def addParts (direction : Direction) : List Expr → Tally → Option Tally
  | [], tally => some tally
  | part :: parts, tally => part.addTo direction tally >>= addParts direction parts

/-- What adds each of some expressions, beginning with the last, before given steps. -/
def backwardSteps (direction : Direction) (steps : List (Tally → Option Tally)) :
    List Expr → List (Tally → Option Tally)
  | [] => steps
  | part :: parts => backwardSteps direction (part.addTo direction :: steps) parts

/-- Adds the branches of a choice, of which so many have been added before; the fork to all
of them and the state behind them follow the second one. -/
def addBranches (direction : Direction) (count : Nat) (before : Nat) :
    List Expr → Tally → Option Tally
  | [], tally => some tally
  | branch :: branches, tally => do
      let tally ← branch.addTo direction tally
      let tally := if before = 1 then (tally.addFork count).addStates 1 else tally
      addBranches direction count (before + 1) branches tally

end

/-! ## Whole automata -/

mutual

/-- Whether every match of an expression begins where a condition holds. -/
def Expr.startsAt (condition : Anchor) : Expr → Bool
  | .anchor condition' => condition' = condition
  | .empty | .text _ | .char _ _ => false
  | .capture _ body => body.startsAt condition
  | .repeated least _ _ body => least != 0 && body.startsAt condition
  | .sequence parts => partsStartAt condition parts
  | .choice branches => branchesStartAt condition branches

/-- Whether every match of expressions one after the other begins where a condition holds:
one of the first ones asks for it, and those before match the empty text only. -/
def partsStartAt (condition : Anchor) : List Expr → Bool
  | [] => false
  | part :: parts =>
      part.startsAt condition || (part.isEmptyOnly && partsStartAt condition parts)

/-- Whether every match of some expression of a list begins where a condition holds. -/
def branchesStartAt (condition : Anchor) : List Expr → Bool
  | [] => true
  | branch :: branches => branch.startsAt condition && branchesStartAt condition branches

end

mutual

/-- Whether every match of an expression ends where a condition holds. -/
def Expr.endsAt (condition : Anchor) : Expr → Bool
  | .anchor condition' => condition' = condition
  | .empty | .text _ | .char _ _ => false
  | .capture _ body => body.endsAt condition
  | .repeated least _ _ body => least != 0 && body.endsAt condition
  | .sequence parts => partsEndAt condition false parts
  | .choice branches => branchesEndAt condition branches

/-- Whether every match of expressions one after the other ends where a condition holds:
one of the last ones asks for it, and those behind match the empty text only.  The flag says
whether this is so for the expressions before. -/
def partsEndAt (condition : Anchor) (before : Bool) : List Expr → Bool
  | [] => before
  | part :: parts =>
      partsEndAt condition (part.endsAt condition || (before && part.isEmptyOnly)) parts

/-- Whether every match of some expression of a list ends where a condition holds. -/
def branchesEndAt (condition : Anchor) : List Expr → Bool
  | [] => true
  | branch :: branches => branch.endsAt condition && branchesEndAt condition branches

end

/-- The states that skip what lies before a match; matches that begin at a fixed place need
none, and a single state leads on. -/
def Tally.skipping (isFixed : Bool) : Tally :=
  if isFixed then Tally.start.addStates 1
  else ((Tally.start.addFork 2).addStates 1).addSteps 1

/-- The automaton that reads forward.  It notes where the whole match begins and ends. -/
def Expr.forward? (expr : Expr) : Option Tally := do
  let begun := (Tally.skipping (expr.startsAt .textStart)).addStates 1
  let tally ← expr.addTo .forward begun
  (tally.addStates 2).check

/-- The automaton that reads backward. -/
def Expr.backward? (expr : Expr) : Option Tally := do
  let tally ← expr.addTo .backward (Tally.skipping (expr.endsAt .textEnd))
  (tally.addStates 1).check

/-- The number of texts from which a choice among them is searched for without an
automaton. -/
def textsLimit : Nat := 3000

/-- Whether an expression is a choice among so many texts that none is searched for by an
automaton. -/
def Expr.isWordList : Expr → Bool
  | .choice branches => textsLimit ≤ branches.length && branches.all (textOctets? · |>.isSome)
  | _ => false

/-- Whether an expression weighs too much. -/
def Expr.isOverweight (expr : Expr) : Bool :=
  !expr.isWordList && (expr.forward?.isNone || expr.backward?.isNone)

end Conch.Pattern
