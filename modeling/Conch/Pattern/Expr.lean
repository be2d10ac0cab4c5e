import Conch.Pattern.Anchor

/-!
# Expressions

An expression is a pattern without its notation, in a simple form: neighbouring texts are
joined, sequences and choices do not stand in each other directly, a choice among single
characters is a class, and what all branches of a choice begin with stands before it.
The functions that build expressions keep this form, on which the weight of an expression
depends.
-/

namespace Conch.Pattern

open Unicode (Charset Range)

/-- A pattern without its notation. -/
inductive Expr where
  /-- The empty text. -/
  | empty
  /-- The characters of a text, which is not empty. -/
  | text (chars : List Char)
  /-- One character of some ranges.  The flag says whether they were given as ranges of
  octets, which then are those of ASCII. -/
  | char (ranges : Array Range) (ofOctets : Bool)
  | anchor (condition : Anchor)
  /-- A group, known by the offset of its parenthesis. -/
  | capture (offset : Nat) (body : Expr)
  /-- At least `least` times, and at most `most` times, the body.  The flag says whether few
  repetitions are tried before many. -/
  | repeated (least : Nat) (most : Option Nat) (isLazy : Bool) (body : Expr)
  | sequence (parts : List Expr)
  | choice (branches : List Expr)
  deriving Repr, Inhabited

namespace Expr

mutual

/-- Whether two expressions are the same. -/
def isSame : Expr → Expr → Bool
  | .empty, .empty => true
  | .text a, .text b => a = b
  | .char a ofOctets, .char b ofOctets' => a = b && ofOctets = ofOctets'
  | .anchor a, .anchor b => a = b
  | .capture m a, .capture n b => m = n && a.isSame b
  | .repeated least most isLazy a, .repeated least' most' isLazy' b =>
      least = least' && most = most' && isLazy = isLazy' && a.isSame b
  | .sequence as, .sequence bs | .choice as, .choice bs => areSame as bs
  | _, _ => false

/-- Whether two lists hold the same expressions. -/
def areSame : List Expr → List Expr → Bool
  | [], [] => true
  | a :: as, b :: bs => a.isSame b && areSame as bs
  | _, _ => false

end

mutual

/-- Whether an expression matches the empty text only. -/
def isEmptyOnly : Expr → Bool
  | .empty | .anchor _ => true
  | .text _ | .char _ _ => false
  | .capture _ body => body.isEmptyOnly
  | .repeated _ _ _ body => body.isEmptyOnly
  | .sequence parts | .choice parts => areEmptyOnly parts

/-- Whether every expression of a list matches the empty text only. -/
def areEmptyOnly : List Expr → Bool
  | [] => true
  | expr :: exprs => expr.isEmptyOnly && areEmptyOnly exprs

end

/-- The expression of nothing at all. -/
def never : Expr := .char #[] true

/-- The expression of one character of a set. -/
def ofSet (set : Charset) (ofOctets : Bool) : Expr :=
  match set with
  | [] => never
  | [⟨first, last⟩] =>
      if first = last then .text [Char.ofNat first] else .char #[⟨first, last⟩] ofOctets
  | ranges => .char ranges.toArray ofOctets

/-- The expression of repetitions.  What matches the empty text only need not be repeated. -/
def ofCounts (least : Nat) (most : Option Nat) (isLazy : Bool) (body : Expr) : Expr :=
  let (least, most) :=
    if body.isEmptyOnly then (min least 1, some ((most.map (min 1)).getD 1)) else (least, most)
  if least = 0 && most = some 0 then .empty
  else if least = 1 && most = some 1 then body
  else .repeated least most isLazy body

/-- The parts of an expression as a sequence. -/
def parts : Expr → List Expr
  | .empty => []
  | .sequence parts => parts
  | expr => [expr]

/-- The branches of an expression as a choice. -/
def branches : Expr → List Expr
  | .choice branches => branches
  | expr => [expr]

/-- Puts a part before others, joining two texts. -/
def joinPart (part : Expr) (rest : List Expr) : List Expr :=
  match part, rest with
  | .text before, .text behind :: rest => .text (before ++ behind) :: rest
  | part, rest => part :: rest

/-- The expression of several expressions one after the other. -/
def ofParts (exprs : List Expr) : Expr :=
  match (exprs.flatMap parts).foldr joinPart [] with
  | [] => .empty
  | [part] => part
  | parts => .sequence parts

/-- The range of a text of one character. -/
def letter? : Expr → Option Range
  | .text [c] => some ⟨c.toNat, c.toNat⟩
  | _ => none

/-- The ranges of a class. -/
def ranges? : Expr → Option (List Range)
  | .char ranges _ => some ranges.toList
  | _ => none

/-- The number of parts in which two lists agree from the start, added to those before. -/
def agreement (count : Nat) : List Expr → List Expr → Nat
  | a :: as, b :: bs => if a.isSame b then agreement (count + 1) as bs else count
  | _, _ => count

/-- The number of parts with which all of some sequences begin; none if one of the
expressions is no sequence. -/
def sharedStart : List Expr → Nat
  | .sequence first :: rest =>
      rest.foldl (fun count expr =>
        match expr with
        | .sequence parts => min count (agreement 0 first parts)
        | _ => 0) first.length
  | _ => 0

mutual

/-- A measure of an expression: the number of expressions in it. -/
def size : Expr → Nat
  | .capture _ body | .repeated _ _ _ body => body.size + 1
  | .sequence exprs | .choice exprs => totalSize exprs + 1
  | _ => 1

/-- The sum of the measures of expressions. -/
def totalSize : List Expr → Nat
  | [] => 0
  | expr :: exprs => expr.size + totalSize exprs

end

/-- The expression of a choice among several expressions.  What they all begin with is put
before a choice among the rest; the fuel is at least their total size, which grows smaller
with every such step. -/
def ofBranchesWithin : Nat → List Expr → Expr
  | 0, exprs => .choice exprs
  | fuel + 1, exprs =>
      match exprs.flatMap branches with
      | [] => never
      | [branch] => branch
      | several =>
          if let some letters := several.mapM letter? then
            ofSet (Charset.ofRanges letters) false
          else if let some sets := several.mapM ranges? then
            ofSet (Charset.ofRanges sets.flatten) false
          else
            match sharedStart several with
            | 0 => .choice several
            | count =>
                let start := ((several.head?.map parts).getD []).take count
                let rest := several.map fun branch => ofParts (branch.parts.drop count)
                ofParts (start ++ [ofBranchesWithin fuel rest])

/-- The expression of a choice among several expressions. -/
def ofBranches (exprs : List Expr) : Expr :=
  ofBranchesWithin (totalSize exprs + 1) exprs

end Expr

end Conch.Pattern
