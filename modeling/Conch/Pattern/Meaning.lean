import Conch.Pattern.Expr

/-!
# The meaning of patterns

A node means an expression under flags.  Flags hold up to the end of the group they stand in.
Without the flag for Unicode, classes hold ASCII characters only, and what would match single
octets of a character is refused.
-/

namespace Conch.Pattern

open Unicode (Charset)

/-- The flags that matter to what a pattern matches. -/
structure Flags where
  ignoreCase : Bool
  multiLine : Bool
  dotMatchesAll : Bool
  swapGreed : Bool
  unicode : Bool
  returnEndsLine : Bool
  deriving DecidableEq, Repr, Inhabited

/-- The flags that a search begins with. -/
def Flags.initial : Flags where
  ignoreCase := true
  multiLine := false
  dotMatchesAll := false
  swapGreed := false
  unicode := true
  returnEndsLine := false

namespace Flags

/-- The flags behind settings. -/
def apply (flags : Flags) (settings : List FlagSetting) : Flags where
  ignoreCase := (settingOf? settings .ignoreCase).getD flags.ignoreCase
  multiLine := (settingOf? settings .multiLine).getD flags.multiLine
  dotMatchesAll := (settingOf? settings .dotMatchesAll).getD flags.dotMatchesAll
  swapGreed := (settingOf? settings .swapGreed).getD flags.swapGreed
  unicode := (settingOf? settings .unicode).getD flags.unicode
  returnEndsLine := (settingOf? settings .returnEndsLine).getD flags.returnEndsLine

/-- The table of characters that are equal but for their case. -/
def caseTable (flags : Flags) : Array (Nat × List Nat) :=
  if flags.unicode then Unicode.caseTable else Unicode.asciiCaseTable

/-- A set with the characters that are equal to one of it but for their case, if case does
not matter. -/
def fold (flags : Flags) (set : Charset) : Charset :=
  if flags.ignoreCase then set.foldUnder flags.caseTable else set

/-- The ranges between neighbouring ranges.  Where two ranges touch across the surrogates the
gap has no character, and its two ends count as if they were in it. -/
def gaps : Charset → Charset
  | a :: b :: rest =>
      let first := Unicode.codeAfter a.last
      let last := Unicode.codeBefore b.first
      ⟨min first last, max first last⟩ :: gaps (b :: rest)
  | _ => []

/-- The set of a class that is negated. -/
def negation (set : Charset) : Charset :=
  match set with
  | [] => Charset.complement []
  | a :: _ =>
      let last := (set.getLast?.getD a).last
      let before : Charset := if 0 < a.first then [⟨0, Unicode.codeBefore a.first⟩] else []
      let after : Charset :=
        if last < Unicode.lastCodePoint then
          [⟨Unicode.codeAfter last, Unicode.lastCodePoint⟩]
        else []
      Charset.ofRanges (before ++ gaps set ++ after)

/-- The set of a class, folded and then negated. -/
def close (flags : Flags) (span : Span) (negated : Bool) (set : Charset) :
    Except Mistake Charset :=
  let folded := flags.fold set
  if !negated then .ok folded
  else if flags.unicode then .ok (negation folded)
  else span.mistake .octetNotText

/-- The set of a literal outside of brackets. -/
def literalSet (flags : Flags) (literal : Literal) : Except Mistake Charset :=
  let code := literal.char.toNat
  if !flags.unicode && literal.isOctet && 0x7F < code then
    literal.span.mistake .octetNotText
  else if flags.ignoreCase then
    .ok <| Charset.ofRanges <|
      (Unicode.classUnder flags.caseTable code).map fun n => ⟨n, n⟩
  else .ok (Charset.singleton code)

/-- The code point of a literal in brackets. -/
def itemCode (flags : Flags) (literal : Literal) : Except Mistake Nat :=
  let code := literal.char.toNat
  if flags.unicode || code ≤ 0x7F then .ok code
  else literal.span.mistake (if literal.isOctet then .octetNotText else .unicodeNotAllowed)

/-- The set of a class of one letter. -/
def shorthandSet (flags : Flags) (span : Span) (negated : Bool) (kind : Shorthand) :
    Except Mistake Charset :=
  if flags.unicode then .ok (if negated then kind.set.complement else kind.set)
  else if negated then span.mistake .octetNotText
  else .ok kind.asciiSet

/-- The set of a property. -/
def propertySet (flags : Flags) (span : Span) (negated : Bool) (query : PropertyQuery) :
    Except Mistake Charset :=
  if !flags.unicode then span.mistake .unicodeNotAllowed
  else
    match query.set with
    | .error problem => span.mistake problem
    | .ok set => flags.close span negated set

/-- The set that a dot stands for. -/
def dotSet (flags : Flags) (span : Span) : Except Mistake Charset :=
  if !flags.unicode then span.mistake .octetNotText
  else if flags.dotMatchesAll then .ok (Charset.complement [])
  else if flags.returnEndsLine then .ok (Charset.complement [⟨10, 10⟩, ⟨13, 13⟩])
  else .ok (Charset.complement [⟨10, 10⟩])

/-- The condition that an assertion stands for. -/
def anchorOf (flags : Flags) : Assertion → Anchor
  | .lineStart =>
      if flags.multiLine then .lineStart flags.returnEndsLine else .textStart
  | .lineEnd => if flags.multiLine then .lineEnd flags.returnEndsLine else .textEnd
  | .textStart => .textStart
  | .textEnd => .textEnd
  | .wordBoundary => .word (!flags.unicode) .boundary
  | .noWordBoundary => .word (!flags.unicode) .noBoundary
  | .wordStart => .word (!flags.unicode) .start
  | .wordEnd => .word (!flags.unicode) .finish
  | .wordStartHalf => .word (!flags.unicode) .noneBefore
  | .wordEndHalf => .word (!flags.unicode) .noneAfter

end Flags

/-- The set of two sets that an operation combines. -/
def SetOperation.apply : SetOperation → Charset → Charset → Charset
  | .intersection, left, right => left.intersection right
  | .difference, left, right => left.difference right
  | .symmetricDifference, left, right => left.symmetricDifference right

mutual

/-- The characters of a set in brackets. -/
def SetItem.set (flags : Flags) : SetItem → Except Mistake Charset
  | .empty _ => .ok []
  | .literal char => do
      let code ← flags.itemCode char
      .ok (Charset.singleton code)
  | .range _ first last => do
      let low ← flags.itemCode first
      let high ← flags.itemCode last
      .ok [⟨low, high⟩]
  | .ascii span negated kind => flags.close span negated kind.set
  | .shorthand span negated kind => flags.shorthandSet span negated kind
  | .property span negated query => flags.propertySet span negated query
  | .bracket span negated content => do
      let set ← content.set flags
      flags.close span negated set
  | .union _ items => do
      let ranges ← itemRanges flags [] items
      .ok (Charset.ofRanges ranges)
  | .combined _ operation left right => do
      let left ← left.set flags
      let right ← right.set flags
      .ok (operation.apply (flags.fold left) (flags.fold right))

/-- The ranges of a list of sets, added to those before. -/
def itemRanges (flags : Flags) (ranges : List Unicode.Range) :
    List SetItem → Except Mistake (List Unicode.Range)
  | [] => .ok ranges
  | item :: items => do
      let set ← item.set flags
      itemRanges flags (set.reverseAux ranges) items

end

/-- The expression of one character of a set. -/
def Flags.charExpr (flags : Flags) (set : Except Mistake Charset) :
    Except Mistake (Expr × Flags) :=
  set.map fun set => (Expr.ofSet set (!flags.unicode), flags)

mutual

/-- The expression that a node means, and the flags behind it. -/
def Node.expr (flags : Flags) : Node → Except Mistake (Expr × Flags)
  | .empty _ => .ok (.empty, flags)
  | .flags _ settings => .ok (.empty, flags.apply settings)
  | .literal char => flags.charExpr (flags.literalSet char)
  | .dot span => flags.charExpr (flags.dotSet span)
  | .assertion _ kind => .ok (.anchor (flags.anchorOf kind), flags)
  | .shorthand span negated kind => flags.charExpr (flags.shorthandSet span negated kind)
  | .property span negated query => flags.charExpr (flags.propertySet span negated query)
  | .bracket span negated content =>
      flags.charExpr do flags.close span negated (← content.set flags)
  | .repetition _ least most isMarked body => do
      let (expr, after) ← body.expr flags
      .ok (Expr.ofCounts least most (isMarked != after.swapGreed) expr, after)
  | .group span isKept settings body => do
      let (expr, _) ← body.expr (flags.apply settings)
      .ok (if isKept then .capture span.first.offset expr else expr, flags)
  | .alternation _ branches => do
      let (exprs, flags) ← nodeExprs flags [] branches
      .ok (Expr.ofBranches exprs.reverse, flags)
  | .sequence _ parts => do
      let (exprs, flags) ← nodeExprs flags [] parts
      .ok (Expr.ofParts exprs.reverse, flags)

/-- The expressions that nodes mean one after the other, last first, and the flags behind
them. -/
def nodeExprs (flags : Flags) (exprs : List Expr) :
    List Node → Except Mistake (List Expr × Flags)
  | [] => .ok (exprs, flags)
  | node :: nodes => do
      let (expr, flags) ← node.expr flags
      nodeExprs flags (expr :: exprs) nodes

end

end Conch.Pattern
