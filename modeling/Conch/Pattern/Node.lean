import Conch.Pattern.Mistake

/-!
# The parts of a pattern

A pattern is a tree of nodes.  Every node knows the span that it was read from, because
some mistakes come to light only when the tree is given its meaning.
-/

namespace Conch.Pattern

/-- A character that stands for itself.  One written as an escape of two hexadecimal digits
may stand for a single octet. -/
structure Literal where
  span : Span
  char : Char
  isOctet : Bool
  deriving DecidableEq, Repr, Inhabited

/-- The classes with an escape of one letter. -/
inductive Shorthand where
  | digit
  | space
  | word
  deriving DecidableEq, Repr, Inhabited

/-- The classes of ASCII characters that a set may name. -/
inductive AsciiClass where
  | alnum
  | alpha
  | ascii
  | blank
  | cntrl
  | digit
  | graph
  | lower
  | print
  | punct
  | space
  | upper
  | word
  | xdigit
  deriving DecidableEq, Repr, Inhabited

/-- What a property escape asks for. -/
inductive PropertyQuery where
  /-- A property, a category or a script. -/
  | named (name : String)
  /-- A value of a property. -/
  | valued (property value : String)
  deriving DecidableEq, Repr, Inhabited

/-- The ways to combine two sets. -/
inductive SetOperation where
  | intersection
  | difference
  | symmetricDifference
  deriving DecidableEq, Repr, Inhabited

/-- What stands in square brackets. -/
inductive SetItem where
  | empty (span : Span)
  | literal (literal : Literal)
  | range (span : Span) (first last : Literal)
  | ascii (span : Span) (negated : Bool) (kind : AsciiClass)
  | shorthand (span : Span) (negated : Bool) (kind : Shorthand)
  | property (span : Span) (negated : Bool) (query : PropertyQuery)
  | bracket (span : Span) (negated : Bool) (content : SetItem)
  | union (span : Span) (items : List SetItem)
  | combined (span : Span) (operation : SetOperation) (left right : SetItem)
  deriving Repr, Inhabited

/-- The span of a set. -/
def SetItem.span : SetItem → Span
  | .literal char => char.span
  | .empty span | .range span _ _ | .ascii span _ _ | .shorthand span _ _
  | .property span _ _ | .bracket span _ _ | .union span _ | .combined span _ _ _ => span

/-- The flags of a pattern. -/
inductive Flag where
  | ignoreCase
  | multiLine
  | dotMatchesAll
  | swapGreed
  | unicode
  | returnEndsLine
  | freeSpacing
  deriving DecidableEq, Repr, Inhabited

/-- A flag switched on or off. -/
structure FlagSetting where
  flag : Flag
  isOn : Bool
  deriving DecidableEq, Repr, Inhabited

/-- What settings make of a flag. -/
def settingOf? (settings : List FlagSetting) (flag : Flag) : Option Bool :=
  (settings.find? fun setting => setting.flag = flag).map (·.isOn)

/-- The conditions on a place that an escape or a sign can name. -/
inductive Assertion where
  | lineStart
  | lineEnd
  | textStart
  | textEnd
  | wordBoundary
  | noWordBoundary
  | wordStart
  | wordEnd
  | wordStartHalf
  | wordEndHalf
  deriving DecidableEq, Repr, Inhabited

/-- A part of a pattern. -/
inductive Node where
  | empty (span : Span)
  | flags (span : Span) (settings : List FlagSetting)
  | literal (literal : Literal)
  | dot (span : Span)
  | assertion (span : Span) (kind : Assertion)
  | shorthand (span : Span) (negated : Bool) (kind : Shorthand)
  | property (span : Span) (negated : Bool) (query : PropertyQuery)
  | bracket (span : Span) (negated : Bool) (content : SetItem)
  /-- A body written `least` times at least and `most` times at most.  The flag says whether
  a question mark follows. -/
  | repetition (span : Span) (least : Nat) (most : Option Nat) (isMarked : Bool) (body : Node)
  /-- A group; the first flag says whether it keeps what it matches. -/
  | group (span : Span) (isKept : Bool) (settings : List FlagSetting) (body : Node)
  | alternation (span : Span) (branches : List Node)
  | sequence (span : Span) (parts : List Node)
  deriving Repr, Inhabited

/-- The span of a node. -/
def Node.span : Node → Span
  | .literal char => char.span
  | .empty span | .flags span _ | .dot span | .assertion span _ | .shorthand span _ _
  | .property span _ _ | .bracket span _ _ | .repetition span _ _ _ _ | .group span _ _ _
  | .alternation span _ | .sequence span _ => span

/-- The sequence of several parts; a single part stands for itself. -/
def Node.ofParts (span : Span) : List Node → Node
  | [] => .empty span
  | [part] => part
  | parts => .sequence span parts

/-- The set of several items; a single item stands for itself, and several span from the
first to the last. -/
def SetItem.ofItems (place : Place) : List SetItem → SetItem
  | [] => .empty place.span
  | [item] => item
  | first :: rest =>
      let last := (rest.getLast?).getD first
      .union ⟨first.span.first, last.span.last⟩ (first :: rest)

mutual

/-- The first set that nests too deeply, below so many levels. -/
def SetItem.tooDeep? (depth : Nat) : SetItem → Option Span
  | .bracket span _ content =>
      if depthLimit ≤ depth then some span else content.tooDeep? (depth + 1)
  | .union span items =>
      if depthLimit ≤ depth then some span else tooDeepItem? (depth + 1) items
  | .combined span _ left right =>
      if depthLimit ≤ depth then some span
      else left.tooDeep? (depth + 1) <|> right.tooDeep? (depth + 1)
  | _ => none

/-- The first set that nests too deeply in a list of sets. -/
def tooDeepItem? (depth : Nat) : List SetItem → Option Span
  | [] => none
  | item :: items =>
      match item.tooDeep? depth with
      | some span => some span
      | none => tooDeepItem? depth items

end

mutual

/-- The first part that nests too deeply, below so many levels. -/
def Node.tooDeep? (depth : Nat) : Node → Option Span
  | .bracket span _ content =>
      if depthLimit ≤ depth then some span else content.tooDeep? (depth + 1)
  | .repetition span _ _ _ body | .group span _ _ body =>
      if depthLimit ≤ depth then some span else body.tooDeep? (depth + 1)
  | .alternation span nodes | .sequence span nodes =>
      if depthLimit ≤ depth then some span else tooDeepNode? (depth + 1) nodes
  | _ => none

/-- The first part that nests too deeply in a list of parts. -/
def tooDeepNode? (depth : Nat) : List Node → Option Span
  | [] => none
  | node :: nodes =>
      match node.tooDeep? depth with
      | some span => some span
      | none => tooDeepNode? depth nodes

end

end Conch.Pattern
