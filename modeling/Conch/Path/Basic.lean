import Conch.Text.Pieces
import Conch.Text.Utf8

/-!
# Paths

A path is a list of octets, with segments between slashes.  It need not be a text.  A text
spells a path by its octets, and a path is shown as a text by replacing what is no text in
it, so that two paths can be shown alike.

Empty segments and `.` say nothing; `..` goes up and every other segment is a name.
Folding removes `..` lexically, without looking at any file.  Nothing here claims that the
folded path names the same file, which links can prevent.
-/

namespace Conch

/-- A path as the system takes it. -/
abbrev Path := List UInt8

namespace Path

/-- The octet of a slash. -/
abbrev slash : UInt8 := 0x2F

/-- The octet of a dot. -/
abbrev dot : UInt8 := 0x2E

/-- The segment `.`, which leads nowhere. -/
def here : Path := [dot]

/-- The segment `..`, which goes up. -/
def upward : Path := [dot, dot]

/-- The path that a text spells. -/
def ofText (text : String) : Path :=
  Text.Utf8.encode text.toList

/-- The text as which a path is shown. -/
def shown (path : Path) : String :=
  String.ofList (Text.Utf8.decodeLossy path)

/-- A segment of a path that says something. -/
inductive Part where
  /-- The segment `..`. -/
  | up
  | name (octets : Path)
  deriving DecidableEq, Repr

/-- A path is absolute when it starts with a slash. -/
def isAbsolute (path : Path) : Bool :=
  path.head? = some slash

/-- The segments of a path, empty ones included. -/
def segments (path : Path) : List Path :=
  Text.splitBy (· = slash) path

/-- What a segment says; `none` for an empty one and for `.`. -/
def Part.of? (segment : Path) : Option Part :=
  if segment = [] ∨ segment = here then none
  else if segment = upward then some .up
  else some (.name segment)

/-- The parts of a path in order. -/
def parts (path : Path) : List Part :=
  (segments path).filterMap Part.of?

/-- The segment that says a part. -/
def Part.segment : Part → Path
  | .up => upward
  | .name octets => octets

/-- The path of parts. -/
def write (absolute : Bool) (parts : List Part) : Path :=
  (if absolute then [slash] else []) ++ [slash].intercalate (parts.map Part.segment)

/-- One part after the parts folded so far, which are held last first.  A `..` removes
the name before it.  At the root it is dropped, and where a relative path starts it is
kept. -/
def foldPart (absolute : Bool) (folded : List Part) (part : Part) : List Part :=
  match part, folded with
  | .name octets, _ => .name octets :: folded
  | .up, .name _ :: before => before
  | .up, _ => if absolute then folded else .up :: folded

/-- The parts without the `..` that a name precedes. -/
def foldParts (absolute : Bool) (parts : List Part) : List Part :=
  (parts.foldl (foldPart absolute) []).reverse

/-- The path in its folded form: no empty segment, no `.`, and no `..` except at the
start of a relative path. -/
def normalize (path : Path) : Path :=
  write (isAbsolute path) (foldParts (isAbsolute path) (parts path))

/-- The path of `target` seen from `base`. -/
def join (base target : Path) : Path :=
  if isAbsolute target then target
  else if base.isEmpty || base.getLast? = some slash then base ++ target
  else base ++ slash :: target

/-- Whether a relative path starts at the place itself, with the segment `.`. -/
def startsHere (path : Path) : Bool :=
  (segments path).head? = some here

/-- Whether two paths have the same parts, however they are spelt. -/
def same (a b : Path) : Bool :=
  isAbsolute a = isAbsolute b && startsHere a = startsHere b && parts a = parts b

/-- The path before the last segment of a path: `none` for the root and for the path
without segments. -/
def parent? (path : Path) : Option Path :=
  match (parts path).reverse with
  | [] => none
  | _ :: before => some (write (isAbsolute path) before.reverse)

end Path
end Conch
