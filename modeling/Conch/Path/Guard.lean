import Conch.Path.Basic

/-!
# Path guard

Resolving a path that a user names against a base directory.  A `..` between slashes
or backslashes is refused before anything else; what passes is folded.  No file is
looked at.
-/

namespace Conch.Path

/-- Why a path is refused. -/
inductive Traversal where
  /-- The path as named has a `..` segment. -/
  | named
  /-- The folded path still starts with `..`. -/
  | folded
  deriving DecidableEq, Repr, Inhabited

/-- The wording of a refusal. -/
def Traversal.message : Traversal → String
  | .named => "cannot use .. in paths"
  | .folded => "resolved path contains .."

/-- Slash and backslash both end a segment where `..` is looked for. -/
def isSeparator (c : Char) : Bool :=
  c = '/' || c = '\\'

/-- Whether some segment between separators is `..`. -/
def climbs (target : List Char) : Bool :=
  (Text.splitBy isSeparator target).contains ['.', '.']

/-- Resolves a target that is not empty. -/
def resolveTarget (base : Path) (target : String) : Except Traversal Path :=
  if climbs target.toList then .error .named
  else
    let path := normalize (join base (ofText target))
    if (parts path).contains .up then .error .folded
    else .ok path

/-- The path that `target` names from `base`.  No target, or an empty one, names the
base itself, unchanged. -/
def resolve (target : Option String) (base : Path) : Except Traversal Path :=
  match target with
  | none => .ok base
  | some target => if target.isEmpty then .ok base else resolveTarget base target

end Conch.Path
