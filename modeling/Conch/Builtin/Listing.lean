import Conch.Builtin.Input
import Conch.Text.Ascii

/-!
# `ls`

One row for every entry of a directory, in the order of the names.  An entry counts as
what its path leads to, all links followed; where the path leads nowhere it counts as what
stands in the directory itself.  The path of an entry is that of its directory with the name
behind it, so the links of both count for the most that one walk follows.  One entry that
cannot be looked up at all makes the whole listing fail.
-/

namespace Conch.Builtin

/-- Whether an argument is a flag. -/
def isFlag (arg : String) : Bool :=
  arg.toList.head? = some '-'

/-- The path of the entry with a name in the directory that a path names. -/
def entryPath (path : Path) (name : Files.Name) : Path :=
  Path.join path name

/-- What the entry with a name counts as in the directory that a path names. -/
def entryBehind (files : Files.Store) (path : Path) (directory : Files.Location)
    (name : Files.Name) : Except Files.OsError Files.Entry :=
  match files.status (entryPath path name) with
  | .ok entry => .ok entry
  | .error _ => files.statusIn directory name

/-- The row of an entry. -/
def listingRow (detailed : Bool) (name : String) (entry : Files.Entry) : String :=
  let isDirectory := entry = .directory
  if detailed then
    (if isDirectory then "dir " else "file") ++ " " ++
      Text.padLeft 8 (toString entry.reportedLength) ++ " " ++ name
  else if isDirectory then name ++ "/"
  else name

/-- The order of the names of entries, by their octets. -/
def nameLe (a b : Files.Name) : Bool :=
  decide (a ≤ b)

/-- The row of the entry with a name in the directory that a path names. -/
def rowOf (detailed : Bool) (files : Files.Store) (path : Path) (directory : Files.Location)
    (name : Files.Name) : Except Fault String :=
  match entryBehind files path directory name with
  | .ok entry => .ok (listingRow detailed (Path.shown name) entry)
  | .error error => .error (.file (Path.shown name) error)

/-- The rows of the directory that a path names. -/
def listingRows (detailed : Bool) (files : Files.Store) (path : Path)
    (directory : Files.Location) (names : List Files.Name) : Except Fault (List String) :=
  (names.mergeSort nameLe).mapM (rowOf detailed files path directory)

/-- The listing of the directory that a target names, or of the current one. -/
def listing (target : Option String) (detailed : Bool) (context : Context)
    (machine : Machine) : Except Fault String := do
  let path ← context.resolve target
  context.check machine
  match machine.files.list path with
  | .error error => throw (.file (target.getD ".") error)
  | .ok (directory, names) =>
      let rows ← listingRows detailed machine.files path directory names
      return "\n".intercalate rows

/-- The outcome of `ls`. -/
def ls (args : List String) (context : Context) (machine : Machine) : Outcome :=
  let flag := args.find? isFlag
  let target := args.find? fun arg => !isFlag arg
  let detailed := flag.any fun flag => flag.toList.contains 'l'
  outcomeOf "ls" (listing target detailed context machine)

end Conch.Builtin
