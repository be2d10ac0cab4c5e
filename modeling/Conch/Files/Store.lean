import Conch.Files.OsError
import Conch.Path.Basic

/-!
# The file store

Files, directories, links and devices under one root.  The store maps locations,
which are lists of names from the root down, to entries.  A path becomes a location
by walking it: `.` stays, `..` goes up from the directory reached, and a link is
replaced by its target.  A walk follows at most forty links, and it may look up
names only in directories that the process may search.
-/

namespace Conch.Files

/-- What reading from a device gives. -/
inductive Delivery where
  /-- The end at once. -/
  | nothing
  /-- Zero octets without end. -/
  | zeros
  /-- An input/output error. -/
  | failing
  deriving DecidableEq, Repr, Inhabited

/-- A device: its reported length is zero, and it keeps nothing that is written. -/
structure Device where
  delivery : Delivery
  /-- Whether writing to it fails for want of space. -/
  full : Bool
  deriving DecidableEq, Repr, Inhabited

/-- What stands at a location. -/
inductive Entry where
  | directory
  | file (bytes : List UInt8)
  | link (target : Path)
  | device (kind : Device)
  deriving DecidableEq, Repr, Inhabited

/-- The name of an entry in its directory. -/
abbrev Name := List UInt8

/-- A location: the names from the root down. -/
abbrev Location := List Name

/-- What the process may want to do with an entry. -/
inductive Access where
  /-- Reading a file, or listing a directory. -/
  | read
  /-- Writing a file, or making an entry in a directory. -/
  | write
  /-- Looking up a name in a directory. -/
  | search
  deriving DecidableEq, Repr, Inhabited

/-- The files of a machine. -/
structure Store where
  entries : List (Location × Entry)
  /-- The directory at which relative paths start. -/
  current : Location
  /-- What the system denies the process.  Where nothing stands, it is what will be denied
  of an entry that is made there. -/
  denials : List (Location × Access) := []
  deriving DecidableEq, Repr, Inhabited

/-- The longest name of an entry, in octets. -/
def maxName : Nat := 255

/-- The longest path, in octets. -/
def maxPath : Nat := 4095

/-- The most links that one walk follows. -/
def maxLinks : Nat := 40

/-- What a walk is for. -/
inductive Aim where
  /-- The entry itself: a link at the end is not followed. -/
  | itself
  /-- The entry to which links at the end lead. -/
  | target
  /-- A file at the end of all links, to be made if there is none.  A name with a slash
  behind it cannot be one. -/
  | newFile
  deriving DecidableEq, Repr, Inhabited

/-- Where a walk stopped. -/
inductive Walk where
  /-- At an entry. -/
  | found (location : Location) (entry : Entry)
  /-- At a name that its directory does not hold. -/
  | absent (location : Location)
  /-- At a link in the directory `base`, with segments still to go. -/
  | link (base : Location) (target : Path) (rest : List Name)
  | failed (error : OsError)

namespace Store

/-- The entry at a location; the root is always a directory. -/
def entry? (store : Store) (location : Location) : Option Entry :=
  if location.isEmpty then some .directory else store.entries.lookup location

/-- Whether the process may do something with the entry at a location. -/
def allows (store : Store) (location : Location) (access : Access) : Bool :=
  !store.denials.contains (location, access)

/-- Whether nothing but slashes is left of a path. -/
def onlySlashes (rest : List Name) : Bool :=
  !rest.isEmpty && rest.all (·.isEmpty)

/-- Walks segments from a directory on, up to the first link that has to be followed.  Every
segment but the empty one that a slash leaves at the end is looked up in its directory. -/
def walk (store : Store) (aim : Aim) (base : Location) : List Name → Walk
  | [] => .found base .directory
  | segment :: rest =>
      if segment.isEmpty then store.walk aim base rest
      else if !store.allows base .search then .failed .denied
      else if segment = Path.here then store.walk aim base rest
      else if segment = Path.upward then store.walk aim base.dropLast rest
      else if aim = .newFile && onlySlashes rest then .failed .isDirectory
      else if maxName < segment.length then .failed .nameTooLong
      else
        let location := base ++ [segment]
        match store.entry? location with
        | none => if rest.isEmpty then .absent location else .failed .noEntry
        | some .directory => store.walk aim location rest
        | some (.link target) =>
            if rest.isEmpty && aim = .itself then .found location (.link target)
            else .link base target rest
        | some entry =>
            if rest.isEmpty then .found location entry else .failed .notDirectory

/-- The segments to walk for a path.  A slash at the end leaves an empty segment behind,
which asks for a directory. -/
def segmentsOf (path : Path) : List Name :=
  let names := (Path.segments path).filter fun segment => !segment.isEmpty
  if path.getLast? = some Path.slash then names ++ [[]] else names

/-- Where a walk that starts in the directory `base` ends when up to `links` links are
followed. -/
def walkLinks (store : Store) (aim : Aim) (links : Nat) (base : Location)
    (segments : List Name) : Walk :=
  match store.walk aim base segments with
  | .link directory target rest =>
      match links with
      | 0 => .failed .tooManyLinks
      | links + 1 =>
          if target.isEmpty then .failed .noEntry
          else
            store.walkLinks aim links (if Path.isAbsolute target then [] else directory)
              (segmentsOf target ++ rest)
  | stop => stop

/-- Where the walk of a path ends. -/
def walkPath (store : Store) (aim : Aim) (path : Path) : Walk :=
  if path.contains 0 then .failed .nullInPath
  else if path.isEmpty then .failed .noEntry
  else if maxPath < path.length then .failed .nameTooLong
  else
    store.walkLinks aim maxLinks (if Path.isAbsolute path then [] else store.current)
      (segmentsOf path)

/-- The location and entry that a path names, links followed. -/
def find (store : Store) (path : Path) : Except OsError (Location × Entry) :=
  match store.walkPath .target path with
  | .found location entry => .ok (location, entry)
  | .absent _ | .link .. => .error .noEntry
  | .failed error => .error error

/-- The entry that a path names, links followed. -/
def status (store : Store) (path : Path) : Except OsError Entry :=
  (store.find path).map (·.2)

/-- Whether a path names a directory, links followed. -/
def isDirectory (store : Store) (path : Path) : Bool :=
  match store.status path with
  | .ok .directory => true
  | _ => false

/-- The store with an entry put at a location, in place of what stood there. -/
def put (store : Store) (location : Location) (entry : Entry) : Store :=
  if (store.entries.lookup location).isSome then
    { store with
      entries := store.entries.map fun (place, old) =>
        if place = location then (place, entry) else (place, old) }
  else { store with entries := store.entries ++ [(location, entry)] }

/-- The store without the entry at a location and without all that stands below it. -/
def remove (store : Store) (location : Location) : Store :=
  { store with entries := store.entries.filter fun (place, _) => !location.isPrefixOf place }

/-- The entry with a name in a directory that is open, links not followed. -/
def statusIn (store : Store) (directory : Location) (name : Name) : Except OsError Entry :=
  if !store.allows directory .search then .error .denied
  else
    match store.entry? (directory ++ [name]) with
    | some entry => .ok entry
    | none => .error .noEntry

/-- The names in a directory, in the order of the store. -/
def namesIn (store : Store) (directory : Location) : List Name :=
  store.entries.filterMap fun (place, _) =>
    match place.getLast? with
    | some name => if place.dropLast = directory then some name else none
    | none => none

/-- The location and the names of the directory that a path names. -/
def list (store : Store) (path : Path) : Except OsError (Location × List Name) := do
  let (location, entry) ← store.find path
  match entry with
  | .directory =>
      if store.allows location .read then return (location, store.namesIn location)
      else throw .denied
  | _ => throw .notDirectory

/-- Makes the directories on the way to a location, and one at it.  What already stands
there stays as it is. -/
def makeDirectories (store : Store) (location : Location) : Store :=
  ((List.range (location.length + 1)).map location.take).foldl
    (fun store place => if (store.entry? place).isSome then store else store.put place .directory)
    store

end Store
end Conch.Files
