import Conch.Files.Store

/-!
# Writing a file

Opening a path for writing makes the file if its directory exists and may be written,
and empties it unless the new octets are to go to its end.  A directory cannot be opened,
nor a file that may not be written.
-/

namespace Conch.Files

/-- A file opened for writing: where it is, and the store after opening it. -/
structure Opened where
  location : Location
  store : Store

/-- Opens a path for writing. -/
def Store.openForWriting (store : Store) (path : Path) (append : Bool) :
    Except OsError Opened :=
  match store.walkPath .newFile path with
  | .found _ .directory => .error .isDirectory
  | .found location (.file bytes) =>
      if store.allows location .write then
        .ok ⟨location, store.put location (.file (if append then bytes else []))⟩
      else .error .denied
  | .found location (.device _) =>
      if store.allows location .write then .ok ⟨location, store⟩ else .error .denied
  | .found _ (.link _) | .link .. => .error .tooManyLinks
  | .absent location =>
      if store.allows location.dropLast .write then
        .ok ⟨location, store.put location (.file [])⟩
      else .error .denied
  | .failed error => .error error

/-- Writes octets to the end of an opened file. -/
def Opened.write (opened : Opened) (bytes : List UInt8) : Except OsError Store :=
  match opened.store.entry? opened.location with
  | some (.file old) => .ok (opened.store.put opened.location (.file (old ++ bytes)))
  | some (.device kind) =>
      if kind.full && !bytes.isEmpty then .error .noSpace else .ok opened.store
  | _ => .ok opened.store

end Conch.Files
