import Conch.Files.Store
import Conch.Limits

/-!
# Reading a file with a cap

An open file is a source of octets: asked for some octets from an offset on, it gives
between one and that many, and none at its end.  Its length as reported before it was
opened need not agree with what it delivers.  A capped reading takes everything that
the source delivers, provided that both the report and the delivery stay within the
cap.  The wish to cancel is looked up before every turn.
-/

namespace Conch.Files

/-- An open file. -/
structure Source where
  /-- Asked for so many octets from this offset on, what is delivered. -/
  read (offset count : Nat) : Except OsError (List UInt8)

/-- The source of a file with the given contents. -/
def Source.ofBytes (bytes : List UInt8) : Source :=
  ⟨fun offset count => .ok ((bytes.drop offset).take count)⟩

/-- The source of a device. -/
def Source.ofDevice (device : Device) : Source :=
  ⟨fun _ count =>
    match device.delivery with
    | .nothing => .ok []
    | .zeros => .ok (List.replicate count 0)
    | .failing => .error .inputOutput⟩

/-- The length that the system reports for an entry without reading it. -/
def Entry.reportedLength : Entry → Nat
  | .directory => 4096
  | .file bytes => bytes.length
  | .link target => target.length
  | .device _ => 0

/-- The source that an entry is when it is opened for reading. -/
def Entry.source (entry : Entry) : Except OsError Source :=
  match entry with
  | .directory => .error .isDirectory
  | .file bytes => .ok (Source.ofBytes bytes)
  | .device kind => .ok (Source.ofDevice kind)
  | .link _ => .error .tooManyLinks

/-- Opens the entry at a location for reading. -/
def Store.openForReading (store : Store) (location : Location) (entry : Entry) :
    Except OsError Source :=
  if store.allows location .read then entry.source else .error .denied

/-- The step of a capped reading that an error came from. -/
inductive ReadStep where
  | stat
  | opening
  | reading
  deriving DecidableEq, Repr, Inhabited

/-- The name of a step. -/
def ReadStep.name : ReadStep → String
  | .stat => "stat"
  | .opening => "open"
  | .reading => "read"

/-- Why a capped reading gives no text. -/
inductive ReadFault where
  | aborted
  | tooLarge
  | failed (step : ReadStep) (error : OsError)
  deriving DecidableEq, Repr, Inhabited

/-- The most octets asked for in one turn. -/
def chunkSize : Nat := 8192

/-- Takes octets from a source, turn by turn, until it ends or one octet more than the
cap has been taken.  `turn` counts the turns before, and `left` bounds those to come:
every turn but the last takes at least one octet. -/
def Source.drain (source : Source) (cancelled : Nat → Bool) (cap : Nat) :
    (left turn : Nat) → (taken : List UInt8) → Except ReadFault (List UInt8)
  | 0, _, taken => .ok taken
  | left + 1, turn, taken =>
      if cancelled turn then .error .aborted
      else
        let count := min chunkSize (cap + 1 - taken.length)
        if count = 0 then .ok taken
        else
          match source.read taken.length count with
          | .error error => .error (.failed .reading error)
          | .ok [] => .ok taken
          | .ok chunk => source.drain cancelled cap left (turn + 1) (taken ++ chunk)

/-- The octets of a source, refused when they are more than the cap. -/
def Source.readAll (source : Source) (cancelled : Nat → Bool) (cap : Nat) :
    Except ReadFault (List UInt8) :=
  match source.drain cancelled cap (cap + 2) 0 [] with
  | .error fault => .error fault
  | .ok taken => if cap < taken.length then .error .tooLarge else .ok taken

/-- The text of an entry that the system reports as `reported` octets long. -/
def readEntry (cancelled : Nat → Bool) (cap reported : Nat) (opened : Except OsError Source) :
    Except ReadFault (List Char) :=
  if cap < reported then .error .tooLarge
  else
    match opened with
    | .error error => .error (.failed .opening error)
    | .ok source => (source.readAll cancelled cap).map Text.Utf8.decodeLossy

/-- The text of the file that a path names, read with the cap for files. -/
def Store.readText (store : Store) (cancelled : Nat → Bool) (path : Path) :
    Except ReadFault String :=
  match store.find path with
  | .error error => .error (.failed .stat error)
  | .ok (_, .directory) => .error (.failed .reading .directoryAsFile)
  | .ok (location, entry) =>
      (readEntry cancelled Limits.fileRead entry.reportedLength
        (store.openForReading location entry)).map String.ofList

end Conch.Files
