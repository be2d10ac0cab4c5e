import Conch.Files.OsError
import Conch.Text.Pieces

/-!
# The host

What a machine tells about itself: its environment variables, its name and system,
its memory, its user and its network, and where it refuses its service.  The shell only
reads these facts.
-/

namespace Conch.Host

/-- Total and available memory in octets. -/
structure Memory where
  total : Nat
  free : Nat
  deriving DecidableEq, Repr, Inhabited

/-- Memory in use; never less than nothing, whatever the host reports. -/
def Memory.used (memory : Memory) : Nat :=
  memory.total - memory.free

/-- An address bound to a network interface. -/
structure Interface where
  name : String
  /-- Whether the address is of the fourth version of the protocol. -/
  isV4 : Bool
  address : String
  /-- Whether the interface loops back to the host. -/
  internal : Bool
  deriving DecidableEq, Repr, Inhabited

/-- The answer to a remote request: its status, its header fields in order, and its
body in the chunks in which it arrives. -/
structure Reply where
  status : Nat
  headers : List (String × List UInt8)
  body : List (List UInt8)
  /-- Why no more can be read behind these chunks, if that is no proper end. -/
  broken : Option String
  deriving DecidableEq, Repr, Inhabited

/-- The facts that the shell can ask for. -/
structure Facts where
  environment : List (String × String)
  hostname : String
  systemName : String
  systemRelease : String
  architecture : String
  platform : String
  /-- Seconds since the host was started. -/
  uptime : Option Nat
  cores : Nat
  processor : String
  memory : Option Memory
  userId : Option Nat
  groupId : Option Nat
  /-- The home directory on record for the user, whatever the environment says. -/
  accountHome : Option String
  interfaces : List Interface
  /-- Why no remote request can be made at all, if none can. -/
  clientFault : Option String
  /-- The reply to a request for an address; `none` if no connection comes about. -/
  request : String → Option Reply
  /-- Why the job with an id is given no worker, if it is given none. -/
  workerFault : Nat → Option Files.OsError

namespace Facts

/-- A host that tells nothing about itself. -/
def none : Facts :=
  ⟨[], "", "", "", "", "", .none, 0, "", .none, .none, .none, .none, [],
    .none, fun _ => .none, fun _ => .none⟩

/-- The value of an environment variable.  The environment consists of texts in which an
equality sign parts a name from its value, and a name is looked for at the start of such a
text: one with an equality sign in it reaches into the value. -/
def lookup? (facts : Facts) (name : String) : Option String :=
  facts.environment.findSome? fun (title, value) =>
    (Text.afterStart? (name ++ "=").toList (title ++ "=" ++ value).toList).map String.ofList

/-- The first of some environment variables that has a value other than the empty
text. -/
def firstSet? (facts : Facts) (names : List String) : Option String :=
  (names.filterMap facts.lookup?).find? fun value => !value.isEmpty

/-- The login name. -/
def username (facts : Facts) : String :=
  (facts.firstSet? ["USER", "LOGNAME", "USERNAME"]).getD "unknown"

/-- The home directory of the user. -/
def home? (facts : Facts) : Option String :=
  (facts.lookup? "HOME").or (facts.lookup? "USERPROFILE")

/-- The shell of the user. -/
def shell? (facts : Facts) : Option String :=
  facts.lookup? "SHELL"

/-- The directory for temporary files. -/
def temporaryDirectory (facts : Facts) : String :=
  (facts.lookup? "TMPDIR").getD "/tmp"

/-- A user with id zero is privileged. -/
def isPrivileged (facts : Facts) : Bool :=
  facts.userId = some 0

end Facts
end Conch.Host
