import Conch.Files.Source
import Conch.Path.Guard
import Conch.Outcome

/-!
# Faults

Everything that a command can refuse or fail for, as causes.  The wording is given
once, in `Fault.message`, and the exit code follows from the cause.
-/

namespace Conch

/-- What is wrong with the payload of a request. -/
inductive PayloadFault where
  | notObject
  | inputMissing
  | inputNotText
  | inputTooLong
  deriving DecidableEq, Repr, Inhabited

/-- The wording of a payload fault. -/
def PayloadFault.message : PayloadFault → String
  | .notObject => "must be an object"
  | .inputMissing => "missing \"input\" field"
  | .inputNotText => "\"input\" must be a string"
  | .inputTooLong => "\"input\" exceeds maximum length"

/-- Why something is refused or fails. -/
inductive Fault where
  /-- A request carries a payload of the wrong form. -/
  | payload (cause : PayloadFault)
  /-- A path tries to climb. -/
  | traversal (cause : Path.Traversal)
  /-- An address has a scheme that is not fetched. -/
  | scheme (name : String)
  /-- A text is no address. -/
  | address
  | unknownCommand (name : String)
  /-- Something has more octets than its limit. -/
  | tooLarge (what : String) (limit : Nat)
  | aborted
  /-- An operation on a file fails. -/
  | file (operation : String) (cause : Files.OsError)
  /-- No connection to an address comes about. -/
  | unreachable (url : String)
  /-- The means for remote requests cannot be had; the report says why. -/
  | client (report : String)
  /-- The body of a reply breaks off; the report says why. -/
  | brokenReply (report : String)
  /-- A search pattern is not well formed; the report says where and why. -/
  | pattern (report : String)
  /-- An operator that lines cannot have. -/
  | operator (spelling : String)
  deriving DecidableEq, Repr, Inhabited

namespace Fault

/-- The wording of a fault. -/
def message : Fault → String
  | .payload cause => "Invalid payload: " ++ cause.message
  | .traversal cause => "Path traversal detected: " ++ cause.message
  | .scheme name => "Unsafe protocol: " ++ name ++ ":. Only http: and https: are allowed"
  | .address => "Invalid URL format"
  | .unknownCommand name => "Command not found: " ++ name
  | .tooLarge what limit => what ++ " exceeds " ++ toString limit ++ " bytes limit"
  | .aborted => "Operation aborted"
  | .file operation cause => operation ++ ": " ++ cause.message
  | .unreachable url => "request failed: error sending request for url (" ++ url ++ ")"
  | .client report => "request failed: " ++ report
  | .brokenReply report => "read response: " ++ report
  | .pattern report => "invalid pattern: " ++ report
  | .operator spelling => "unsupported operator '" ++ spelling ++ "'"

/-- The exit code of a fault: 127 for a command that is not known, else 1. -/
def exitCode : Fault → Int
  | .unknownCommand _ => 127
  | _ => 1

/-- The outcome of a fault in the command `name`. -/
def outcome (name : String) (fault : Fault) : Outcome :=
  Outcome.failure fault.exitCode (name ++ ": " ++ fault.message)

/-- The fault of a capped reading of the file that the user calls `target`. -/
def ofReading (target : String) : Files.ReadFault → Fault
  | .aborted => .aborted
  | .tooLarge => .tooLarge ("File " ++ target) Limits.fileRead
  | .failed step error => .file step.name error

end Fault
end Conch
