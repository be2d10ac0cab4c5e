import Conch.Fault
import Conch.Json.Value

/-!
# Payloads

The payload of a request to execute a line: an object with the line as its member
`input`, which is limited in characters, not in octets.
-/

namespace Conch.Request

/-- The name of the member that holds the line. -/
def inputMember : String := "input"

/-- The line that a payload asks for. -/
def inputOf (payload : Json) : Except PayloadFault String :=
  match payload with
  | .object members =>
      match members.lookup inputMember with
      | none => .error .inputMissing
      | some (.string input) =>
          if Limits.inputChars < input.length then .error .inputTooLong else .ok input
      | some _ => .error .inputNotText
  | _ => .error .notObject

end Conch.Request
