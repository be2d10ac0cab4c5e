import Conch.Request.Payload
import Conch.Request.Reading
import Conch.Session.Basic

/-!
# Answers

What a session answers to requests.  Every request has an answer; what is wrong with a
request is told in an outcome.
-/

namespace Conch

/-- The members of an outcome. -/
def Outcome.toJson (outcome : Outcome) : Json :=
  .object
    [("exitCode", Json.ofInt outcome.exitCode),
      ("stderr", .string outcome.stderr),
      ("stdout", .string outcome.stdout)]

/-- A number as a value, or null. -/
def Json.ofNat? : Option Nat → Json
  | some n => .number (.natural n)
  | none => .null

/-- The members of a job record. -/
def Job.Record.toJson (record : Job.Record) : Json :=
  .object
    [("command", .string record.command),
      ("endedAt", Json.ofNat? record.endedAt),
      ("exitCode", (record.exitCode.map Json.ofInt).getD .null),
      ("id", .number (.natural record.id)),
      ("startedAt", .number (.natural record.startedAt)),
      ("status", .string record.status.name),
      ("stderr", Json.ofText? record.stderr),
      ("stdout", Json.ofText? record.stdout)]

namespace Request

/-- The channel of the requests to run a line. -/
def executeChannel : String := "nexshell:executeCommand"

/-- The line that the text of a request asks to run, if it asks for one. -/
def lineOf? (text : String) : Option String :=
  match read text with
  | .ok request =>
      if request.channel = executeChannel then (inputOf request.payload).toOption else none
  | .error _ => none

end Request

namespace Session

/-- The outcome of a request that is refused. -/
def requestRefusal (detail : String) : Outcome :=
  Outcome.failure 1 ("IPC error: " ++ detail)

/-- Takes the line that a payload asks for. -/
def executePayload (session : Session) (payload : Json) : Outcome × Session :=
  match Request.inputOf payload with
  | .ok input => session.execute input
  | .error cause => (requestRefusal (Fault.payload cause).message, session)

/-- What a session tells about itself and its host. -/
def hostInfo (session : Session) : Json :=
  .object
    [("cwd", .string (Path.shown session.directory)),
      ("hostname", .string session.machine.host.hostname),
      ("permissionLevel", .string session.level.name)]

/-- The tracked jobs of a session. -/
def listJobs (session : Session) : Json :=
  .array (session.machine.jobs.records.map Job.Record.toJson)

/-- Answers a request. -/
def answerRequest (session : Session) (request : Request) : Json × Session :=
  if request.channel = Request.executeChannel then
    let (outcome, session) := session.executePayload request.payload
    (outcome.toJson, session)
  else if request.channel = "nexshell:getHostInfo" then (session.hostInfo, session)
  else if request.channel = "nexshell:listJobs" then (session.listJobs, session)
  else
    ((requestRefusal ("unknown channel '" ++ request.channel ++ "'")).toJson, session)

/-- Answers the text of a request. -/
def answer (session : Session) (line : String) : Json × Session :=
  match Request.read line with
  | .ok request => session.answerRequest request
  | .error problem => ((requestRefusal ("malformed request: " ++ problem)).toJson, session)

end Session
end Conch
