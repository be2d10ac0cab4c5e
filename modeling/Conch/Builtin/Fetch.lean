import Conch.Builtin.Input
import Conch.Url.Reading

/-!
# `fetch`

A remote address is requested; anything else is the name of a file.  Which of the two a
target is, is decided by its look alone.
-/

namespace Conch.Builtin

/-- Whether a target looks like an address: it has `://` somewhere, or it starts with one
of the two schemes that are fetched. -/
def looksRemote (target : String) : Bool :=
  let lowered := target.toList.map Text.asciiLowerChar
  Text.occursIn "://".toList target.toList ||
    (Text.afterStart? "http:".toList lowered).isSome ||
    (Text.afterStart? "https:".toList lowered).isSome

/-- The address that a target names, provided that it may be fetched. -/
def fetchable (target : String) : Except Fault Url :=
  match Url.read target with
  | .web url => .ok url
  | .foreign scheme => .error (.scheme scheme)
  | .malformed => .error .address

/-- The octets of a body, chunk by chunk, refused as soon as they are too many.  An empty
chunk is the end, and so is the end of the chunks unless the body breaks off there.  `turn`
counts the turns before; the wish to cancel is looked up before every turn. -/
def takeBody (cancelled : Nat → Bool) (broken : Option String) (turn : Nat)
    (taken : List UInt8) : List (List UInt8) → Except Fault (List UInt8)
  | [] =>
      if cancelled turn then .error .aborted
      else
        match broken with
        | some report => .error (.brokenReply report)
        | none => .ok taken
  | chunk :: rest =>
      if cancelled turn then .error .aborted
      else if chunk.isEmpty then .ok taken
      else if Limits.fetchBody < taken.length + chunk.length then
        .error (.tooLarge "Response body" Limits.fetchBody)
      else takeBody cancelled broken (turn + 1) (taken ++ chunk) rest

/-- The line of a header field. -/
def headerRow (field : String × List UInt8) : String :=
  field.1 ++ ": " ++ String.ofList (Text.Utf8.decodeLossy field.2)

/-- The text of a reply: its status, its header fields, a line of hyphens and its body. -/
def replyText (reply : Host.Reply) (body : List UInt8) : String :=
  "Status: " ++ toString reply.status ++ "\n" ++
    "\n".intercalate (reply.headers.map headerRow) ++ "\n---\n" ++
    String.ofList (Text.Utf8.decodeLossy body)

/-- The text of the reply to a request for an address.  An error shows the address without
the credentials in it. -/
def fetchRemote (url : Url) (context : Context) (machine : Machine) : Except Fault String :=
  match machine.host.clientFault with
  | some report => .error (.client report)
  | none => do
      context.check machine
      match machine.host.request url.text with
      | none => throw (.unreachable url.withoutCredentials.text)
      | some reply =>
          context.check machine
          let body ← takeBody (fun _ => context.isCancelled machine) reply.broken 0 [] reply.body
          return replyText reply body

/-- The text that a target leads to. -/
def fetchText (target : String) (context : Context) (machine : Machine) :
    Except Fault String := do
  if looksRemote target then fetchRemote (← fetchable target) context machine
  else context.readText machine target

/-- The outcome of `fetch`. -/
def fetch (args : List String) (context : Context) (machine : Machine) : Outcome :=
  match args with
  | [] => Outcome.failure 1 "fetch: target required"
  | target :: _ => outcomeOf "fetch" (fetchText target context machine)

end Conch.Builtin
