import Conch.Builtin.Input
import Conch.Number.Decimal
import Conch.Text.Lowercase
import Conch.Text.Pieces

/-!
# `nexus`

Diagnostics of the host for privileged sessions.  Nothing here changes anything.
-/

namespace Conch.Builtin

/-- The version of the shell. -/
def version : String := "0.1.0"

/-- Octets as gigabytes with two places. -/
def gigabytes (octets : Nat) : String :=
  ((Number.Binary64.ofNat octets).div (Number.Binary64.ofNat (Nat.pow 2 30))).fixed 2 ++ " GB"

/-- The part of memory in use, in hundredths. -/
def usedPercent (memory : Host.Memory) : Number.Binary64 :=
  if memory.total = 0 then .zero
  else
    ((Number.Binary64.ofNat memory.used).div (Number.Binary64.ofNat memory.total)).mul
      (Number.Binary64.ofNat 100)

/-- The text of an uptime. -/
def uptimeText : Option Nat → String
  | some seconds =>
      toString (seconds / 3600) ++ "h " ++ toString (seconds % 3600 / 60) ++ "m " ++
        toString (seconds % 60) ++ "s"
  | none => "unknown"

/-- The text of a fact that may be missing. -/
def orMissing : Option String → String
  | some text => text
  | none => "N/A"

/-- The rows of `nexus status`. -/
def statusRows (context : Context) (host : Host.Facts) : List String :=
  ["System: " ++ host.systemName ++ " " ++ host.systemRelease,
    "Hostname: " ++ host.hostname,
    "Architecture: " ++ host.architecture,
    "Platform: " ++ host.platform,
    "Uptime: " ++ uptimeText host.uptime,
    "CPU Cores: " ++ toString host.cores] ++
  (match host.memory with
    | some memory =>
        ["Total Memory: " ++ gigabytes memory.total, "Free Memory: " ++ gigabytes memory.free]
    | none => []) ++
  ["Working Directory: " ++ Path.shown context.directory,
    "Permission Level: " ++ context.level.name]

/-- The rows of `nexus system`. -/
def systemRows (host : Host.Facts) : List String :=
  ["=== System Information ===",
    "OS: " ++ host.systemName ++ " " ++ host.systemRelease,
    "Architecture: " ++ host.architecture,
    "CPU: " ++ host.processor,
    "CPU Cores: " ++ toString host.cores] ++
  (match host.memory with
    | some memory =>
        ["Total Memory: " ++ gigabytes memory.total,
          "Used Memory: " ++ gigabytes memory.used ++ " (" ++ (usedPercent memory).fixed 1 ++
            "%)",
          "Free Memory: " ++ gigabytes memory.free]
    | none => []) ++
  ["Home Directory: " ++ orMissing host.home?,
    "Temp Directory: " ++ host.temporaryDirectory,
    "NexShell Version: " ++ version,
    "Platform: " ++ host.platform]

/-- The rows of interfaces, with a heading wherever the name changes. -/
def interfaceRows (current : Option String) : List Host.Interface → List String
  | [] => []
  | interface :: rest =>
      let heading := if current = some interface.name then [] else ["\n" ++ interface.name ++ ":"]
      let family := if interface.isV4 then "IPv4" else "IPv6"
      let scope := if interface.internal then "internal" else "external"
      heading ++ ("  " ++ family ++ ": " ++ interface.address ++ " (" ++ scope ++ ")") ::
        interfaceRows (some interface.name) rest

/-- The rows of `nexus network`. -/
def networkRows (host : Host.Facts) : List String :=
  "=== Network Interfaces ===" :: interfaceRows none host.interfaces

/-- The rows of `nexus users`. -/
def userRows (host : Host.Facts) : List String :=
  ["=== User Information ===",
    "Username: " ++ host.username,
    "UID: " ++ orMissing (host.userId.map toString),
    "GID: " ++ orMissing (host.groupId.map toString),
    "Home: " ++ orMissing host.home?,
    "Shell: " ++ orMissing host.shell?]

/-- The environment variables that are shown without a filter. -/
def shownVariables : List String :=
  ["HOME", "LANG", "PATH", "PWD", "SHELL", "TEMP", "TMP", "USER"]

/-- Whether an environment variable is shown: with a filter, whether its name contains
it in any case. -/
def showsVariable (filter : Option String) (name : String) : Bool :=
  match filter with
  | some filter => Text.occursIn (Text.lowercase filter.toList) (Text.lowercase name.toList)
  | none => shownVariables.contains name

/-- The outcome of `nexus env`. -/
def environmentOutcome (filter : Option String) (host : Host.Facts) : Outcome :=
  let shown := host.environment.filter fun (name, _) => showsVariable filter name
  let rows := (shown.map fun (name, value) => name ++ "=" ++ value).mergeSort
    fun a b => decide (a ≤ b)
  if rows.isEmpty then
    Outcome.failure 1 "nexus env: No matching environment variables found"
  else Outcome.success ("\n".intercalate rows)

/-- The rows of `nexus config`. -/
def configRows (context : Context) : List String :=
  let kilobytes (octets : Nat) := toString (octets / 1024) ++ " KB"
  ["=== NexShell Configuration ===",
    "Working Directory: " ++ Path.shown context.directory,
    "Permission Level: " ++ context.level.name,
    "Max File Read: " ++ kilobytes Limits.fileRead,
    "Max Fetch Size: " ++ kilobytes Limits.fetchBody,
    "Max File Write: " ++ kilobytes Limits.fileWrite,
    "Max Pipeline Stages: " ++ toString Limits.stages,
    "Max Retained Jobs: " ++ toString Limits.finishedJobs,
    "Max Input Length: " ++ toString Limits.inputChars ++ " characters",
    "Path Traversal Protection: Enabled",
    "IPC Validation: Enabled"]

/-- The subcommands with their descriptions. -/
inductive Subcommand where
  | status
  | system
  | network
  | users
  | env
  | clear
  | version
  | config
  deriving DecidableEq, Repr

namespace Subcommand

/-- The subcommands in the order of the overview. -/
def all : List Subcommand :=
  [.status, .system, .network, .users, .env, .clear, .version, .config]

/-- The name of a subcommand. -/
def name : Subcommand → String
  | .status => "status"
  | .system => "system"
  | .network => "network"
  | .users => "users"
  | .env => "env"
  | .clear => "clear"
  | .version => "version"
  | .config => "config"

/-- The description of a subcommand. -/
def description : Subcommand → String
  | .status => "Show system status and information"
  | .system => "Display detailed system information"
  | .network => "Show network interface information"
  | .users => "Display user information"
  | .env => "Show environment variables (optionally filtered)"
  | .clear => "Clear terminal output"
  | .version => "Show NexShell version information"
  | .config => "Display NexShell configuration"

/-- The outcome of a subcommand. -/
def run (subcommand : Subcommand) (args : List String) (context : Context)
    (host : Host.Facts) : Outcome :=
  let report (rows : List String) := Outcome.success ("\n".intercalate rows)
  match subcommand with
  | .status => report (statusRows context host)
  | .system => report (systemRows host)
  | .network => report (networkRows host)
  | .users => report (userRows host)
  | .env => environmentOutcome args.head? host
  | .clear => report ["Terminal cleared (use Ctrl+L or refresh to clear UI)"]
  | .version =>
      report ["NexShell v" ++ Builtin.version,
        "Platform: " ++ host.platform ++ " " ++ host.architecture]
  | .config => report (configRows context)

end Subcommand

/-- The overview of the subcommands. -/
def overview : String :=
  "\n".intercalate
    (["Nexus Admin Commands:", Text.repeated 50 "="] ++
      (Subcommand.all.map fun subcommand =>
        "  nexus " ++ Text.padRight 12 subcommand.name ++ " " ++ subcommand.description) ++
      ["", "Usage: nexus <subcommand> [args...]",
        "Example: nexus status, nexus system, nexus network"])

/-- The outcome of `nexus`. -/
def nexus (args : List String) (context : Context) (machine : Machine) : Outcome :=
  if !context.level.isAdmin then
    Outcome.failure 1 "nexus: admin permission required to execute nexus operations."
  else
    match args with
    | [] => Outcome.success overview
    | word :: rest =>
        let lowered := Text.asciiLower word
        match Subcommand.all.find? fun subcommand => subcommand.name = lowered with
        | some subcommand => subcommand.run rest context machine.host
        | none =>
            Outcome.failure 1 ("nexus: unknown subcommand '" ++ lowered ++
              "'. Use 'nexus' to see available commands.")

end Conch.Builtin
