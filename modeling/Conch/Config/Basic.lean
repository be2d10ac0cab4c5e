import Conch.Host.Facts
import Conch.Permission
import Conch.Toml.Quoted

/-!
# Configuration

What a user can set: the permission level and the directory of a session, and the log.
-/

namespace Conch

/-- The permission level as set: fixed, or found out from the host. -/
inductive LevelSetting where
  | auto
  | admin
  | standard
  deriving DecidableEq, Repr, Inhabited

namespace LevelSetting

/-- The name of a setting. -/
def name : LevelSetting → String
  | .auto => "auto"
  | .admin => "admin"
  | .standard => "standard"

/-- The setting with a name. -/
def ofName? (name : String) : Option LevelSetting :=
  [auto, admin, standard].find? fun setting => setting.name = name

/-- The level that a setting means on a host. -/
def resolve (setting : LevelSetting) (host : Host.Facts) : Permission :=
  match setting with
  | .admin => .admin
  | .standard => .standard
  | .auto => if host.isPrivileged then .admin else .standard

end LevelSetting

/-- The least weight of the messages that are logged. -/
inductive LogLevel where
  | off
  | error
  | warn
  | info
  | debug
  | trace
  deriving DecidableEq, Repr, Inhabited

namespace LogLevel

/-- The name of a level. -/
def name : LogLevel → String
  | .off => "OFF"
  | .error => "ERROR"
  | .warn => "WARN"
  | .info => "INFO"
  | .debug => "DEBUG"
  | .trace => "TRACE"

/-- The levels, the one that lets the fewest messages through first. -/
def all : List LogLevel :=
  [off, error, warn, info, debug, trace]

/-- The level with a name, in any case of its ASCII letters. -/
def ofName? (name : String) : Option LogLevel :=
  all.find? fun level => level.name = Text.asciiUpper name

/-- Whether a log with a level keeps the messages of another. -/
def keeps (filter level : LogLevel) : Bool :=
  decide (all.idxOf level ≤ all.idxOf filter)

end LogLevel

/-- A configuration. -/
structure Config where
  level : LevelSetting
  /-- The directory of a new session as written; blank for the current one. -/
  startDirectory : String
  logEnabled : Bool
  /-- The log level as written. -/
  logLevel : String
  /-- The log file as written; blank for none. -/
  logFile : String
  deriving DecidableEq, Repr, Inhabited

namespace Config

/-- The configuration of a user who has set nothing. -/
def standard : Config :=
  ⟨.auto, "", true, "info", "~/.local/share/nexshell/nexshell.log"⟩

/-- The log level that a configuration means; an unknown name means `info`. -/
def logFilter (config : Config) : LogLevel :=
  (LogLevel.ofName? config.logLevel).getD .info

/-- The text of a configuration. -/
def render (config : Config) : String :=
  "[settings]\npermission_level = " ++ Toml.quote config.level.name ++
    "\nstart_dir = " ++ Toml.quote config.startDirectory ++
    "\n\n[logging]\nenabled = " ++ (if config.logEnabled then "true" else "false") ++
    "\nlevel = " ++ Toml.quote config.logLevel ++
    "\nfile = " ++ Toml.quote config.logFile ++ "\n"

end Config
end Conch
