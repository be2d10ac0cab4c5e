import Conch.Builtin.Standard
import Conch.Config.Expansion
import Conch.Session.Basic

/-!
# Opening a session

A session starts in the configured directory if there is one, else in the current
directory of the machine.
-/

namespace Conch

/-- The path of a location. -/
def Files.Location.path (location : Files.Location) : Path :=
  Path.slash :: [Path.slash].intercalate location

/-- The directory in which a session of a configuration starts. -/
def Config.startDirectoryOn (config : Config) (machine : Machine) : Path :=
  let current := machine.files.current.path
  match config.startPath? machine.host with
  | none => current
  | some path =>
      let path := Path.join current (Path.ofText path)
      if machine.files.isDirectory path then path else current

/-- A session with the standard commands. -/
def Session.opened (config : Config) (machine : Machine) : Session :=
  Session.start Builtin.registry (config.level.resolve machine.host)
    (config.startDirectoryOn machine) machine

end Conch
