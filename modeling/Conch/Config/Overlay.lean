import Conch.Config.Basic
import Conch.Files.Source
import Conch.Toml.Reading

/-!
# Overlays

A user's own configuration text overrides the standard one key by key.  Keys that are not
known are ignored, but a key of the wrong type makes the whole text void.
-/

namespace Conch

/-- The keys that a user has set. -/
structure Overlay where
  level : Option LevelSetting
  startDirectory : Option String
  logEnabled : Option Bool
  logLevel : Option String
  logFile : Option String
  deriving DecidableEq, Repr, Inhabited

namespace Overlay

open Toml

/-- The items of named fields.  An array gives them in order and has to have one for each;
a moment is a table without any of the names. -/
def fields? (names : List String) : Item → Option (List (Option Item))
  | .table _ members => some (names.map fun name => members.lookup name)
  | .moment => some (names.map fun _ => none)
  | .array items => if items.length < names.length then none else some (items.map some)
  | .tables all =>
      if all.length < names.length then none
      else some (all.map fun members => some (.table .header members))
  | _ => none

/-- Reads a field that may be left out; `none` if it is there and cannot be read. -/
def field? {α : Type} (read : Item → Option α) : Option Item → Option (Option α)
  | none => some none
  | some item => (read item).map some

/-- The text of an item. -/
def text? : Item → Option String
  | .text value => some value
  | _ => none

/-- The truth value of an item. -/
def boolean? : Item → Option Bool
  | .boolean value => some value
  | _ => none

/-- Whether an item is an empty array or table. -/
def isHollow : Item → Bool
  | .array items => items.isEmpty
  | .table _ members => members.isEmpty
  | _ => false

/-- The level setting of an item: its name as a text, or as the only key of a table with
nothing below it. -/
def level? : Item → Option LevelSetting
  | .text name => LevelSetting.ofName? name
  | .table _ [(name, item)] => if isHollow item then LevelSetting.ofName? name else none
  | _ => none

/-- The fields of a part of a configuration that may be left out. -/
def part? (names : List String) : Option Item → Option (List (Option Item))
  | none => some (names.map fun _ => none)
  | some item => fields? names item

/-- The overlay of a configuration table. -/
def ofMembers? (members : Members) : Option Overlay := do
  let settings ← part? ["permission_level", "start_dir"] (members.lookup "settings")
  let logging ← part? ["enabled", "level", "file"] (members.lookup "logging")
  let itemAt (items : List (Option Item)) (index : Nat) : Option Item := items[index]?.join
  let level ← field? level? (itemAt settings 0)
  let startDirectory ← field? text? (itemAt settings 1)
  let logEnabled ← field? boolean? (itemAt logging 0)
  let logLevel ← field? text? (itemAt logging 1)
  let logFile ← field? text? (itemAt logging 2)
  return ⟨level, startDirectory, logEnabled, logLevel, logFile⟩

/-- The overlay of a configuration text. -/
def read? (text : String) : Option Overlay :=
  (Toml.read? text).bind ofMembers?

end Overlay

namespace Config

/-- A configuration with the keys of an overlay. -/
def override (config : Config) (overlay : Overlay) : Config :=
  { level := overlay.level.getD config.level
    startDirectory := overlay.startDirectory.getD config.startDirectory
    logEnabled := overlay.logEnabled.getD config.logEnabled
    logLevel := overlay.logLevel.getD config.logLevel
    logFile := overlay.logFile.getD config.logFile }

/-- The path of a user's configuration text below the home directory. -/
def overlayPath : String := ".config/nexshell/config.toml"

/-- The text of a file, if it can be read and is a text. -/
def fileText? (files : Files.Store) (path : Path) : Option String :=
  match files.find path with
  | .ok (location, .file bytes) =>
      if files.allows location .read then (Text.Utf8.decode? bytes).map String.ofList else none
  | _ => none

/-- The text of a user's own configuration. -/
def overlayText? (host : Host.Facts) (files : Files.Store) : Option String :=
  match host.lookup? "HOME" with
  | none => none
  | some home =>
      fileText? files (Path.join (Path.ofText home) (Path.ofText overlayPath))

/-- The configuration of a user, and whether a text of his own was void. -/
def load (host : Host.Facts) (files : Files.Store) : Config × Bool :=
  match overlayText? host files with
  | none => (standard, false)
  | some text =>
      match Overlay.read? text with
      | some overlay => (standard.override overlay, false)
      | none => (standard, true)

end Config
end Conch
