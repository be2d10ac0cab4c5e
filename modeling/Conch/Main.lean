import Conch.Host.System
import Conch.Program.Invocation

/-!
# The command line

Gathers what the program works on, lets it run, and puts down what it leaves behind.  The
files of a run are those below the current directory, below the directory in which sessions
start, and in the directory of the configuration; no more is seen of the file system, and
no remote address is reached.  Paths that are no texts are not seen, and nothing is known of
what the system denies before it does.
-/

namespace Conch.Main

/-- The text of a file; empty if it cannot be read. -/
def textOf (path : String) : IO String := do
  match ← (IO.FS.readBinFile path).toBaseIO with
  | .ok bytes => return String.ofList (Text.Utf8.decodeLossy bytes.toList)
  | .error _ => return ""

/-- The octets of a file; none if it cannot be read. -/
def octetsOf (path : String) : IO (List UInt8) := do
  match ← (IO.FS.readBinFile path).toBaseIO with
  | .ok bytes => return bytes.toList
  | .error _ => return []

/-- The host that the program runs on. -/
def hostFacts : IO Host.Facts := do
  let texts : Host.SystemTexts :=
    { environment := ← octetsOf "/proc/self/environ"
      hostname := ← textOf "/proc/sys/kernel/hostname"
      systemName := ← textOf "/proc/sys/kernel/ostype"
      systemRelease := ← textOf "/proc/sys/kernel/osrelease"
      architecture := ← textOf "/proc/sys/kernel/arch"
      uptime := ← textOf "/proc/uptime"
      processors := ← textOf "/proc/cpuinfo"
      memory := ← textOf "/proc/meminfo"
      process := ← textOf "/proc/self/status"
      accounts := ← textOf "/etc/passwd" }
  return texts.facts

/-- The location that a path names. -/
def locationOf (path : String) : Files.Location :=
  (Files.Store.segmentsOf (Path.ofText path)).filter fun segment =>
    segment ≠ [] && segment ≠ Path.here

/-- Adds a directory and everything below it to a store.  Links are not followed. -/
partial def addTree (files : Files.Store) (path : String) : IO Files.Store := do
  let some directory := (← (IO.FS.realPath path).toBaseIO).toOption | return files
  let some items := (← directory.readDir.toBaseIO).toOption | return files
  let mut files := files.makeDirectories (locationOf path)
  for item in items do
    let place := path ++ "/" ++ item.fileName
    match (← item.path.symlinkMetadata.toBaseIO).toOption with
    | none => pure ()
    | some data =>
        match data.type with
        | .dir => files ← addTree files place
        | .file => files := files.put (locationOf place) (.file (← octetsOf place))
        | .symlink =>
            let target := (← (IO.FS.realPath item.path).toBaseIO).toOption
            files :=
              files.put (locationOf place) (.link (Path.ofText ((target.map toString).getD place)))
        | .other => pure ()
  return files

/-- The machine that the program runs on, with the files below some directories. -/
def machineWith (host : Host.Facts) (directories : List String) : IO Machine := do
  let current ← IO.currentDir
  let clock ← IO.monoMsNow
  let mut files : Files.Store := { entries := [], current := locationOf current.toString }
  for directory in current.toString :: directories do
    files ← addTree files directory
  return { files, jobs := .empty, fired := [], clock, host }

/-- Puts down the directories and files that a store has and another has not. -/
def putDown (before after : Files.Store) : IO Unit := do
  for (location, entry) in after.entries do
    if before.entry? location ≠ some entry then
      let path := Path.shown location.path
      match entry with
      | .directory => IO.FS.createDirAll path
      | .file bytes => IO.FS.writeBinFile path (ByteArray.mk bytes.toArray)
      | _ => pure ()

/-- Answers requests as they come, until there are no more. -/
partial def serve (state : Program.State) (input output : IO.FS.Stream) : IO Unit := do
  let some line := (← input.getLine.toBaseIO).toOption | return
  if line.isEmpty then return
  match Program.inputLines (Text.Utf8.encode line.toList) with
  | [bytes] =>
      match Program.serveLine? .eager { state with answers := [] } bytes with
      | none => return
      | some next =>
          putDown state.session.machine.files next.session.machine.files
          output.putStr (String.join (next.answers.map Program.printed))
          output.flush
          serve next input output
  | _ => serve state input output

end Conch.Main

open Conch in
/-- Runs the program on the machine it finds itself on. -/
def main (arguments : List String) : IO UInt32 := do
  let host ← Main.hostFacts
  let home := (host.home?.map (· ++ "/.config/nexshell")).toList
  let config := (Program.configure (← Main.machineWith host home)).1
  let machine ← Main.machineWith host (home ++ (config.startPath? host).toList)
  if Program.Task.ofArguments arguments = .serve then
    let (config, complaint) := Program.configure machine
    IO.eprint complaint
    let state := Program.start config machine
    Main.putDown machine.files state.session.machine.files
    Main.serve state (← IO.getStdin) (← IO.getStdout)
    return 0
  else
    let result := Program.run .eager arguments [] machine
    Main.putDown machine.files result.machine.files
    IO.print result.stdout
    IO.eprint result.stderr
    return (UInt32.ofNat result.exitCode.toNat)
