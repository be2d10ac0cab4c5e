import Conch.Config.Expansion
import Conch.Files.Writing
import Conch.Outcome
import Conch.Text.Lines

/-!
# The log

Each input line that is run leaves one line in the log, whatever line ends it holds itself.
The log file is opened when the program starts; without it nothing is logged.  Of the log file
no more is said than that it is there: what a logger puts before a message is its own affair.
-/

namespace Conch.Log

/-- The most characters of an input line that are logged. -/
def maxInput : Nat := 200

/-- A text on one line: without the blanks at its end, and with its line feeds replaced. -/
def oneLine (s : List Char) : List Char :=
  Text.joinWith [';', ' '] (Text.splitBy (· = '\n') (Text.trimEnd s))

/-- The message that is logged for an input line: exit code, milliseconds, line and error
text. -/
def message (input : String) (outcome : Outcome) (microseconds : Nat) : String :=
  "exit=" ++ toString outcome.exitCode ++ "\t" ++ toString (microseconds / 1000) ++ "ms\t" ++
    String.ofList ((oneLine input.toList).take maxInput) ++ "\t" ++
    String.ofList (oneLine outcome.stderr.toList)

/-- The level of these messages. -/
def messageLevel : LogLevel := .info

/-- The messages that a log with a level keeps of an input line. -/
def messagesOf (filter : LogLevel) (input : String) (outcome : Outcome) (microseconds : Nat) :
    List String :=
  if filter.keeps messageLevel then [message input outcome microseconds] else []

/-- The starts of a list of path segments, shortest first. -/
def starts (segments : List Files.Name) : List (List Files.Name) :=
  (List.range segments.length).map fun i => segments.take (i + 1)

/-- Makes the directory of one more segment; once it may not be made or something else stands
in the way, be it a link that leads nowhere, no more. -/
def makeDirectory (isAbsolute : Bool) (state : Files.Store × Bool)
    (segments : List Files.Name) : Files.Store × Bool :=
  let (files, isClear) := state
  if !isClear then state
  else
    let path := (if isAbsolute then [Path.slash] else []) ++ [Path.slash].intercalate segments
    match files.walkPath .itself path with
    | .absent location =>
        if files.allows location.dropLast .write then (files.put location .directory, true)
        else (files, false)
    | _ => (files, files.isDirectory path)

/-- Makes the directories on the way to a path, as far as possible. -/
def makeParents (files : Files.Store) (path : Path) : Files.Store :=
  match Path.parent? path with
  | none => files
  | some parent =>
      if Files.maxPath < parent.length then files
      else
        ((starts (Files.Store.segmentsOf parent)).foldl
          (makeDirectory (Path.isAbsolute parent)) (files, true)).1

/-- Opens the log file of a configuration, if there is one to open: the level of the log, which
keeps nothing if there is not, and the files. -/
def opened (config : Config) (host : Host.Facts) (files : Files.Store) :
    LogLevel × Files.Store :=
  match config.logEnabled, config.logPath? host with
  | true, some path =>
      let path := Path.ofText path
      let files := makeParents files path
      match files.openForWriting path true with
      | .ok opened => (config.logFilter, opened.store)
      | .error _ => (.off, files)
  | _, _ => (.off, files)

end Conch.Log
