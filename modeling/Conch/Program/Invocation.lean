import Conch.Config.Overlay
import Conch.Log
import Conch.Request.Answer
import Conch.Session.Opening
import Conch.Session.Settling

/-!
# The program

What the program does with its arguments and its input: it prints the configuration, runs
one line, explains itself, or answers requests line by line until its input ends.  How far the
workers of jobs get between two answers is not for the program to decide, and it ends without
waiting for them.
-/

namespace Conch.Program

/-- What the program is asked to do. -/
inductive Task where
  | serve
  | showConfig
  | runLine (line : String)
  | help
  /-- The line to run is missing. -/
  | lineMissing
  | unknown (argument : String)
  deriving DecidableEq, Repr

/-- The task that arguments ask for. -/
def Task.ofArguments : List String → Task
  | [] => .serve
  | first :: rest =>
      if first = "--dump-config" then .showConfig
      else if first = "-c" then
        match rest with
        | line :: _ => .runLine line
        | [] => .lineMissing
      else if first = "-h" || first = "--help" then .help
      else .unknown first

/-- The name under which the program reports errors. -/
def name : String := "nexshell"

/-- How the program is used. -/
def usage : String :=
  "usage: nexshell [--dump-config | -c <command>]\n\n" ++
    "With no arguments, reads one JSON request per line on stdin and writes one\n" ++
    "JSON response per line on stdout."

/-- What a run of the program leaves behind. -/
structure Result where
  stdout : String
  stderr : String
  exitCode : Int
  /-- The messages about the lines that have been run, as they are handed to the log. -/
  logged : List String
  machine : Machine

/-- What a run of the program leaves open.  The lines that are answered count from zero. -/
structure Course where
  /-- The jobs whose workers go on when the line with a number has been answered, in order. -/
  schedule : Nat → Session → List Nat
  /-- The microseconds that running the line with a number takes. -/
  duration : Nat → Nat

/-- The course in which every worker has ended before the next line is looked at, and nothing
takes any time. -/
def Course.eager : Course :=
  ⟨fun _ session => session.schedule fun _ => false, fun _ => 0⟩

/-- A run under way. -/
structure State where
  session : Session
  /-- The level of the log. -/
  filter : LogLevel
  /-- The answers so far, last first. -/
  answers : List String
  /-- The messages logged so far, last first. -/
  logged : List String

/-- The lines of an input, each without its line end.  What follows the last line feed is a
line unless it is empty. -/
def inputLines (bytes : List UInt8) : List (List UInt8) :=
  let rec go (line : List UInt8) : List UInt8 → List (List UInt8)
    | [] => if line.isEmpty then [] else [line.reverse]
    | b :: rest =>
        if b = 10 then
          (match line with
            | 13 :: before => before.reverse
            | line => line.reverse) :: go [] rest
        else go (b :: line) rest
  go [] bytes

/-- The messages that are logged when a session is asked for something. -/
def messagesFor (filter : LogLevel) (microseconds : Nat) (session : Session)
    (request : String) : List String :=
  match Request.lineOf? request with
  | some line => Log.messagesOf filter line (session.execute line).1 microseconds
  | none => []

/-- Answers a request, and lets the workers go on. -/
def State.answer (course : Course) (state : State) (request : String) : State :=
  let number := state.answers.length
  let (answer, session) := state.session.answer request
  { state with
    session := session.advanceAll (course.schedule number session)
    answers := answer.render :: state.answers
    logged :=
      messagesFor state.filter (course.duration number) state.session request ++ state.logged }

/-- One line of input: nothing happens if it is blank.  A line that is no text ends the
run. -/
def serveLine? (course : Course) (state : State) (bytes : List UInt8) : Option State :=
  (Text.Utf8.decode? bytes).map fun line =>
    if (Text.trim line).isEmpty then state else state.answer course (String.ofList line)

/-- Answers lines until they or the run end. -/
def serveLines (course : Course) (state : State) : List (List UInt8) → State
  | [] => state
  | bytes :: rest =>
      match serveLine? course state bytes with
      | none => state
      | some state => serveLines course state rest

/-- A text with a line end, unless it is empty. -/
def printed (text : String) : String :=
  if text.isEmpty then "" else text ++ "\n"

/-- The start of a run with a configuration: its log is opened before its session. -/
def start (config : Config) (machine : Machine) : State :=
  let (filter, files) := Log.opened config machine.host machine.files
  ⟨Session.opened config { machine with files := files }, filter, [], []⟩

/-- The configuration of a machine, and what there is to complain of about its text. -/
def configure (machine : Machine) : Config × String :=
  let (config, isVoid) := Config.load machine.host machine.files
  (config, if isVoid then name ++ ": config parse error: \n" else "")

/-- Runs the program. -/
def run (course : Course) (arguments : List String) (input : List UInt8) (machine : Machine) :
    Result :=
  let (config, complaint) := configure machine
  match Task.ofArguments arguments with
  | .showConfig => ⟨config.render, complaint, 0, [], machine⟩
  | .help => ⟨usage ++ "\n", complaint, 0, [], machine⟩
  | .lineMissing => ⟨"", complaint ++ usage ++ "\n", 2, [], machine⟩
  | .unknown argument =>
      ⟨"", complaint ++ name ++ ": unknown argument '" ++ argument ++ "'\n" ++ usage ++ "\n", 2,
        [], machine⟩
  | .runLine line =>
      let start := start config machine
      let (outcome, session) := start.session.execute line
      ⟨printed outcome.stdout, complaint ++ printed outcome.stderr, outcome.exitCode % 256,
        Log.messagesOf start.filter line outcome (course.duration 0),
        (session.advanceAll (course.schedule 0 session)).machine⟩
  | .serve =>
      let final := serveLines course (start config machine) (inputLines input)
      ⟨String.join (final.answers.reverse.map printed), complaint, 0, final.logged.reverse,
        final.session.machine⟩

end Conch.Program
