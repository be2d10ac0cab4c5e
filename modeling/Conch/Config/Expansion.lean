import Conch.Config.Basic
import Conch.Text.Blank
import Conch.Text.Pieces
import Conch.Unicode.Classes

/-!
# Expansion of paths

Configured paths may name environment variables and start at the home directory.  A path
that names a variable without a value is taken as it is written, but for the home
directory.
-/

namespace Conch.Config

/-- The characters of a variable name that stands without braces. -/
def isNameChar (c : Char) : Bool :=
  c = '_' || Unicode.isAlphanumeric c

/-- Takes apart what stands between braces: the name of a variable, and after `:-` the
text for one without a value.  An empty name has no such text. -/
def splitDefault (inner : List Char) : List Char × Option (List Char) :=
  let rec go (name : List Char) : List Char → List Char × Option (List Char)
    | ':' :: '-' :: rest => if name.isEmpty then (inner, none) else (name.reverse, some rest)
    | c :: rest => go (c :: name) rest
    | [] => (inner, none)
  go [] inner

/-- The text that stands for what is between braces; `none` for a variable that has no
value. -/
def braced? (lookup? : String → Option String) (inner : List Char) : Option (List Char) :=
  let (name, fallback) := splitDefault inner
  match lookup? (String.ofList name) with
  | some value => some value.toList
  | none => fallback

/-- A text with the variables in it replaced by their values.  `$$` is a dollar sign, and
so is a `$` that no name follows; an opening brace that is never closed stays. -/
def expandVariables (lookup? : String → Option String) : Nat → List Char →
    Option (List Char)
  | 0, s => some s
  | _, [] => some []
  | left + 1, '$' :: '$' :: rest => do
      return '$' :: (← expandVariables lookup? left rest)
  | left + 1, '$' :: '\x7b' :: rest =>
      match rest.dropWhile (· ≠ '\x7d') with
      | [] => do return '$' :: '\x7b' :: (← expandVariables lookup? left rest)
      | _ :: after => do
          let value ← braced? lookup? (rest.takeWhile (· ≠ '\x7d'))
          return value ++ (← expandVariables lookup? left after)
  | left + 1, '$' :: rest =>
      let name := rest.takeWhile isNameChar
      if name.isEmpty then do
        return '$' :: (← expandVariables lookup? left rest)
      else do
        let value ← lookup? (String.ofList name)
        return value.toList ++ (← expandVariables lookup? left (rest.dropWhile isNameChar))
  | left + 1, c :: rest => do
      return c :: (← expandVariables lookup? left rest)

/-- The home directory at which a path may start. -/
def homeDirectory? (host : Host.Facts) : Option String :=
  (host.firstSet? ["HOME"]).or host.accountHome

/-- A path with the home directory for a `~` that is its whole first segment. -/
def expandHome (host : Host.Facts) (s : List Char) : List Char :=
  let expanded (rest : List Char) : List Char :=
    match homeDirectory? host with
    | some home => home.toList ++ rest
    | none => s
  match s with
  | ['~'] => expanded []
  | '~' :: '/' :: rest => expanded ('/' :: rest)
  | _ => s

/-- The path that a configured text means; `none` for a blank one.  A `~` that comes from
the value of a variable is not the home directory. -/
def expandPath (host : Host.Facts) (raw : String) : Option String :=
  let s := Text.trim raw.toList
  if s.isEmpty then none
  else
    some <| String.ofList <|
      match expandVariables host.lookup? (s.length + 1) s with
      | none => expandHome host s
      | some t => if s.head? ≠ some '~' && t.head? = some '~' then t else expandHome host t

/-- The directory of a new session. -/
def startPath? (config : Config) (host : Host.Facts) : Option String :=
  expandPath host config.startDirectory

/-- The log file. -/
def logPath? (config : Config) (host : Host.Facts) : Option String :=
  expandPath host config.logFile

end Conch.Config
