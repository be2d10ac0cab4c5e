import Conch.Host.Facts
import Conch.Text.Ascii
import Conch.Text.Blank
import Conch.Text.Lines
import Conch.Text.Utf8

/-!
# What a system says about itself

A system describes itself in texts: lists of fields, tables and single values.  The facts
about the host are read from them; what a text does not tell is unknown.
-/

namespace Conch.Host

/-- The texts in which a system describes itself.  A missing one is empty. -/
structure SystemTexts where
  /-- The variables with their values, each ended by an octet of zero. -/
  environment : List UInt8
  hostname : String
  systemName : String
  systemRelease : String
  architecture : String
  uptime : String
  processors : String
  memory : String
  process : String
  accounts : String

/-- The words of a text between blanks. -/
def wordsOf (text : List Char) : List (List Char) :=
  (Text.splitBy Text.isBlank text).filter fun word => !word.isEmpty

/-- What follows a label at the start of the first line that begins with it. -/
def lineAfter? (label : String) (text : String) : Option (List Char) :=
  (Text.lines text.toList).findSome? (Text.afterStart? label.toList)

/-- The number in a word. -/
def numberAt? (index : Nat) (text : List Char) : Option Nat :=
  ((wordsOf text)[index]?).bind Text.digitsValue?

/-- A variable with its value. -/
def readVariable? (bytes : List UInt8) : Option (String × String) :=
  let chars := Text.Utf8.decodeLossy bytes
  let name := chars.takeWhile (· != '=')
  match chars.drop name.length with
  | _ :: value => if name.isEmpty then none else some (String.ofList name, String.ofList value)
  | [] => none

/-- The parts of octets between octets of zero, given the first part so far in reverse. -/
def zeroEnded (part : List UInt8) : List UInt8 → List (List UInt8)
  | [] => [part.reverse]
  | b :: rest => if b = 0 then part.reverse :: zeroEnded [] rest else zeroEnded (b :: part) rest

/-- The variables of an environment. -/
def readEnvironment (bytes : List UInt8) : List (String × String) :=
  (zeroEnded [] bytes).filterMap readVariable?

/-- Total and available memory, which are given in units of 1024 octets. -/
def readMemory? (text : String) : Option Memory := do
  let total ← (lineAfter? "MemTotal:" text).bind (numberAt? 0)
  let available := (lineAfter? "MemAvailable:" text).bind (numberAt? 0)
  let free ← available.or ((lineAfter? "MemFree:" text).bind (numberAt? 0))
  some ⟨total * 1024, free * 1024⟩

/-- The whole seconds since the start. -/
def readUptime? (text : String) : Option Nat := do
  let first ← (wordsOf text.toList).head?
  Text.digitsValue? (first.takeWhile (· != '.'))

/-- The name of the first processor. -/
def readProcessor? (text : String) : Option String := do
  let rest ← lineAfter? "model name" text
  match rest.dropWhile (· != ':') with
  | _ :: name => some (String.ofList (Text.trim name))
  | [] => none

/-- How many processors a text lists, at least one. -/
def countProcessors (text : String) : Nat :=
  let listed := (Text.lines text.toList).filter fun line =>
    (Text.afterStart? "processor".toList line).isSome
  max 1 listed.length

/-- The home directory on record for a user. -/
def readHome? (user : Nat) (accounts : String) : Option String :=
  (Text.lines accounts.toList).findSome? fun line =>
    match Text.splitBy (· = ':') line with
    | _ :: _ :: id :: _ :: _ :: home :: _ =>
        if Text.digitsValue? id = some user then some (String.ofList home) else none
    | _ => none

/-- The first text that is not blank, without the blanks around it. -/
def firstGiven (texts : List String) : String :=
  ((texts.map Text.trimmed).find? fun text => !text.isEmpty).getD "unknown"

/-- The facts that texts tell.  They tell nothing of the network, and of no refusal. -/
def SystemTexts.facts (texts : SystemTexts) : Facts :=
  let environment := readEnvironment texts.environment
  let userId := (lineAfter? "Uid:" texts.process).bind (numberAt? 1)
  { environment
    hostname :=
      firstGiven [texts.hostname, (environment.lookup "HOSTNAME").getD ""]
    systemName := firstGiven [texts.systemName, "Linux"]
    systemRelease := firstGiven [texts.systemRelease]
    architecture := firstGiven [texts.architecture, "x86_64"]
    platform := "linux"
    uptime := readUptime? texts.uptime
    cores := countProcessors texts.processors
    processor := (readProcessor? texts.processors).getD "Unknown"
    memory := readMemory? texts.memory
    userId
    groupId := (lineAfter? "Gid:" texts.process).bind (numberAt? 1)
    accountHome := userId.bind fun user => readHome? user texts.accounts
    interfaces := []
    clientFault := none
    request := fun _ => none
    workerFault := fun _ => none }

end Conch.Host
