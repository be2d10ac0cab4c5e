import Conch.Builtin.Input
import Conch.Text.Ascii

/-!
# `help`

The command reference.  Its text is fixed when `help` is registered, so it lists the
commands known then, and itself.
-/

namespace Conch.Builtin

/-- A row of the reference. -/
structure ReferenceEntry where
  name : String
  description : String
  needsAdmin : Bool
  deriving DecidableEq, Repr, Inhabited

/-- The text of one row. -/
def ReferenceEntry.row (entry : ReferenceEntry) : String :=
  "  " ++ Text.padRight 18 entry.name ++ " " ++ entry.description ++ "\n"

/-- The entries with one put in its place by name. -/
def insertEntry (entry : ReferenceEntry) : List ReferenceEntry → List ReferenceEntry
  | [] => [entry]
  | e :: rest => if entry.name < e.name then entry :: e :: rest else e :: insertEntry entry rest

/-- The text of the reference. -/
def referenceText (entries : List ReferenceEntry) : String :=
  let heavy := Text.repeated 60 "="
  let light := Text.repeated 60 "-"
  let rows (entries : List ReferenceEntry) := String.join (entries.map ReferenceEntry.row)
  let admin := entries.filter (·.needsAdmin)
  "NexShell Command Reference\n" ++ heavy ++ "\n\nCore Commands:\n" ++ light ++ "\n" ++
    rows (entries.filter fun entry => !entry.needsAdmin) ++
    (if admin.isEmpty then "" else "\nAdmin Commands:\n" ++ light ++ "\n" ++ rows admin) ++
    "\n" ++ heavy ++ "\n" ++
    "Use pipes (|) to chain commands: cat file.txt | grep pattern\n" ++
    "Use redirection: ls > output.txt, ls >> output.txt, cat < input.txt\n" ++
    "Background jobs: command &\n"

/-- The name of the command that shows the reference. -/
def helpName : String := "help"

/-- The description of the command that shows the reference. -/
def helpDescription : String := "Show command reference"

/-- The reference of the commands of a registry and of `help` itself. -/
def referenceOf (registry : Registry) : String :=
  let entries := registry.commands.map fun command =>
    (⟨command.name, command.description, command.needsAdmin⟩ : ReferenceEntry)
  referenceText <|
    if registry.contains helpName then entries
    else insertEntry ⟨helpName, helpDescription, false⟩ entries

/-- The outcome of `help` with a given text. -/
def help (text : String) (_ : List String) (_ : Context) (_ : Machine) : Outcome :=
  Outcome.success text

end Conch.Builtin
