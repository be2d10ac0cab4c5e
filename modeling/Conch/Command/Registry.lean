import Conch.Machine

/-!
# Commands and their registry

A command is a name with a handler and three flags that the pipeline looks at before
and after it runs the handler.  A handler is any function of its arguments, its
context and the machine; it either returns an outcome or crashes with a message.
Names are case-insensitive in their ASCII letters.
-/

namespace Conch

/-- How a handler ends. -/
inductive Ending where
  | returned (outcome : Outcome)
  | crashed (message : String)
  deriving DecidableEq, Repr, Inhabited

/-- The behaviour of a command. -/
abbrev Handler := List String → Context → Machine → Ending × Machine

/-- A registered command. -/
structure Command where
  name : String
  description : String
  /-- Whether only privileged pipelines may run it. -/
  needsAdmin : Bool
  /-- Whether it is given piped or redirected input. -/
  takesInput : Bool
  /-- Whether its output on success is the new directory of the pipeline. -/
  setsDirectory : Bool
  handler : Handler

/-- A command without flags, under a name in lower case. -/
def Command.named (name description : String) (handler : Handler) : Command :=
  ⟨Text.asciiLower name, description, false, false, false, handler⟩

/-- The commands of a session, in the order of their names. -/
structure Registry where
  commands : List Command

namespace Registry

/-- The registry without commands. -/
def empty : Registry := ⟨[]⟩

/-- The commands with one put in its place by name; it replaces one of the same name. -/
def insertCommand (command : Command) : List Command → List Command
  | [] => [command]
  | c :: rest =>
      if command.name < c.name then command :: c :: rest
      else if command.name = c.name then command :: rest
      else c :: insertCommand command rest

/-- Adds a command, or replaces the one of the same name. -/
def register (registry : Registry) (command : Command) : Registry :=
  ⟨insertCommand command registry.commands⟩

/-- The command with a name, in any case. -/
def find? (registry : Registry) (name : String) : Option Command :=
  registry.commands.find? fun command => command.name = Text.asciiLower name

/-- Whether a name is registered, in any case. -/
def contains (registry : Registry) (name : String) : Bool :=
  (registry.find? name).isSome

end Registry
end Conch
