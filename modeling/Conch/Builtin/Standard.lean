import Conch.Builtin.Cat
import Conch.Builtin.Diagnostics
import Conch.Builtin.Directory
import Conch.Builtin.Fetch
import Conch.Builtin.Filters
import Conch.Builtin.JobControl
import Conch.Builtin.Listing
import Conch.Builtin.Reference
import Conch.Pattern.Search

/-!
# The standard commands

The twelve commands that every session knows.  `help` is added last, because its text
lists the commands known when it is added.
-/

namespace Conch.Builtin

/-- The outcome of `grep`. -/
def grep : List String → Context → Machine → Outcome :=
  grepWith Pattern.search

/-- The standard commands but `help`. -/
def commands : List Command :=
  let plain (name description : String) (run : List String → Context → Machine → Outcome) :=
    Command.named name description (reporting run)
  let filter (name description : String) (run : List String → Context → Machine → Outcome) :=
    { plain name description run with takesInput := true }
  [{ plain "cd" "Change working directory" cd with setsDirectory := true },
    plain "pwd" "Print working directory" pwd,
    plain "ls" "List directory contents" ls,
    filter "cat" "Concatenate and display file contents" cat,
    filter "grep" "Search file for pattern matches" grep,
    filter "sort" "Sort file lines lexicographically" sort,
    filter "unique" "Print unique lines from file" unique,
    plain "fetch" "Fetch remote resource or read local file" fetch,
    plain "jobs" "List tracked background jobs" jobs,
    Command.named "killjobs" "Terminate a background job" killjobs,
    { plain "nexus" "Admin-only privileged operations" nexus with needsAdmin := true }]

/-- Adds the standard commands to a registry. -/
def addTo (registry : Registry) : Registry :=
  let registry := commands.foldl Registry.register registry
  registry.register
    (Command.named helpName helpDescription (reporting (help (referenceOf registry))))

/-- The registry of the standard commands. -/
def registry : Registry :=
  addTo Registry.empty

end Conch.Builtin
