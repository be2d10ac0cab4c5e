import Conch.Command.Registry
import Conch.Proofs.Text.Ascii
import Mathlib.Data.List.Induction

/-!
# Looking up commands

The commands of a registry as a map from names: the command that was registered last under
a name is the one that is found, in any spelling of the name.
-/

namespace Conch

namespace Registry

theorem name_of_find? {registry : Registry} {name : String} {command : Command}
    (h : registry.find? name = some command) : command.name = Text.asciiLower name := by
  simpa using List.find?_some h

/-- A command that is found is found under its own name, too. -/
theorem find?_name {registry : Registry} {name : String} {command : Command}
    (h : registry.find? name = some command) : registry.find? command.name = some command := by
  rw [← h]
  simp only [find?, name_of_find? h, Text.asciiLower_idem]

theorem find?_insertCommand (command : Command) (commands : List Command) (name : String) :
    (insertCommand command commands).find? (fun c => c.name = name) =
      if command.name = name then some command else commands.find? fun c => c.name = name := by
  induction commands with
  | nil => by_cases hname : command.name = name <;> simp [insertCommand, hname]
  | cons first rest ih =>
      simp only [insertCommand]
      split
      · by_cases hname : command.name = name <;> simp [hname]
      · split
        -- the command that is replaced had the name of the new one
        · next hsame => by_cases hname : command.name = name <;> simp [hname, ← hsame]
        · next hother =>
            by_cases hfirst : first.name = name
            · have hname : command.name ≠ name := fun h => hother (h.trans hfirst.symm)
              simp [hfirst, hname]
            · simp [hfirst, ih]

/-- The command that was registered last is found under its name, all others as before. -/
theorem find?_register (registry : Registry) (command : Command) (name : String) :
    (registry.register command).find? name =
      if command.name = Text.asciiLower name then some command else registry.find? name :=
  find?_insertCommand command registry.commands (Text.asciiLower name)

/-- Of commands with different names each is found. -/
theorem find?_foldl_register {commands : List Command} {command : Command}
    (h : command ∈ commands) (hnames : (commands.map Command.name).Nodup)
    (hlower : Text.asciiLower command.name = command.name) (registry : Registry) :
    (commands.foldl register registry).find? command.name = some command := by
  induction commands using List.reverseRecOn with
  | nil => cases h
  | append_singleton init last ih =>
      rw [List.foldl_append, List.foldl_cons, List.foldl_nil, find?_register, hlower]
      rw [List.map_append, List.nodup_append] at hnames
      obtain ⟨hinit, -, hapart⟩ := hnames
      rcases List.mem_append.mp h with hearlier | hlast
      · have hother : last.name ≠ command.name := fun hsame =>
          hapart command.name (List.mem_map_of_mem hearlier) last.name (by simp) hsame.symm
        rw [if_neg hother, ih hearlier hinit]
      · obtain rfl := List.mem_singleton.mp hlast
        rw [if_pos rfl]

end Registry

end Conch
