import Conch.Proofs.Command.Lookup
import Mathlib.Data.String.Basic

/-!
# Registering commands

A command is registered under its name in lower case, in whatever case the name was given, and
looked up by the lower case of the name that is asked for.  So of the commands whose names differ
in case only the last one is found, under all spellings, and the registry has one command for each
name in lower case, in the order of these names.
-/

namespace Conch

/-- What a command is registered with; its name may be in any case. -/
structure Registration where
  name : String
  description : String
  needsAdmin : Bool
  takesInput : Bool
  setsDirectory : Bool
  handler : Handler

/-- The command that is registered. -/
def Registration.command (registration : Registration) : Command :=
  { Command.named registration.name registration.description registration.handler with
    needsAdmin := registration.needsAdmin
    takesInput := registration.takesInput
    setsDirectory := registration.setsDirectory }

namespace Registry

/-- The registry after commands have been registered, one after another. -/
def ofRegistrations (registrations : List Registration) : Registry :=
  (registrations.map Registration.command).foldl register empty

theorem ofRegistrations_concat (registrations : List Registration) (last : Registration) :
    ofRegistrations (registrations ++ [last]) =
      (ofRegistrations registrations).register last.command := by
  simp [ofRegistrations]

/-! ## Look-up -/

/-- The last command with a name, up to its case, is the one that is found. -/
theorem find?_ofRegistrations (registrations : List Registration) (name : String) :
    (ofRegistrations registrations).find? name =
      ((registrations.filter fun registration =>
        Text.SameUpToCase registration.name name).getLast?).map Registration.command := by
  induction registrations using List.reverseRecOn with
  | nil => rfl
  | append_singleton earlier last ih =>
      have hname : last.command.name = Text.asciiLower last.name := rfl
      rw [ofRegistrations_concat, find?_register, hname, ih, List.filter_append]
      by_cases hsame : Text.SameUpToCase last.name name
      · have hlower : Text.asciiLower last.name = Text.asciiLower name := hsame
        simp [hsame, hlower]
      · have hlower : Text.asciiLower last.name ≠ Text.asciiLower name := hsame
        simp [hsame, hlower]

/-! ## Order -/

/-- The names of commands strictly increase. -/
def InOrder (commands : List Command) : Prop :=
  (commands.map Command.name).Pairwise (· < ·)

theorem mem_names_insertCommand {command : Command} {commands : List Command} {name : String} :
    name ∈ (insertCommand command commands).map Command.name ↔
      name = command.name ∨ name ∈ commands.map Command.name := by
  induction commands with
  | nil => simp [insertCommand]
  | cons first rest ih =>
      rw [insertCommand]
      split
      · rw [List.map_cons, List.mem_cons]
      · split
        -- the command that is replaced had the same name
        · next hsame => simp [hsame]
        · rw [List.map_cons, List.mem_cons, ih, List.map_cons, List.mem_cons, or_left_comm]

theorem InOrder.insertCommand {commands : List Command} (h : InOrder commands)
    (command : Command) : InOrder (insertCommand command commands) := by
  induction commands with
  | nil => exact List.pairwise_singleton _ _
  | cons first rest ih =>
      obtain ⟨hfirst, hrest⟩ := List.pairwise_cons.mp h
      rw [Registry.insertCommand]
      split
      · next hbefore =>
          refine List.pairwise_cons.mpr ⟨fun name hmem => ?_, h⟩
          rcases List.mem_cons.mp hmem with rfl | hlater
          · exact hbefore
          · exact hbefore.trans (hfirst name hlater)
      · next hnotBefore =>
          split
          · next hsame =>
              refine List.pairwise_cons.mpr ⟨fun name hmem => ?_, hrest⟩
              exact hsame ▸ hfirst name hmem
          · next hother =>
              refine List.pairwise_cons.mpr ⟨fun name hmem => ?_, ih hrest⟩
              rcases mem_names_insertCommand.mp hmem with rfl | hlater
              · exact lt_of_le_of_ne (not_lt.mp hnotBefore) (Ne.symm hother)
              · exact hfirst name hlater

theorem inOrder_ofRegistrations (registrations : List Registration) :
    InOrder (ofRegistrations registrations).commands := by
  induction registrations using List.reverseRecOn with
  | nil => exact List.Pairwise.nil
  | append_singleton earlier last ih =>
      rw [ofRegistrations_concat]
      exact ih.insertCommand last.command

/-- There is one command for every name that has been given, in lower case. -/
theorem mem_names_ofRegistrations {registrations : List Registration} {name : String} :
    name ∈ (ofRegistrations registrations).commands.map Command.name ↔
      ∃ registration ∈ registrations, Text.asciiLower registration.name = name := by
  induction registrations using List.reverseRecOn with
  | nil => simp [ofRegistrations, empty]
  | append_singleton earlier last ih =>
      have hname : last.command.name = Text.asciiLower last.name := rfl
      rw [ofRegistrations_concat, register, mem_names_insertCommand, ih, hname]
      simp [or_and_right, exists_or, or_comm, eq_comm]

end Registry

end Conch
