import Conch.Pattern.Octets
import Std.Data.HashMap

/-!
# Tallies of automata

The automaton of an expression is weighed while it is put together: every state has a fixed
weight, and so has every octet range or branch that a state lists.  States are numbered in
the order in which they are added.

The ways through a class share states.  What is shared is looked up in a table with a fixed
number of slots, in which a new entry takes the slot of an older one.
-/

namespace Conch.Pattern

/-- The weight of an automaton, as far as it has been put together. -/
structure Tally where
  /-- The number of states. -/
  states : Nat
  /-- The weight of what the states list. -/
  listed : Nat
  deriving DecidableEq, Repr, Inhabited

/-- The weight of a state. -/
def stateWeight : Nat := 32

/-- The weight of a branch that a state lists. -/
def branchWeight : Nat := 4

/-- The weight of an octet range with the state that it leads to. -/
def stepWeight : Nat := 8

namespace Tally

/-- The tally before the first state. -/
def start : Tally := ⟨0, 0⟩

/-- The whole weight. -/
def weight (tally : Tally) : Nat :=
  stateWeight * tally.states + tally.listed

/-- Adds states without lists. -/
def addStates (tally : Tally) (count : Nat) : Tally :=
  { tally with states := tally.states + count }

/-- Adds a state that lists some branches. -/
def addFork (tally : Tally) (branches : Nat) : Tally :=
  ⟨tally.states + 1, tally.listed + branchWeight * branches⟩

/-- Adds a state that lists some octet ranges. -/
def addSteps (tally : Tally) (steps : Nat) : Tally :=
  ⟨tally.states + 1, tally.listed + stepWeight * steps⟩

end Tally

/-- Mixes a number into a hash. -/
def mixHash (hash : UInt64) (n : Nat) : UInt64 :=
  (hash ^^^ n.toUInt64) * 1099511628211

/-- The slot of some numbers in a table of `size` slots. -/
def slotOf (size : Nat) (numbers : List Nat) : Nat :=
  (numbers.foldl mixHash 14695981039346656037).toNat % size

/-- A table with a fixed number of slots: the entries by their slots, each with its key. -/
abbrev SlotTable (κ : Type) := Std.HashMap Nat (κ × Nat)

/-- The value of a key, if its slot still holds the key. -/
def SlotTable.find? {κ : Type} [DecidableEq κ] (table : SlotTable κ) (slot : Nat) (key : κ) :
    Option Nat :=
  match table[slot]? with
  | some (key', value) => if key' = key then some value else none
  | none => none

/-! ## Ways read from their last octet -/

/-- An octet range with the state that it leads to. -/
structure OctetStep where
  range : OctetRange
  next : Nat
  deriving DecidableEq, Repr, Inhabited

/-- The numbers that a step is hashed by, its target last. -/
def OctetStep.numbers (step : OctetStep) : List Nat :=
  [step.range.first.toNat, step.range.last.toNat, step.next]

/-- The number of slots for the steps of ways that are read from their last octet. -/
def backwardSlots : Nat := 1000

/-- Adds the states of one way, beginning with the first octet, which leads to a given
state. -/
def addBackwardWay (tally : Tally) (table : SlotTable OctetStep) (next : Nat) :
    List OctetRange → Tally × SlotTable OctetStep
  | [] => (tally, table)
  | range :: way =>
      let step := ⟨range, next⟩
      let slot :=
        slotOf backwardSlots [next, range.first.toNat, range.last.toNat]
      match table.find? slot step with
      | some state => addBackwardWay tally table state way
      | none =>
          addBackwardWay (tally.addStates 1) (table.insert slot (step, tally.states))
            tally.states way

/-- Adds a class whose ways are read from their last octet: a fork to all ways, and the
state to which they lead. -/
def Tally.addBackwardClass (tally : Tally) (ways : List (List OctetRange)) : Tally :=
  let last := tally.states + 1
  let forked := (tally.addFork ways.length).addStates 1
  (ways.foldl (fun (tally, table) way => addBackwardWay tally table last way)
    (forked, ({} : SlotTable OctetStep))).1

/-! ## Ways read from their first octet -/

/-- The number of slots for the states of ways that are read from their first octet. -/
def forwardSlots : Nat := 10000

/-- A state under construction: its finished steps, last first, and the octet range of the
step that is not finished. -/
structure OpenState where
  steps : List OctetStep
  pending : Option OctetRange
  deriving Repr, Inhabited

/-- The steps of a state when its unfinished step leads to a given state. -/
def OpenState.close (state : OpenState) (next : Nat) : OpenState :=
  match state.pending with
  | some range => ⟨⟨range, next⟩ :: state.steps, none⟩
  | none => state

/-- An automaton with the states of a class that it holds already. -/
structure ForwardClass where
  tally : Tally
  table : SlotTable (List OctetStep)
  /-- The state to which all ways lead. -/
  last : Nat

/-- The state with given steps, last first: one that is there, or a new one. -/
def ForwardClass.state (built : ForwardClass) (steps : List OctetStep) :
    Nat × ForwardClass :=
  let slot := slotOf forwardSlots (steps.reverse.flatMap OctetStep.numbers)
  match built.table.find? slot steps with
  | some state => (state, built)
  | none =>
      let state := built.tally.states
      (state, { built with
        tally := built.tally.addSteps steps.length
        table := built.table.insert slot (steps, state) })

/-- Finishes open states, each of which leads to the next one, and the last one to the last
state of the class. -/
def ForwardClass.finish (built : ForwardClass) : List OpenState → Nat × ForwardClass
  | [] => (built.last, built)
  | state :: deeper =>
      let (next, built) := built.finish deeper
      built.state (state.close next).steps

/-- Adds a way to open states, of which the first is the root: what the way shares with the
way before stays open. -/
def ForwardClass.addWay (built : ForwardClass) : List OpenState → List OctetRange →
    List OpenState × ForwardClass
  | [], _ => ([], built)
  | state :: deeper, [] => (state :: deeper, built)
  | state :: deeper, range :: way =>
      if state.pending = some range then
        let (opened, built) := built.addWay deeper way
        (state :: opened, built)
      else
        let (next, built) := built.finish deeper
        let root : OpenState := { state.close next with pending := some range }
        (root :: way.map fun range => ⟨[], some range⟩, built)

/-- Adds a class whose ways are read from their first octet. -/
def Tally.addForwardClass (tally : Tally) (ways : List (List OctetRange)) : Tally :=
  let begun : ForwardClass := ⟨tally.addStates 1, {}, tally.states⟩
  let (opened, built) := ways.foldl (fun (opened, built) way => built.addWay opened way)
    ([⟨[], none⟩], begun)
  (built.finish opened).2.tally

end Conch.Pattern
