import Conch.Proofs.Pipeline.Composition

/-!
# The error texts of a pipeline

A pipeline gathers the error texts of its stages, in order.  The error text of a stage is the one
that its handler has returned, with one exception: when the output of the stage cannot be written
to its file, the refusal takes the place of the outcome, and the error text of the handler is lost
with it.
-/

namespace Conch.Pipeline

/-! ## Texts in a text -/

/-- Some texts are parts of a text, one behind the other. -/
inductive InOrder : List String → String → Prop
  | nil (text : String) : InOrder [] text
  | cons {parts : List String} {after : String} (before part : String) (h : InOrder parts after) :
      InOrder (part :: parts) (before ++ part ++ after)

theorem InOrder.behind {parts : List String} {text : String} (h : InOrder parts text)
    (front : String) : InOrder parts (front ++ text) := by
  cases h with
  | nil => exact .nil _
  | cons before part hlater =>
      rw [← String.append_assoc, ← String.append_assoc]
      exact .cons (front ++ before) part hlater

theorem InOrder.isInfix {parts : List String} {text part : String} (h : InOrder parts text)
    (hmem : part ∈ parts) : part.toList <:+: text.toList := by
  induction h with
  | nil => cases hmem
  | @cons _ after before first _ ih =>
      rw [String.toList_append, String.toList_append]
      rcases List.mem_cons.mp hmem with rfl | hlater
      · exact ⟨before.toList, after.toList, rfl⟩
      · exact (ih hlater).trans (List.suffix_append _ _).isInfix

/-- Of parts in order, any choice is in order. -/
theorem InOrder.choose {parts others : List String} {text : String} (h : InOrder parts text)
    (hchoice : others.Sublist parts) : InOrder others text := by
  induction h generalizing others with
  | nil =>
      obtain rfl := List.sublist_nil.mp hchoice
      exact .nil _
  | cons before part _ ih =>
      cases hchoice with
      | cons _ hlater => exact (ih hlater).behind _
      | cons_cons _ hlater => exact .cons before part (ih hlater)

theorem inOrder_intercalate (sep : String) (texts : List String) :
    InOrder texts (sep.intercalate texts) := by
  induction texts with
  | nil => exact .nil _
  | cons first later ih =>
      cases later with
      | nil => simpa using InOrder.cons "" first (.nil "")
      | cons next rest =>
          have hwhole := InOrder.cons "" first (ih.behind sep)
          rw [String.intercalate_cons_cons, String.append_assoc]
          simpa using hwhole

/-! ## What handlers return -/

/-- What the handler of a turn has returned, with its command and the machine that it has left;
`none` if no handler has been called, or if it has crashed. -/
def Turn.returned? (registry : Registry) (index : Nat) (turn : Turn) :
    Option (Command × Outcome × Machine) :=
  match enter registry turn.stage index turn.piped turn.context turn.machine with
  | .error _ => none
  | .ok (command, input) =>
      match command.handler turn.stage.args { turn.context with stdin := input } turn.machine with
      | (.returned outcome, after) => some (command, outcome, after)
      | (.crashed _, _) => none

/-- Whether the output of a turn has come to where it should go. -/
def Turn.isDelivered (registry : Registry) (index : Nat) (turn : Turn) : Bool :=
  match turn.returned? registry index, turn.stage.outputFile? with
  | some (command, outcome, after), some file =>
      (writeOutput (adoptDirectory command outcome turn.context) after file outcome.stdout
        turn.stage.appends).1.isOk
  | _, _ => true

/-- Of turns with the numbers of their stages, those whose outputs have come to where they should
go. -/
def deliveredTurns (registry : Registry) (turns : List (Turn × Nat)) : List (Turn × Nat) :=
  turns.filter fun turn => turn.1.isDelivered registry turn.2

/-- The error texts that the handlers of turns have returned, without the empty ones. -/
def handlerTexts (registry : Registry) (turns : List (Turn × Nat)) : List String :=
  (turns.filterMap fun turn =>
    (turn.1.returned? registry turn.2).map (·.2.1.stderr)).filter fun text => !text.isEmpty

section Turn

variable {registry : Registry} {index : Nat} {turn : Turn} {command : Command}
  {outcome : Outcome} {after : Machine}

theorem Turn.returned?_eq_some_iff :
    turn.returned? registry index = some (command, outcome, after) ↔
      ∃ input, Calls registry turn.stage index turn.piped turn.context turn.machine command input
        (.returned outcome) after := by
  unfold returned?
  constructor
  · intro h
    split at h
    · cases h
    · next found input henter =>
        split at h
        · next hends =>
            obtain ⟨rfl, rfl, rfl⟩ : found = command ∧ _ = outcome ∧ _ = after := by simpa using h
            obtain ⟨hadmits, hgiven⟩ := enter_eq_ok_iff.mp henter
            exact ⟨input, hadmits, hgiven, hends⟩
        · cases h
  · rintro ⟨input, hcalls⟩
    simp only [enter_eq_ok_iff.mpr ⟨hcalls.admits, hcalls.given⟩, hcalls.ends]

variable (hgoes : Goes registry turn.stage index turn.piped turn.context turn.machine turn.report)
  (hreturned : turn.returned? registry index = some (command, outcome, after))
include hgoes hreturned

theorem Turn.ending_of_returned : turn.report.ending =
    .returned (leave command turn.stage outcome turn.context after).1 := by
  obtain ⟨input, hcalls⟩ := returned?_eq_some_iff.mp hreturned
  rw [← goes_iff.mp hgoes]
  simp only [runStage, enter_eq_ok_iff.mpr ⟨hcalls.admits, hcalls.given⟩, hcalls.ends]

/-- What a handler says is what its stage says, if the output is delivered. -/
theorem Turn.stderr_of_delivered (h : turn.isDelivered registry index = true) :
    turn.stderr = outcome.stderr := by
  simp only [Turn.stderr, ending_of_returned hgoes hreturned, leave]
  cases hfile : turn.stage.outputFile? with
  | none => rfl
  | some file =>
      simp only [isDelivered, hreturned, hfile] at h
      cases hwrite : writeOutput (adoptDirectory command outcome turn.context) after file
          outcome.stdout turn.stage.appends with
      | mk result final =>
          rw [hwrite] at h
          cases result with
          | ok _ => simp only [hwrite]
          | error fault => cases h

end Turn

/-- A turn whose output is not delivered says why, and nothing else. -/
theorem Turn.stderr_of_undelivered {registry : Registry} {index : Nat} {turn : Turn}
    (hgoes : Goes registry turn.stage index turn.piped turn.context turn.machine turn.report)
    (h : turn.isDelivered registry index = false) :
    ∃ file fault, turn.stage.outputFile? = some file ∧
      turn.stderr = (outputRefusal file fault).stderr := by
  unfold isDelivered at h
  split at h
  · next command outcome after file hreturned hfile =>
      cases hwrite : writeOutput (adoptDirectory command outcome turn.context) after file
          outcome.stdout turn.stage.appends with
      | mk result final =>
          rw [hwrite] at h
          cases result with
          | ok _ => cases h
          | error fault =>
              refine ⟨file, fault, hfile, ?_⟩
              simp only [Turn.stderr, ending_of_returned hgoes hreturned, leave, hfile, hwrite]
  · cases h

/-! ## Runs -/

section Runs

variable {registry : Registry}

theorem handlerTexts_cons (turn : Turn × Nat) (later : List (Turn × Nat)) :
    handlerTexts registry (turn :: later) =
      handlerTexts registry [turn] ++ handlerTexts registry later := by
  simp only [handlerTexts, ← List.filter_append, ← List.filterMap_append, List.singleton_append]

theorem handlerTexts_singleton_sublist {index : Nat} {turn : Turn}
    (hgoes : Goes registry turn.stage index turn.piped turn.context turn.machine turn.report)
    (hdelivered : turn.isDelivered registry index = true) :
    (handlerTexts registry [(turn, index)]).Sublist (errorTexts [turn]) := by
  cases hreturned : turn.returned? registry index with
  | none => simp [handlerTexts, hreturned]
  | some found =>
      obtain ⟨command, outcome, after⟩ := found
      have hstderr := Turn.stderr_of_delivered hgoes hreturned hdelivered
      simp [handlerTexts, hreturned, errorTexts, hstderr]

/-- The error texts of handlers are among those of the turns, in order, as far as the outputs are
delivered.  The induction is on the turns, which are numbered from `index` on. -/
theorem handlerTexts_sublist (index : Nat) {turns : List Turn}
    (h : ∀ i turn, turns[i]? = some turn →
      Goes registry turn.stage (index + i) turn.piped turn.context turn.machine turn.report) :
    (handlerTexts registry (deliveredTurns registry (turns.zipIdx index))).Sublist
      (errorTexts turns) := by
  induction turns generalizing index with
  | nil => exact .slnil
  | cons turn later ih =>
      have hlater := ih (index + 1) fun i other hother => by
        have hgoes := h (i + 1) other hother
        rwa [← Nat.add_assoc, Nat.add_right_comm] at hgoes
      rw [List.zipIdx_cons, deliveredTurns, List.filter_cons, errorTexts_cons]
      split
      · next hdelivered =>
          rw [handlerTexts_cons]
          exact (handlerTexts_singleton_sublist (h 0 turn rfl) hdelivered).append hlater
      · exact hlater.trans (List.sublist_append_right _ _)

/-- Whatever a run comes to, the error texts of its turns are there. -/
theorem inOrder_verdict {index total : Nat} {turns : List Turn} {last : Turn} {outcome : Outcome}
    (h : verdict [] index total turns last = .returned outcome) :
    InOrder (errorTexts turns) outcome.stderr := by
  unfold verdict at h
  rw [List.nil_append] at h
  split at h
  · cases h
  · split at h
    · obtain rfl := Ending.returned.inj h
      split
      · next hempty =>
          rw [List.isEmpty_iff.mp hempty]
          exact .nil _
      · exact inOrder_intercalate "\n" _
    · obtain rfl := Ending.returned.inj h
      exact inOrder_intercalate "\n" _

end Runs

/-- What becomes of the error texts of turns in the outcome of their pipeline. -/
structure KeepsTexts (registry : Registry) (turns : List Turn) (outcome : Outcome) : Prop where
  /-- The texts of handlers are there in order, as far as the outputs have been delivered. -/
  delivered : InOrder (handlerTexts registry (deliveredTurns registry turns.zipIdx)) outcome.stderr
  /-- None is lost if all outputs have been delivered. -/
  all : deliveredTurns registry turns.zipIdx = turns.zipIdx →
    InOrder (handlerTexts registry turns.zipIdx) outcome.stderr
  /-- Where an output has not been delivered, the refusal is the text of the stage. -/
  refused : ∀ turn ∈ turns.zipIdx, turn.1.isDelivered registry turn.2 = false →
    ∃ file fault, turn.1.stage.outputFile? = some file ∧
      turn.1.stderr = (outputRefusal file fault).stderr
  /-- The texts of all stages are there in order. -/
  stages : InOrder (errorTexts turns) outcome.stderr

/-- A pipeline that returns keeps the error texts of its handlers in the order of its stages, but
for those whose outputs cannot be written. -/
theorem keepsTexts_run {registry : Registry} {stages : List Line.Stage} {context : Context}
    {machine : Machine} (hcount : stages.length ≤ Limits.stages) {turns : List Turn}
    (hturns : IsRun registry 0 context.stdin { context with stdin := none } machine stages turns)
    (htried : turns ≠ []) {outcome : Outcome}
    (hreturned : (run registry stages context machine).ending = .returned outcome) :
    KeepsTexts registry turns outcome := by
  have hlast := List.getLast?_eq_some_getLast htried
  rw [hturns.run_eq hlast hcount] at hreturned
  have hstages : InOrder (errorTexts turns) outcome.stderr := inOrder_verdict hreturned
  have hdelivered := hstages.choose (handlerTexts_sublist 0 hturns.goes)
  refine ⟨hdelivered, fun hall => by rwa [hall] at hdelivered, ?_, hstages⟩
  rintro ⟨turn, index⟩ hmem hrefused
  have hturn : turns[index]? = some turn := List.mem_zipIdx_iff_getElem?.mp hmem
  exact Turn.stderr_of_undelivered (hturns.goes_at hturn) hrefused

/-- A command that passes its input on with a warning. -/
def warns : Registry :=
  Registry.empty.register
    { Command.named "warn" "Warn" fun _ context machine =>
        (.returned ⟨context.stdin.getD "", "warning", 0⟩, machine) with
      takesInput := true }

/-- A machine with a directory, which no output can be written to. -/
def closet : Machine :=
  { Machine.blank with files := ⟨[([Path.ofText "sub"], .directory)], [], []⟩ }

theorem keepsTexts_run_warned :
    let stages : List Line.Stage :=
      [⟨"warn", [], .inherit, .inherit⟩, ⟨"warn", [], .piped, .inherit⟩]
    let context : Context := ⟨.standard, [Path.slash], none, .line 0⟩
    stages.length ≤ Limits.stages ∧
      (run warns stages context closet).ending = .returned ⟨"", "warning\nwarning", 0⟩ ∧
      ∃ turns, turns ≠ [] ∧ IsRun warns 0 none context closet stages turns ∧
        KeepsTexts warns turns ⟨"", "warning\nwarning", 0⟩ := by
  intro stages context
  have hreturned : (run warns stages context closet).ending =
      .returned ⟨"", "warning\nwarning", 0⟩ := by decide +kernel
  obtain ⟨turns, last, hlast, hturns⟩ :=
    exists_isRun warns (List.cons_ne_nil _ _ : stages ≠ []) context closet
  have htried : turns ≠ [] := by
    rintro rfl
    cases hlast
  exact ⟨by decide, hreturned, turns, htried, hturns,
    keepsTexts_run (by decide) hturns htried hreturned⟩

/-- The warning of a handler is lost when its output cannot be written. -/
theorem keepsTexts_run_lost :
    ¬ ∀ (registry : Registry) (stages : List Line.Stage) (context : Context) (machine : Machine)
      (turns : List Turn) (outcome : Outcome), stages.length ≤ Limits.stages →
      IsRun registry 0 context.stdin { context with stdin := none } machine stages turns →
      turns ≠ [] → (run registry stages context machine).ending = .returned outcome →
      InOrder (handlerTexts registry turns.zipIdx) outcome.stderr := by
  intro h
  let stage : Line.Stage := ⟨"warn", [], .inherit, .replace "sub"⟩
  let context : Context := ⟨.standard, [Path.slash], none, .line 0⟩
  let turn : Turn := ⟨stage, none, context, closet, runStage warns stage 0 none context closet⟩
  have hturns : IsRun warns 0 none context closet [stage] [turn] :=
    .single (goes_iff.mpr rfl) fun hmore => absurd rfl hmore
  have hreturned : (run warns [stage] context closet).ending =
      .returned
        ⟨"", "Cannot write output file sub: open sub: Is a directory (os error 21)", 1⟩ := by
    decide +kernel
  have hsaid : handlerTexts warns [turn].zipIdx = ["warning"] := by decide +kernel
  have hkept := h warns [stage] context closet [turn] _ (by decide) hturns (List.cons_ne_nil _ _)
    hreturned
  rw [hsaid] at hkept
  have hthere := hkept.isInfix (List.mem_singleton_self "warning")
  exact absurd hthere (by decide +kernel)

end Conch.Pipeline
