import Conch.Program.Invocation
import Conch.Proofs.Json.Rendering
import Conch.Proofs.Path.Rooted
import Mathlib.Data.List.ReduceOption

/-!
# Answering the input

Without arguments the program answers the requests on its input: one line for each line of
the input that is not blank, in their order, and each in the session that the requests before
have left, wherever the workers of its jobs have got to in between.  What is wrong with a request is
told in its answer and does not touch the session.

A line that is no text is the exception.  It is not answered, and the lines behind it are not
looked at any more.
-/

namespace Conch

/-! ## Requests -/

/-- A request that a session does something for. -/
def Request.IsProper (request : Request) : Prop :=
  request.channel = "nexshell:getHostInfo" ∨ request.channel = "nexshell:listJobs" ∨
    request.channel = Request.executeChannel ∧
      ∃ input, Request.inputOf request.payload = .ok input

/-- Anything else is answered with an error and leaves the session as it is. -/
theorem Session.answer_of_improper (session : Session) {line : String}
    (h : ∀ request, Request.read line = .ok request → ¬ request.IsProper) :
    ∃ detail, session.answer line =
      ((Outcome.failure 1 ("IPC error: " ++ detail)).toJson, session) := by
  unfold answer
  cases hread : Request.read line with
  | error problem => exact ⟨"malformed request: " ++ problem, rfl⟩
  | ok request =>
      have himproper := h request hread
      simp only [Request.IsProper, not_or, not_and, not_exists] at himproper
      obtain ⟨hhost, hjobs, hexecute⟩ := himproper
      simp only [answerRequest]
      split
      · next hchannel =>
          cases hinput : Request.inputOf request.payload with
          | ok input => exact absurd hinput (hexecute hchannel input)
          | error cause =>
              refine ⟨(Fault.payload cause).message, ?_⟩
              simp [executePayload, hinput, requestRefusal]
      · exact ⟨"unknown channel '" ++ request.channel ++ "'", by simp [requestRefusal]⟩

namespace Program

/-! ## Lines of the input -/

/-- A line without the carriage return that it may end with. -/
def chomped (line : List UInt8) : List UInt8 :=
  if line.getLast? = some 13 then line.dropLast else line

/-- The lines of an input: what stands before each line feed, and what follows the last one
unless it is empty. -/
inductive Cuts : List UInt8 → List (List UInt8) → Prop
  | nil : Cuts [] []
  | last {line : List UInt8} (hsome : line ≠ []) (hwhole : 10 ∉ line) : Cuts line [line]
  | line {line rest : List UInt8} {lines : List (List UInt8)} (hwhole : 10 ∉ line)
      (hrest : Cuts rest lines) : Cuts (line ++ 10 :: rest) (chomped line :: lines)

theorem go_cons {b : UInt8} (h : b ≠ 10) (before rest : List UInt8) :
    inputLines.go before (b :: rest) = inputLines.go (b :: before) rest := by
  rw [inputLines.go.eq_def]
  simp [h]

theorem go_feed (before rest : List UInt8) :
    inputLines.go before (10 :: rest) = chomped before.reverse :: inputLines.go [] rest := by
  rw [inputLines.go.eq_def]
  cases before with
  | nil => simp [chomped]
  | cons b before =>
      by_cases hb : b = 13
      · subst hb
        simp [chomped]
      · simp [chomped, hb]

theorem go_append {line : List UInt8} (hwhole : 10 ∉ line) (before rest : List UInt8) :
    inputLines.go before (line ++ rest) = inputLines.go (line.reverse ++ before) rest := by
  induction line generalizing before with
  | nil => rfl
  | cons b later ih =>
      rw [List.mem_cons, not_or] at hwhole
      have hb : b ≠ 10 := Ne.symm hwhole.1
      rw [List.cons_append, go_cons hb, ih hwhole.2, List.reverse_cons, List.append_assoc]
      rfl

theorem inputLines_last {line : List UInt8} (hsome : line ≠ []) (hwhole : 10 ∉ line) :
    inputLines line = [line] := by
  have hgo := go_append hwhole [] []
  rw [List.append_nil, List.append_nil] at hgo
  rw [inputLines, hgo, inputLines.go]
  simp [hsome]

theorem inputLines_line {line : List UInt8} (hwhole : 10 ∉ line) (rest : List UInt8) :
    inputLines (line ++ 10 :: rest) = chomped line :: inputLines rest := by
  rw [inputLines, go_append hwhole, List.append_nil, go_feed, List.reverse_reverse]
  rfl

/-- The program sees the lines of its input, and nothing else. -/
theorem cuts_iff (input : List UInt8) (lines : List (List UInt8)) :
    Cuts input lines ↔ lines = inputLines input := by
  constructor
  · intro h
    induction h with
    | nil => rfl
    | last hsome hwhole => rw [inputLines_last hsome hwhole]
    | line hwhole _ ih => rw [inputLines_line hwhole, ih]
  · rintro rfl
    induction hlength : input.length using Nat.strongRecOn generalizing input with
    | _ length ih =>
        by_cases hfeed : 10 ∈ input
        · obtain ⟨line, rest, hinput, hwhole⟩ := List.eq_append_cons_of_mem hfeed
          have hshorter : rest.length < length := by
            rw [← hlength, hinput]
            simp
            omega
          rw [hinput, inputLines_line hwhole]
          exact .line hwhole (ih rest.length hshorter rest rfl)
        · by_cases hsome : input = []
          · subst hsome
            exact .nil
          · rw [inputLines_last hsome hfeed]
            exact .last hsome hfeed

/-- The texts of lines, up to the first line that is no text. -/
def textsOf (lines : List (List UInt8)) : List (List Char) :=
  ((lines.map Text.Utf8.decode?).takeWhile Option.isSome).reduceOption

/-- The requests in lines: the texts that are not blank. -/
def requestsOf (lines : List (List UInt8)) : List String :=
  ((textsOf lines).filter fun text => !(Text.trim text).isEmpty).map String.ofList

theorem requestsOf_of_none {bytes : List UInt8} (h : Text.Utf8.decode? bytes = none)
    (rest : List (List UInt8)) : requestsOf (bytes :: rest) = [] := by
  simp [requestsOf, textsOf, h, List.reduceOption]

theorem requestsOf_of_some {bytes : List UInt8} {text : List Char}
    (h : Text.Utf8.decode? bytes = some text) (rest : List (List UInt8)) :
    requestsOf (bytes :: rest) =
      if (Text.trim text).isEmpty then requestsOf rest
      else String.ofList text :: requestsOf rest := by
  have htexts : textsOf (bytes :: rest) = text :: textsOf rest := by
    simp [textsOf, h, List.reduceOption_cons_of_some]
  rw [requestsOf, htexts]
  cases hblank : (Text.trim text).isEmpty <;> simp [hblank, requestsOf]

/-! ## The answers -/

/-- A run in which some requests have been answered. -/
def State.after (course : Course) (state : State) (requests : List String) : State :=
  requests.foldl (State.answer course) state

/-- The program answers the requests in lines, and nothing else. -/
theorem serveLines_eq (course : Course) (state : State) (lines : List (List UInt8)) :
    serveLines course state lines = state.after course (requestsOf lines) := by
  induction lines generalizing state with
  | nil => rfl
  | cons bytes rest ih =>
      rw [serveLines, serveLine?]
      cases htext : Text.Utf8.decode? bytes with
      | none =>
          rw [requestsOf_of_none htext]
          rfl
      | some text =>
          rw [requestsOf_of_some htext]
          cases hblank : (Text.trim text).isEmpty with
          | true =>
              simp only [Option.map_some, hblank, if_true]
              exact ih state
          | false =>
              simp only [Option.map_some, hblank, Bool.false_eq_true, if_false]
              exact ih _

/-- The texts of the answers to some requests. -/
def State.replies (course : Course) (state : State) (requests : List String) : List String :=
  requests.mapIdx fun i request =>
    ((state.after course (requests.take i)).session.answer request).1.render

/-- The messages that are logged for each of some requests. -/
def State.records (course : Course) (state : State) (requests : List String) :
    List (List String) :=
  requests.mapIdx fun i request =>
    messagesFor state.filter (course.duration (state.answers.length + i))
      (state.after course (requests.take i)).session request

theorem State.replies_cons (course : Course) (state : State) (request : String)
    (rest : List String) :
    state.replies course (request :: rest) =
      (state.session.answer request).1.render ::
        (state.answer course request).replies course rest :=
  List.mapIdx_cons ..

theorem State.records_cons (course : Course) (state : State) (request : String)
    (rest : List String) :
    state.records course (request :: rest) =
      messagesFor state.filter (course.duration state.answers.length) state.session request ::
        (state.answer course request).records course rest := by
  have hcount : ∀ i, (state.answer course request).answers.length + i =
      state.answers.length + (i + 1) := fun i => by
    simp only [answer, List.length_cons]
    omega
  simp only [records, hcount]
  exact List.mapIdx_cons ..

theorem State.answers_after (course : Course) (state : State) (requests : List String) :
    (state.after course requests).answers.reverse =
      state.answers.reverse ++ state.replies course requests := by
  induction requests generalizing state with
  | nil => exact (List.append_nil _).symm
  | cons request rest ih =>
      have hanswers : (state.answer course request).answers.reverse = state.answers.reverse ++
          [(state.session.answer request).1.render] := List.reverse_cons ..
      rw [replies_cons, after, List.foldl_cons, ← after, ih, hanswers, List.append_assoc]
      rfl

/-- A request leaves one message at most, so it does not matter from where they are read. -/
theorem reverse_messagesFor (filter : LogLevel) (microseconds : Nat) (session : Session)
    (request : String) :
    (messagesFor filter microseconds session request).reverse =
      messagesFor filter microseconds session request := by
  unfold messagesFor Log.messagesOf
  split
  · split <;> rfl
  · rfl

theorem State.logged_after (course : Course) (state : State) (requests : List String) :
    (state.after course requests).logged.reverse =
      state.logged.reverse ++ (state.records course requests).flatten := by
  induction requests generalizing state with
  | nil => exact (List.append_nil _).symm
  | cons request rest ih =>
      have hlogged : (state.answer course request).logged.reverse = state.logged.reverse ++
          messagesFor state.filter (course.duration state.answers.length) state.session
            request := by
        rw [answer, List.reverse_append, reverse_messagesFor]
      rw [records_cons, after, List.foldl_cons, ← after, ih, hlogged, List.flatten_cons,
        List.append_assoc]

/-- Answers that are printed one after another are the lines of the output. -/
theorem splitBy_printed {answers : List String}
    (h : ∀ answer ∈ answers, IsOneLine answer ∧ answer ≠ "") :
    Text.splitBy (· = '\n') (String.join (answers.map printed)).toList =
      answers.map String.toList ++ [[]] := by
  induction answers with
  | nil => rfl
  | cons answer rest ih =>
      obtain ⟨⟨hline, hsome⟩, hrest⟩ := List.forall_mem_cons.mp h
      have hwhole : ∀ c ∈ answer.toList, decide (c = '\n') = false := by
        intro c hc
        have hne : c ≠ '\n' := fun heq => hline (heq ▸ hc)
        simpa using hne
      have hprinted : (String.join ((answer :: rest).map printed)).toList =
          answer.toList ++ '\n' :: (String.join (rest.map printed)).toList := by
        simp [printed, hsome]
      rw [hprinted, Text.splitBy_append_cons (by decide), ih hrest, Text.splitBy_of_none hwhole]
      rfl

/-- Whether a line is a text. -/
def isText (bytes : List UInt8) : Bool :=
  (Text.Utf8.decode? bytes).isSome

/-- Whether a line is a blank text. -/
def isBlankLine (bytes : List UInt8) : Bool :=
  (Text.Utf8.decode? bytes).any fun text => (Text.trim text).isEmpty

/-- There is a request in every line that is not blank, up to the first that is no text. -/
theorem length_requestsOf (lines : List (List UInt8)) :
    (requestsOf lines).length =
      ((lines.takeWhile isText).filter fun bytes => !isBlankLine bytes).length := by
  induction lines with
  | nil => simp [requestsOf, textsOf, List.reduceOption]
  | cons bytes rest ih =>
      cases htext : Text.Utf8.decode? bytes with
      | none =>
          have hbroken : isText bytes = false := by simp [isText, htext]
          rw [requestsOf_of_none htext, List.takeWhile_cons, hbroken]
          rfl
      | some text =>
          have hwhole : isText bytes = true := by simp [isText, htext]
          have hline : isBlankLine bytes = (Text.trim text).isEmpty := by simp [isBlankLine, htext]
          rw [requestsOf_of_some htext, List.takeWhile_cons, hwhole]
          cases hblank : (Text.trim text).isEmpty with
          | true => simpa [hline, hblank] using ih
          | false => simpa [hline, hblank] using ih

theorem isOneLine_of_mem_replies {course : Course} {state : State} {requests : List String} :
    ∀ answer ∈ state.replies course requests, IsOneLine answer ∧ answer ≠ "" := by
  intro answer hmem
  obtain ⟨i, hi, rfl⟩ := List.mem_mapIdx.mp hmem
  exact ⟨Json.isOneLine_render _, Json.render_ne_empty _⟩

/-- What the program does without arguments. -/
theorem run_nil (course : Course) (input : List UInt8) (machine : Machine) :
    let first := start (configure machine).1 machine
    let requests := requestsOf (inputLines input)
    run course [] input machine =
      ⟨String.join ((first.replies course requests).map printed), (configure machine).2, 0,
        (first.records course requests).flatten,
        (first.after course requests).session.machine⟩ := by
  intro first requests
  have hanswers : (first.after course requests).answers.reverse = first.replies course requests :=
    first.answers_after course requests
  have hlogged : (first.after course requests).logged.reverse =
      (first.records course requests).flatten := first.logged_after course requests
  rw [← hanswers, ← hlogged, ← serveLines_eq]
  rfl

/-- **What is answered.**  Whatever its input is, and however far the workers of jobs get between
two lines, the program writes one line of JSON for each line of the input that is not blank, up to
the first line that is no text.  The answers are in the order of the lines, each from the session
that the requests before have left.  A request that is not proper is answered with an error and
leaves the session as it was. -/
theorem run_serves (course : Course) (input : List UInt8) (machine : Machine) :
    let first := start (configure machine).1 machine
    let result := run course [] input machine
    ∃ (lines : List (List UInt8)) (answers : List String), Cuts input lines ∧
      Text.splitBy (· = '\n') result.stdout.toList = answers.map String.toList ++ [[]] ∧
      answers.length = ((lines.takeWhile isText).filter fun bytes => !isBlankLine bytes).length ∧
      (∀ i, answers[i]? = (requestsOf lines)[i]?.map fun request =>
        ((first.after course ((requestsOf lines).take i)).session.answer request).1.render) ∧
      (∀ i request, (requestsOf lines)[i]? = some request →
        (∀ proper, Request.read request = .ok proper → ¬ proper.IsProper) →
        let before := (first.after course ((requestsOf lines).take i)).session
        ∃ detail, before.answer request =
          ((Outcome.failure 1 ("IPC error: " ++ detail)).toJson, before)) ∧
      result.exitCode = 0 ∧
      result.logged = (first.records course (requestsOf lines)).flatten ∧
      result.machine = (first.after course (requestsOf lines)).session.machine := by
  intro first result
  have hrun : result = _ := run_nil course input machine
  refine ⟨inputLines input, first.replies course (requestsOf (inputLines input)),
    (cuts_iff input _).mpr rfl, ?_, ?_, fun i => List.getElem?_mapIdx .., ?_, ?_, ?_, ?_⟩
  · rw [hrun]
    exact splitBy_printed isOneLine_of_mem_replies
  · rw [State.replies, List.length_mapIdx, length_requestsOf]
  · intro i request _ himproper
    exact Session.answer_of_improper _ himproper
  · rw [hrun]
  · rw [hrun]
  · rw [hrun]

/-- A request behind a line that is no text. -/
def brokenInput : List UInt8 :=
  [0xFF, 10] ++ Text.Utf8.encode "\x7b\"channel\":\"x\"\x7d\n".toList

/-- A line that is no text leaves itself and all requests behind it without an answer, whatever the
workers do. -/
theorem run_unanswered :
    ¬ ∀ (input : List UInt8) (machine : Machine), ∃ (course : Course) (answers : List String),
      Text.splitBy (· = '\n') (run course [] input machine).stdout.toList =
        answers.map String.toList ++ [[]] ∧
      answers.length = ((inputLines input).filter fun bytes => !isBlankLine bytes).length := by
  intro h
  obtain ⟨course, answers, hlines, hcount⟩ := h brokenInput .blank
  have hnone : requestsOf (inputLines brokenInput) = [] := by decide +kernel
  have hempty : answers = [] := by
    rw [run_nil, hnone] at hlines
    simpa [State.replies, Text.splitBy] using hlines
  have htwo : ((inputLines brokenInput).filter fun bytes => !isBlankLine bytes).length = 2 := by
    decide +kernel
  rw [hempty, htwo] at hcount
  cases hcount

end Program

end Conch
