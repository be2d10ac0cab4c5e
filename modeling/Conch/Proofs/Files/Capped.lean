import Conch.Proofs.Files.Delivery
import Conch.Proofs.Files.Requests
import Conch.Proofs.Text.Utf8

/-!
# Capped reading

The system reports a length for a file before it is opened, and the stream that the file then
delivers need not agree with that.  A reading has a result exactly if both are within the cap, and
the octets are decoded as a whole, wherever the chunks end.
-/

namespace Conch

/-! ## Reading what a user names -/

open Files (Metadata Source OsError)

/-- A capped reading of the file that a user names.  It takes what the system tells of a path and
what it gives when the path is opened as two things that need not agree, and looks up a wish to
stop when it is called, for the time 0, and before the turn `n`, for the time `n + 1`. -/
def Context.readFrom (context : Context) (cancelled : Nat → Bool)
    (status : Path → Except OsError Metadata) (opened : Path → Except OsError Source)
    (target : String) : Except Fault String :=
  if cancelled 0 then .error .aborted
  else
    match context.resolve (some target) with
    | .error fault => .error fault
    | .ok path =>
        match status path with
        | .error error => .error (Fault.ofReading target (.failed .stat error))
        | .ok metadata =>
            if metadata.isDirectory then
              .error (Fault.ofReading target (.failed .reading .directoryAsFile))
            else
              match Files.readEntry (fun turn => cancelled (turn + 1)) Limits.fileRead
                  metadata.length (opened path) with
              | .error cause => .error (Fault.ofReading target cause)
              | .ok text => .ok (String.ofList text)

/-- Reading on a machine takes both from the store, and looks up the flag of the pipeline. -/
theorem Context.readText_eq (context : Context) (machine : Machine) (target : String) :
    context.readText machine target =
      context.readFrom (fun _ => context.isCancelled machine)
        (fun path => (Files.Request.answer (.status path) machine.files).1)
        (fun path => (Files.Request.answer (.openForReading path) machine.files).1) target := by
  simp only [readText, readFrom, check]
  cases context.isCancelled machine with
  | true => rfl
  | false =>
      cases context.resolve (some target) with
      | error fault => rfl
      | ok path =>
          simp only [bind, Except.bind, Files.Store.readText, Files.Request.answer]
          unfold Files.Store.status
          cases machine.files.find path with
          | error error => rfl
          | ok found =>
              obtain ⟨location, entry⟩ := found
              cases entry with
              | directory => rfl
              | file | link | device =>
                  simp only [Except.map, Files.Entry.metadata, reduceCtorEq, decide_false,
                    Bool.false_eq_true, if_false]
                  generalize Files.readEntry _ _ _ _ = read
                  cases read <;> rfl

section ReadFrom

variable {context : Context} {cancelled : Nat → Bool}
  {status : Path → Except OsError Metadata} {opened : Path → Except OsError Source}
  {target : String} {path : Path} {reported : Nat}

theorem Context.readFrom_of_reported (hcalled : cancelled 0 = false)
    (hpath : context.resolve (some target) = .ok path)
    (hstatus : status path = .ok ⟨false, reported⟩) (hlong : Limits.fileRead < reported) :
    context.readFrom cancelled status opened target =
      .error (.tooLarge ("File " ++ target) Limits.fileRead) := by
  simp only [readFrom, hcalled, hpath, hstatus, Files.readEntry, if_pos hlong, Bool.false_eq_true,
    if_false, Fault.ofReading]

theorem Context.readFrom_of_source {source : Source} (hcalled : cancelled 0 = false)
    (hpath : context.resolve (some target) = .ok path)
    (hstatus : status path = .ok ⟨false, reported⟩) (hwithin : reported ≤ Limits.fileRead)
    (hopened : opened path = .ok source) :
    context.readFrom cancelled status opened target =
      match source.readAll (fun turn => cancelled (turn + 1)) Limits.fileRead with
      | .error cause => .error (Fault.ofReading target cause)
      | .ok bytes => .ok (Files.textOf bytes) := by
  simp only [readFrom, hcalled, hpath, hstatus, Files.readEntry, hopened,
    if_neg (Nat.not_lt.mpr hwithin), Bool.false_eq_true, if_false]
  cases source.readAll (fun turn => cancelled (turn + 1)) Limits.fileRead <;> rfl

/-- A reading that nobody stops has the decoded stream, or is refused as too large. -/
theorem Context.readFrom_of_live {source : Source} {stream : Stream'.Seq UInt8}
    (hlive : ∀ look, cancelled look = false)
    (hpath : context.resolve (some target) = .ok path)
    (hstatus : status path = .ok ⟨false, reported⟩) (hopened : opened path = .ok source)
    (hdelivers : source.Delivers stream) :
    (∀ bytes, reported ≤ Limits.fileRead → stream = Stream'.Seq.ofList bytes →
        bytes.length ≤ Limits.fileRead →
        context.readFrom cancelled status opened target = .ok (Files.textOf bytes)) ∧
      (Limits.fileRead < reported ∨ Limits.fileRead < stream.length' →
        context.readFrom cancelled status opened target =
          .error (.tooLarge ("File " ++ target) Limits.fileRead)) := by
  obtain ⟨hshort, hlong⟩ := Files.readAll_of_live Limits.fileRead hdelivers
    fun turn => hlive (turn + 1)
  refine ⟨fun bytes hwithin hbytes hlength => ?_, fun htoo => ?_⟩
  · rw [readFrom_of_source (hlive 0) hpath hstatus hwithin hopened, hshort bytes hbytes hlength]
  · by_cases hwithin : reported ≤ Limits.fileRead
    · have hstream := htoo.resolve_left (Nat.not_lt.mpr hwithin)
      rw [readFrom_of_source (hlive 0) hpath hstatus hwithin hopened, hlong hstream]
      rfl
    · exact readFrom_of_reported (hlive 0) hpath hstatus (Nat.lt_of_not_le hwithin)

/-- A capped reading is exact.  The system reports a length for a path that is no directory, and
the file that is opened then delivers a stream, which may be longer or shorter or without an end, in
chunks of any sizes.

Unless it is stopped, the reading has a result exactly if the report and the stream are within the
cap.  The result is the lossy decoding of the whole stream, and the text that is encoded in it if
there is one.  Otherwise the reading is refused as too large.  However far it has come, it has taken
at most one octet more than the cap, and it does not depend on what lies beyond.  A wish to stop
that is found when it is called, or in front of any turn after those made, aborts it.  Reading on a
machine is reading in this sense. -/
theorem Context.readFrom_exact {source : Source} {stream : Stream'.Seq UInt8}
    (hpath : context.resolve (some target) = .ok path)
    (hstatus : status path = .ok ⟨false, reported⟩) (hopened : opened path = .ok source)
    (hdelivers : source.Delivers stream) :
    ((∀ look, cancelled look = false) →
      (∀ text, context.readFrom cancelled status opened target = .ok text ↔
        reported ≤ Limits.fileRead ∧ stream.length' ≤ Limits.fileRead ∧
          ∃ bytes, stream = Stream'.Seq.ofList bytes ∧ text = Files.textOf bytes) ∧
      (∀ text : String, stream = Stream'.Seq.ofList (Text.Utf8.encode text.toList) →
        reported ≤ Limits.fileRead → stream.length' ≤ Limits.fileRead →
        context.readFrom cancelled status opened target = .ok text) ∧
      (Limits.fileRead < reported ∨ Limits.fileRead < stream.length' →
        context.readFrom cancelled status opened target =
          .error (.tooLarge ("File " ++ target) Limits.fileRead))) ∧
    (∀ turns taken, source.Took Limits.fileRead turns taken →
      taken.length ≤ Limits.fileRead + 1) ∧
    (∀ other : Source,
      (∀ offset count, offset + count ≤ Limits.fileRead + 1 →
        other.read offset count = source.read offset count) →
      context.readFrom cancelled status (fun _ => .ok other) target =
        context.readFrom cancelled status opened target) ∧
    (cancelled 0 = true → context.readFrom cancelled status opened target = .error .aborted) ∧
    (∀ turns taken, source.Took Limits.fileRead turns taken → reported ≤ Limits.fileRead →
      (∀ look ≤ turns, cancelled look = false) → cancelled (turns + 1) = true →
      context.readFrom cancelled status opened target = .error .aborted) ∧
    ∀ machine : Machine, context.readText machine target =
      context.readFrom (fun _ => context.isCancelled machine)
        (fun path => (Files.Request.answer (.status path) machine.files).1)
        (fun path => (Files.Request.answer (.openForReading path) machine.files).1) target := by
  refine ⟨fun hlive => ?_, fun turns taken htook => (htook.taken_eq hdelivers).2.2,
    fun other hsame => ?_, fun hcalled => ?_, fun turns taken htook hwithin hearlier hstop => ?_,
    fun machine => context.readText_eq machine target⟩
  · obtain ⟨hshort, hlong⟩ := readFrom_of_live hlive hpath hstatus hopened hdelivers
    refine ⟨fun text => ⟨fun htext => ?_, ?_⟩, fun text hstream hwithin hlength => ?_, hlong⟩
    -- a text is not the refusal, so neither cap is passed and the stream ends
    · have hcaps : ¬(Limits.fileRead < reported ∨ Limits.fileRead < stream.length') := fun htoo =>
        nomatch (hlong htoo).symm.trans htext
      obtain ⟨hwithin, hlength⟩ := not_or.mp hcaps
      obtain ⟨bytes, rfl⟩ := Files.exists_ofList_of_length'_le (not_lt.mp hlength)
      have hread := hshort bytes (Nat.le_of_not_lt hwithin) rfl
        (Files.length'_ofList_le_iff.mp (not_lt.mp hlength))
      exact ⟨Nat.le_of_not_lt hwithin, not_lt.mp hlength, bytes, rfl,
        (Except.ok.inj (hread.symm.trans htext)).symm⟩
    · rintro ⟨hwithin, hlength, bytes, rfl, rfl⟩
      exact hshort bytes hwithin rfl (Files.length'_ofList_le_iff.mp hlength)
    · subst hstream
      rw [hshort _ hwithin rfl (Files.length'_ofList_le_iff.mp hlength), Files.textOf,
        Text.Utf8.decodeLossy_encode, String.ofList_toList]
  -- no turn asks for more than one octet beyond the cap
  · have hdrain := Files.drain_congr hsame (fun turn => cancelled (turn + 1))
      (Limits.fileRead + 2) 0 []
    simp only [readFrom, hpath, hstatus, Files.readEntry, hopened, Source.readAll, hdrain]
  · simp only [readFrom, hcalled, if_true]
  · have hstopped := Files.drain_of_cancelled hdelivers htook
      (fun turn hturn => hearlier (turn + 1) hturn) hstop
    rw [readFrom_of_source (hearlier 0 (Nat.zero_le _)) hpath hstatus hwithin hopened]
    simp only [Source.readAll, hstopped, Fault.ofReading]

/-- An open file that delivers a stream one octet at a time. -/
def dribble (stream : Stream'.Seq UInt8) : Source :=
  ⟨fun offset _ => .ok ((stream.drop offset).take 1)⟩

theorem delivers_dribble (stream : Stream'.Seq UInt8) : (dribble stream).Delivers stream :=
  fun _ _ hcount => ⟨1, Nat.one_pos, hcount, rfl⟩

/-- A character that comes in two chunks from a file that has shrunk, left alone and stopped between
the chunks. -/
theorem Context.readFrom_exact_dribbled :
    let context : Context := ⟨.standard, [Path.slash], none, .line 0⟩
    let status := fun _ : Path => (.ok ⟨false, 9⟩ : Except OsError Metadata)
    let stream := Stream'.Seq.ofList (Text.Utf8.encode ['é'])
    let opened := fun _ : Path => (.ok (dribble stream) : Except OsError Source)
    context.resolve (some "note") = .ok (Path.ofText "/note") ∧ (dribble stream).Delivers stream ∧
      context.readFrom (fun _ => false) status opened "note" = .ok "é" ∧
      context.readFrom (fun look => look = 2) status opened "note" = .error .aborted := by
  intro context status stream opened
  have hpath : context.resolve (some "note") = .ok (Path.ofText "/note") := by decide +kernel
  have hwithin : (9 : Nat) ≤ Limits.fileRead := by decide
  have hfirst : (dribble stream).Took Limits.fileRead 1 [0xC3] :=
    .turn .start (Nat.zero_le _) rfl (List.cons_ne_nil _ _)
  obtain ⟨hlive, -⟩ := @readFrom_exact context (fun _ => false) status opened
    "note" (Path.ofText "/note") 9 (dribble stream) stream hpath rfl rfl (delivers_dribble stream)
  obtain ⟨-, -, -, -, hstops, -⟩ := @readFrom_exact context (fun look => look = 2) status opened
    "note" (Path.ofText "/note") 9 (dribble stream) stream hpath rfl rfl (delivers_dribble stream)
  refine ⟨hpath, delivers_dribble stream, ?_, ?_⟩
  · refine (hlive fun _ => rfl).2.1 "é" rfl hwithin (Files.length'_ofList_le_iff.mpr ?_)
    decide
  · refine hstops 1 _ hfirst hwithin (fun look hlook => decide_eq_false ?_) (decide_eq_true rfl)
    omega

end ReadFrom

end Conch
