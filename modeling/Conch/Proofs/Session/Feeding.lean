import Conch.Proofs.Builtin.Readers
import Conch.Proofs.Files.Delivery
import Conch.Proofs.Session.Foreground

/-!
# Three ways to feed a filter

A file is fed to a line filter by name, by redirection, or through `cat`.  The filter itself
reads the file by name only, and only if it has no input that is not empty.  So the three ways
agree on every file but the empty one, for which the last two have neither input nor file.
-/

namespace Conch

namespace Builtin

section Input

variable {readPattern : String → Except String (List Char → Bool)} {name : String}
  {run : List String → Context → Machine → Outcome} {words : List String}
  {selection : Selection} {context : Context} {machine : Machine} {file text : String}

/-- A filter without input reads the file behind its words. -/
theorem IsFilter.run_of_file (h : IsFilter readPattern name run words selection)
    (hstdin : context.stdin = none) (hread : context.readText machine file = .ok text) :
    run (words ++ [file]) context machine = Outcome.success (selection.output text) := by
  refine h.run_of_text ?_
  simp only [inputText, hstdin, Option.filter_none, List.head?_cons, hread]
  rfl

/-- A filter without a file works on its input, unless that is empty. -/
theorem IsFilter.run_of_stdin (h : IsFilter readPattern name run words selection)
    (hstdin : context.stdin = some text) :
    run words context machine =
      if text.isEmpty then inputMissing name
      else Outcome.success (selection.output text) := by
  rw [← List.append_nil words]
  split
  · next hempty =>
      refine h.run_of_none ?_
      simp [inputText, hstdin, Option.filter, hempty]
  · next hfilled =>
      refine h.run_of_text ?_
      simp [inputText, hstdin, Option.filter, hfilled]

theorem cat_of_file (hread : context.readText machine file = .ok text) :
    cat [file] context machine = Outcome.success text := by
  simp [cat, readFiles, hread, String.join]

end Input

end Builtin

namespace Session

/-- A session finds a regular file with these octets under the name that a user gives it, and may
read it. -/
def Holds (session : Session) (file : String) (bytes : List UInt8) : Prop :=
  ∃ path, Path.resolve (some file) session.directory = .ok path ∧
    session.machine.files.Offers path bytes

section Feeding

variable {session : Session}

/-- A line is answered with what its pipeline returns. -/
theorem execute_of_returned {source : String} {stages : List Line.Stage} {outcome : Outcome}
    (hasks : Line.Asks source stages) (hsome : stages ≠ [])
    (hreturned : (session.nextReport stages).ending = .returned outcome) :
    (session.execute source).1 = outcome := by
  rw [execute_of_asks hasks hsome, hreturned]
  rfl

theorem readText_of_holds {file : String} {bytes : List UInt8} (hholds : session.Holds file bytes)
    (hlength : bytes.length ≤ Limits.fileRead) :
    session.nextContext.readText session.nextMachine file = .ok (Files.textOf bytes) := by
  obtain ⟨path, hpath, hfile⟩ := hholds
  exact Context.readText_of_file session.isFired_nextMachine hpath hfile hlength

/-- However a file within the cap is fed to a filter, what the filter selects from its text comes
out, unless the file is empty: then only the filter that is given its name finds it. -/
theorem execute_fed (hregistry : session.registry = Builtin.registry) {name : String}
    {run : List String → Context → Machine → Outcome} {words : List String}
    {selection : Builtin.Selection}
    (hfilter : Builtin.IsFilter Pattern.search name run words selection) {file : String}
    {bytes : List UInt8} (hholds : session.Holds file bytes)
    (hlength : bytes.length ≤ Limits.fileRead) {named redirected piped : String}
    (hnamed : Line.Asks named [⟨name, words ++ [file], .inherit, .inherit⟩])
    (hredirected : Line.Asks redirected [⟨name, words, .file file, .inherit⟩])
    (hpiped : Line.Asks piped
      [⟨"cat", [file], .inherit, .inherit⟩, ⟨name, words, .piped, .inherit⟩]) :
    let answer := Outcome.success (selection.output (Files.textOf bytes))
    let fed := if bytes.isEmpty then Builtin.inputMissing name else answer
    (session.execute named).1 = answer ∧ (session.execute redirected).1 = fed ∧
      (session.execute piped).1 = fed := by
  have hlive := session.isFired_nextMachine
  have hread := readText_of_holds hholds hlength
  have hfed : run words { session.nextContext with stdin := some (Files.textOf bytes) }
        session.nextMachine =
      if bytes.isEmpty then Builtin.inputMissing name
      else Outcome.success (selection.output (Files.textOf bytes)) := by
    rw [hfilter.run_of_stdin rfl, Files.isEmpty_textOf]
  obtain ⟨command, hreader⟩ := hfilter.isReader
  obtain ⟨source, hcat⟩ := Builtin.isReader_cat
  refine ⟨execute_of_returned hnamed (List.cons_ne_nil _ _) ?_,
    execute_of_returned hredirected (List.cons_ne_nil _ _) ?_,
    execute_of_returned hpiped (List.cons_ne_nil _ _) ?_⟩
  · rw [nextReport, hregistry, ← hfilter.run_of_file rfl hread]
    exact hreader.ending_run rfl hlive rfl (.piped fun _ => rfl)
  · rw [nextReport, hregistry, ← hfed]
    exact hreader.ending_run rfl hlive rfl (.file file _ rfl rfl hread)
  · rw [nextReport, hregistry, ← hfed]
    exact hreader.ending_run_piped rfl hlive hcat rfl rfl (.piped fun _ => rfl)
      (Builtin.cat_of_file hread)

end Feeding

/-- A session beside a file `f` with the lines `b` and `a`, and an empty file `e`. -/
def atDesk : Session :=
  let files : Files.Store :=
    ⟨[([Path.ofText "f"], .file [98, 10, 97, 10]), ([Path.ofText "e"], .file [])], [], []⟩
  start Builtin.registry .standard [Path.slash] { Machine.blank with files := files }

theorem execute_fed_atDesk :
    atDesk.Holds "f" [98, 10, 97, 10] ∧
      Line.Asks "unique f" [⟨"unique", ["f"], .inherit, .inherit⟩] ∧
      Line.Asks "unique < f" [⟨"unique", [], .file "f", .inherit⟩] ∧
      Line.Asks "cat f | unique"
        [⟨"cat", ["f"], .inherit, .inherit⟩, ⟨"unique", [], .piped, .inherit⟩] ∧
      (atDesk.execute "unique f").1 = Outcome.success "b\na" ∧
      (atDesk.execute "unique < f").1 = Outcome.success "b\na" ∧
      (atDesk.execute "cat f | unique").1 = Outcome.success "b\na" := by
  have hholds : atDesk.Holds "f" [98, 10, 97, 10] :=
    ⟨Path.ofText "/f", by decide +kernel, [Path.ofText "f"], by decide +kernel, by decide +kernel⟩
  have hnamed : Line.Asks "unique f" [⟨"unique", [] ++ ["f"], .inherit, .inherit⟩] := by
    decide +kernel
  have hredirected : Line.Asks "unique < f" [⟨"unique", [], .file "f", .inherit⟩] := by
    decide +kernel
  have hpiped : Line.Asks "cat f | unique"
      [⟨"cat", ["f"], .inherit, .inherit⟩, ⟨"unique", [], .piped, .inherit⟩] := by
    decide +kernel
  have houtput : Builtin.Selection.first.output (Files.textOf [98, 10, 97, 10]) = "b\na" := by
    decide +kernel
  have hfed := execute_fed rfl .unique hholds (by decide) hnamed hredirected hpiped
  rw [houtput] at hfed
  exact ⟨hholds, hnamed, hredirected, hpiped, hfed⟩

/-- The three ways do not agree on the empty file. -/
theorem execute_fed_apart :
    atDesk.Holds "e" [] ∧
      (atDesk.execute "unique e").1 = Outcome.success "" ∧
      (atDesk.execute "unique < e").1 =
        Outcome.failure 1 "unique: file required or stdin expected" ∧
      (atDesk.execute "cat e | unique").1 =
        Outcome.failure 1 "unique: file required or stdin expected" :=
  ⟨⟨Path.ofText "/e", by decide +kernel, [Path.ofText "e"], by decide +kernel, by decide +kernel⟩,
    by decide +kernel, by decide +kernel, by decide +kernel⟩

end Session

end Conch
