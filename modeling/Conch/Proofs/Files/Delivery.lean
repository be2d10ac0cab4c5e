import Conch.Machine
import Conch.Proofs.Files.Streams
import Conch.Proofs.Text.Lossy

/-!
# What reading a file delivers

A regular file within the cap is read to its end, however many turns that takes, and its text is
the lossy decoding of its octets.  Only an empty file has an empty text: octets that form no
character leave a replacement behind.
-/

namespace Conch

namespace Files

/-- The text of a file with these octets. -/
def textOf (bytes : List UInt8) : String :=
  String.ofList (Text.Utf8.decodeLossy bytes)

theorem isEmpty_textOf (bytes : List UInt8) : (textOf bytes).isEmpty = bytes.isEmpty := by
  have hnil : Text.Utf8.decodeLossy bytes = [] ↔ bytes = [] :=
    Text.Utf8.decodeLossy_eq_iff (by simp) bytes
  rw [Bool.eq_iff_iff, String.isEmpty_iff, List.isEmpty_iff, ← hnil, ← String.toList_eq_nil_iff,
    textOf, String.toList_ofList]

/-- A path names a regular file with these octets, and the file may be read. -/
def Store.Offers (store : Store) (path : Path) (bytes : List UInt8) : Prop :=
  ∃ location, store.find path = .ok (location, .file bytes) ∧ store.allows location .read = true

theorem Store.readText_of_file {store : Store} {cancelled : Nat → Bool} {path : Path}
    {bytes : List UInt8} (hlive : ∀ turn, cancelled turn = false)
    (hfile : store.Offers path bytes) (hlength : bytes.length ≤ Limits.fileRead) :
    store.readText cancelled path = .ok (textOf bytes) := by
  obtain ⟨location, hfound, hallowed⟩ := hfile
  have hall : (Source.ofBytes bytes).readAll cancelled Limits.fileRead = .ok bytes :=
    (readAll_of_live Limits.fileRead (delivers_ofBytes bytes) hlive).1 bytes rfl hlength
  simp only [Store.readText, hfound, readEntry, Entry.reportedLength, Store.openForReading,
    hallowed, if_true, Entry.source, hall, if_neg (Nat.not_lt.mpr hlength)]
  rfl

end Files

namespace Context

variable {context : Context} {machine : Machine}

theorem resolve_eq_ok_iff {target : Option String} {path : Path} :
    context.resolve target = .ok path ↔ Path.resolve target context.directory = .ok path := by
  unfold resolve
  split
  · next hpath => simp [hpath]
  · next hpath => simp [hpath]

theorem check_of_live (h : machine.isFired context.token = false) :
    context.check machine = .ok () := by
  simp [check, isCancelled, h]

/-- A pipeline reads a regular file to its end. -/
theorem readText_of_file {file : String} {path : Path} {bytes : List UInt8}
    (hlive : machine.isFired context.token = false)
    (hpath : Path.resolve (some file) context.directory = .ok path)
    (hfile : machine.files.Offers path bytes)
    (hlength : bytes.length ≤ Limits.fileRead) :
    context.readText machine file = .ok (Files.textOf bytes) := by
  have hread : machine.files.readText (fun _ => context.isCancelled machine) path =
      .ok (Files.textOf bytes) :=
    Files.Store.readText_of_file (fun _ => hlive) hfile hlength
  simp only [readText, check_of_live hlive, resolve_eq_ok_iff.mpr hpath, hread, bind, Except.bind]
  rfl

end Context

end Conch
