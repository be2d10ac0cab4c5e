import Conch.Builtin.Listing
import Conch.Files.Writing
import Conch.Proofs.Path.Rooted

/-!
# Requests to the files

`Consults P Q f` says how a computation touches files: it makes requests, each of which
satisfies `P`, goes on with the answers, and touches the files in no other way.
Its results satisfy `Q`, whatever the answers are.  `Asks` says the same of a computation
on a machine, which may use the rest of the machine freely.  Requests with rooted paths are
answered the same wherever relative paths start.
-/

namespace Conch

namespace Files

/-! ## Requests and their answers -/

/-- What the system tells about an entry without opening it. -/
structure Metadata where
  isDirectory : Bool
  length : Nat
  deriving DecidableEq, Repr

/-- What the system tells about an entry. -/
def Entry.metadata (entry : Entry) : Metadata :=
  ⟨entry = .directory, entry.reportedLength⟩

/-- What can be asked of files. -/
inductive Request where
  /-- What a path names. -/
  | status (path : Path)
  /-- The names in a directory. -/
  | list (path : Path)
  /-- What the entry with a name in a directory counts as. -/
  | entry (directory : Path) (name : Name)
  /-- Opening a file for reading. -/
  | openForReading (path : Path)
  /-- Opening a file for writing, and writing octets to it. -/
  | write (path : Path) (append : Bool) (bytes : List UInt8)

namespace Request

/-- What is given for an answer.  A file that could be opened for writing may still fail to
take the octets. -/
def Reply : Request → Type
  | status _ => Except OsError Metadata
  | list _ => Except OsError (List Name)
  | entry _ _ => Except OsError Metadata
  | openForReading _ => Except OsError Source
  | write _ _ _ => Except OsError (Except OsError Unit)

/-- The answer of a store, and the store after it. -/
def answer : (request : Request) → Store → request.Reply × Store
  | status path, files => ((files.status path).map Entry.metadata, files)
  | list path, files => ((files.list path).map (·.2), files)
  | entry directory name, files =>
      (match files.find directory with
        | .ok (location, _) =>
            (Builtin.entryBehind files directory location name).map Entry.metadata
        | .error error => .error error, files)
  | openForReading path, files =>
      ((files.find path).bind fun found => files.openForReading found.1 found.2, files)
  | write path append bytes, files =>
      match files.openForWriting path append with
      | .error error => (.error error, files)
      | .ok opened =>
          match opened.write bytes with
          | .error error => (.ok (.error error), opened.store)
          | .ok written => (.ok (.ok ()), written)

/-- The path of a request is rooted.  That of an entry consists of the path of its directory and
its name; the names come from the system, not from the user. -/
def IsRooted : Request → Prop
  | status path => Path.Rooted path
  | list path => Path.Rooted path
  | entry directory name =>
      Path.Rooted directory ∧ (Path.IsName name → Path.Rooted (Path.join directory name))
  | openForReading path => Path.Rooted path
  | write path _ _ => Path.Rooted path

end Request

/-! ## Computations that make requests -/

/-- A computation that makes requests that satisfy `P`, touches the files in no other way, and
comes to results that satisfy `Q`. -/
inductive Consults {α : Type} (P : Request → Prop) (Q : α → Prop) : (Store → α × Store) → Prop
  /-- It has come to a result. -/
  | done {result : α} (hresult : Q result) : Consults P Q fun files => (result, files)
  /-- It makes a request and goes on with the answer. -/
  | ask (request : Request) (hrequest : P request) (next : request.Reply → Store → α × Store)
      (hnext : ∀ reply, Consults P Q (next reply)) :
      Consults P Q fun files => next (request.answer files).1 (request.answer files).2

section Consults

variable {α β : Type} {P : Request → Prop} {Q : α → Prop} {R : β → Prop}

theorem Consults.congr {f g : Store → α × Store} (h : Consults P Q f)
    (hsame : ∀ files, g files = f files) : Consults P Q g := by
  obtain rfl : g = f := funext hsame
  exact h

/-- Its results are as they should be on every store. -/
theorem Consults.result {f : Store → α × Store} (h : Consults P Q f) (files : Store) :
    Q (f files).1 := by
  induction h generalizing files with
  | done hresult => exact hresult
  | ask _ _ _ _ ih => exact ih _ _

/-- One computation after another. -/
theorem Consults.bind {f : Store → α × Store} {g : α → Store → β × Store}
    (hf : Consults P Q f) (hg : ∀ result, Q result → Consults P R (g result)) :
    Consults P R fun files => g (f files).1 (f files).2 := by
  induction hf with
  | done hresult => exact hg _ hresult
  | ask request hrequest next _ ih =>
      exact .ask request hrequest
        (fun reply files => g (next reply files).1 (next reply files).2) ih

/-- What is made of the result does not matter. -/
theorem Consults.map {f : Store → α × Store} (h : Consults P Q f) (g : α → β)
    (hg : ∀ result, Q result → R (g result)) :
    Consults P R fun files => (g (f files).1, (f files).2) :=
  h.bind (g := fun result files => (g result, files)) fun result hresult =>
    .done (hg result hresult)

theorem Consults.mapAny {f : Store → α × Store} (h : Consults P Q f) (g : α → β) :
    Consults P (fun _ => True) fun files => (g (f files).1, (f files).2) :=
  h.map g fun _ _ => trivial

/-- A single request. -/
theorem Consults.once (request : Request) (h : P request) :
    Consults P (fun _ => True) request.answer :=
  .ask request h (fun reply files => (reply, files)) fun _ => .done trivial

end Consults

/-- What can be listed is a directory. -/
theorem find_of_list {store : Store} {path : Path} {found : Location × List Name}
    (h : store.list path = .ok found) : store.find path = .ok (found.1, .directory) := by
  unfold Store.list at h
  cases hfind : store.find path with
  | error error =>
      rw [hfind] at h
      cases h
  | ok there =>
      obtain ⟨location, entry⟩ := there
      rw [hfind] at h
      cases entry with
      | directory =>
          simp only [bind, Except.bind] at h
          split at h
          · obtain rfl := Except.ok.inj h
            rfl
          · cases h
      | file | link | device => cases h

/-! ## Reading a file -/

/-- Reading a text asks for the status of the file, and opens it if it is not too long. -/
theorem consults_readText {path : Path} (h : Path.Rooted path)
    (cancelled : Nat → Bool) :
    Consults Request.IsRooted (fun _ => True) fun files =>
      (files.readText cancelled path, files) := by
  have hopen : ∀ metadata : Metadata, Consults Request.IsRooted (fun _ => True) fun files =>
      (((readEntry cancelled Limits.fileRead metadata.length
        (Request.answer (.openForReading path) files).1).map String.ofList), files) :=
    fun metadata => (Consults.once (.openForReading path) h).mapAny fun opened =>
      (readEntry cancelled Limits.fileRead metadata.length opened).map String.ofList
  refine Consults.congr (.ask (.status path) h
    (fun reply files => match reply with
      | .error error => (.error (.failed .stat error), files)
      | .ok metadata =>
          if metadata.isDirectory then (.error (.failed .reading .directoryAsFile), files)
          else if Limits.fileRead < metadata.length then (.error .tooLarge, files)
          else (((readEntry cancelled Limits.fileRead metadata.length
            (Request.answer (.openForReading path) files).1).map String.ofList), files))
    fun reply => ?_) fun files => ?_
  · cases reply with
    | error error => exact .done trivial
    | ok metadata =>
        by_cases hdirectory : metadata.isDirectory = true
        · simp only [hdirectory, if_true]
          exact .done trivial
        · by_cases hlarge : Limits.fileRead < metadata.length
          · simp only [hdirectory, hlarge, if_true]
            exact .done trivial
          · simp only [hdirectory, hlarge, if_false]
            exact hopen metadata
  · -- the entry that is opened is the one whose status was asked for
    simp only [Store.readText, Request.answer, Store.status]
    cases files.find path with
    | error error => rfl
    | ok found =>
        obtain ⟨location, entry⟩ := found
        by_cases hlarge : Limits.fileRead < entry.reportedLength
        · cases entry <;> simp [Except.map, Entry.metadata, readEntry, hlarge]
        · cases entry <;> simp [Except.map, Except.bind, Entry.metadata, hlarge]

/-! ## Where relative paths start -/

/-- The same files, with relative paths starting elsewhere. -/
def Store.startingAt (store : Store) (current : Location) : Store :=
  { store with current := current }

section StartingAt

variable (store : Store) (current : Location)

theorem walk_startingAt (aim : Aim) (base : Location) (segments : List Name) :
    (store.startingAt current).walk aim base segments = store.walk aim base segments := by
  induction segments generalizing base with
  | nil => rfl
  | cons segment rest ih =>
      simp only [Store.walk, ih]
      rfl

theorem walkLinks_startingAt (aim : Aim) (links : Nat) (base : Location)
    (segments : List Name) :
    (store.startingAt current).walkLinks aim links base segments =
      store.walkLinks aim links base segments := by
  induction links generalizing base segments with
  | zero =>
      unfold Store.walkLinks
      rw [walk_startingAt]
  | succ links ih =>
      unfold Store.walkLinks
      simp only [walk_startingAt, ih]

theorem walkPath_startingAt (aim : Aim) {path : Path}
    (h : Path.isAbsolute path = true) :
    (store.startingAt current).walkPath aim path = store.walkPath aim path := by
  simp only [Store.walkPath, walkLinks_startingAt, h, if_true]

theorem status_startingAt {path : Path} (h : Path.isAbsolute path = true) :
    (store.startingAt current).status path = store.status path := by
  simp only [Store.status, Store.find, walkPath_startingAt _ _ _ h]

theorem entryBehind_startingAt {path : Path} (h : Path.isAbsolute path = true)
    (directory : Location) (name : Name) :
    Builtin.entryBehind (store.startingAt current) path directory name =
      Builtin.entryBehind store path directory name := by
  have hentry : Path.isAbsolute (Builtin.entryPath path name) = true :=
    Path.isAbsolute_join h name
  simp only [Builtin.entryBehind, status_startingAt _ _ hentry]
  rfl

theorem put_startingAt (location : Location) (entry : Entry) :
    (store.startingAt current).put location entry =
      (store.put location entry).startingAt current := by
  by_cases hstands : (store.entries.lookup location).isSome <;>
    simp [Store.put, Store.startingAt, hstands]

theorem openForWriting_startingAt {path : Path} (h : Path.isAbsolute path = true)
    (append : Bool) :
    (store.startingAt current).openForWriting path append =
      (store.openForWriting path append).map fun opened =>
        { opened with store := opened.store.startingAt current } := by
  have hallows : ∀ location access,
      (store.startingAt current).allows location access = store.allows location access :=
    fun _ _ => rfl
  simp only [Store.openForWriting, walkPath_startingAt _ _ _ h, put_startingAt, hallows]
  split <;> (try split) <;> rfl

theorem write_startingAt (opened : Opened) (bytes : List UInt8) :
    ({ opened with store := opened.store.startingAt current } : Opened).write bytes =
      (opened.write bytes).map fun files => files.startingAt current := by
  have hentry : Store.entry? (opened.store.startingAt current) opened.location =
      opened.store.entry? opened.location := rfl
  simp only [Opened.write, hentry, put_startingAt]
  split
  · rfl
  · split <;> rfl
  · rfl

/-- A rooted request is answered the same wherever relative paths start. -/
theorem answer_startingAt {request : Request} (h : request.IsRooted) :
    request.answer (store.startingAt current) =
      ((request.answer store).1, (request.answer store).2.startingAt current) := by
  cases request with
  | status path => simp only [Request.answer, status_startingAt _ _ h.absolute]
  | list path =>
      simp only [Request.answer, Store.list, Store.find, walkPath_startingAt _ _ _ h.absolute]
      rfl
  | entry directory name =>
      simp only [Request.answer, Store.find, walkPath_startingAt _ _ _ h.1.absolute,
        entryBehind_startingAt _ _ h.1.absolute]
  | openForReading path =>
      simp only [Request.answer, Store.find, walkPath_startingAt _ _ _ h.absolute]
      rfl
  | write path append bytes =>
      simp only [Request.answer, openForWriting_startingAt _ _ h.absolute]
      cases store.openForWriting path append with
      | error error => rfl
      | ok opened =>
          simp only [Except.map, write_startingAt]
          cases opened.write bytes <;> rfl

end StartingAt

/-- So a computation that makes rooted requests only does the same wherever relative paths
start. -/
theorem Consults.startingAt {α : Type} {Q : α → Prop} {f : Store → α × Store}
    (h : Consults Request.IsRooted Q f) (files : Store) (current : Location) :
    f (files.startingAt current) = ((f files).1, (f files).2.startingAt current) := by
  induction h generalizing files with
  | done => rfl
  | ask _ hrequest _ _ ih => simp only [answer_startingAt _ _ hrequest, ih]

end Files

/-! ## Computations on a machine -/

open Files (Request Consults)

/-- A computation on a machine that touches its files by requests that satisfy `P` and in no
other way, and comes to results that satisfy `Q`. -/
def Asks {α : Type} (P : Request → Prop) (Q : α → Prop) (f : Machine → α × Machine) : Prop :=
  ∀ machine : Machine, Consults P (fun result : α × Machine => Q result.1) fun files =>
    let after := f { machine with files := files }
    ((after.1, { after.2 with files := machine.files }), after.2.files)

section Asks

variable {α β : Type} {P : Request → Prop} {Q : α → Prop} {R : β → Prop}

theorem Asks.congr {f g : Machine → α × Machine} (h : Asks P Q f)
    (hsame : ∀ machine, g machine = f machine) : Asks P Q g := by
  obtain rfl : g = f := funext hsame
  exact h

theorem Asks.result {f : Machine → α × Machine} (h : Asks P Q f) (machine : Machine) :
    Q (f machine).1 :=
  (h machine).result machine.files

theorem Asks.done {result : α} (h : Q result) : Asks P Q fun machine => (result, machine) :=
  fun machine =>
    (Consults.done h : Consults P (fun after : α × Machine => Q after.1) fun files =>
      ((result, machine), files))

theorem Asks.settled {f : Machine → α × Machine} (result : α) (h : Q result)
    (hsame : ∀ machine, f machine = (result, machine)) : Asks P Q f :=
  (Asks.done h).congr hsame

/-- A computation on the files alone. -/
theorem Files.Consults.asks {f : Files.Store → α × Files.Store} (h : Consults P Q f) :
    Asks P Q fun machine => ((f machine.files).1, { machine with files := (f machine.files).2 }) :=
  fun machine => h.map (fun result => (result, machine)) fun _ hresult => hresult

/-- What becomes of the rest of the machine does not matter. -/
theorem Asks.of_apart {f : Machine → α × Machine} (hresult : ∀ machine, Q (f machine).1)
    (hapart : ∀ machine files, f { machine with files := files } =
      ((f machine).1, { (f machine).2 with files := files })) : Asks P Q f := by
  intro machine
  refine Consults.congr (.done (hresult machine)) fun files => ?_
  simp only [hapart machine files]
  have hfiles : (f machine).2.files = machine.files :=
    congrArg (fun after => after.2.files) (hapart machine machine.files)
  rw [← hfiles]

theorem Asks.apart {f : Machine → α × Machine}
    (hapart : ∀ (machine : Machine) (files : Files.Store), f { machine with files := files } =
      ((f machine).1, { (f machine).2 with files := files })) :
    Asks P (fun _ => True) f :=
  .of_apart (fun _ => trivial) hapart

theorem Asks.bind {f : Machine → α × Machine} {g : α → Machine → β × Machine}
    (hf : Asks P Q f) (hg : ∀ result, Q result → Asks P R (g result)) :
    Asks P R fun machine => g (f machine).1 (f machine).2 :=
  fun machine => (hf machine).bind
    (g := fun (result : α × Machine) files =>
      let after := g result.1 { result.2 with files := files }
      ((after.1, { after.2 with files := result.2.files }), after.2.files))
    fun result hresult => hg result.1 hresult result.2

theorem Asks.map {f : Machine → α × Machine} (h : Asks P Q f) (g : α → β)
    (hg : ∀ result, Q result → R (g result)) :
    Asks P R fun machine => (g (f machine).1, (f machine).2) :=
  h.bind (g := fun result machine => (g result, machine)) fun result hresult =>
    .done (hg result hresult)

theorem Asks.mapAny {f : Machine → α × Machine} (h : Asks P Q f) (g : α → β) :
    Asks P (fun _ => True) fun machine => (g (f machine).1, (f machine).2) :=
  h.map g fun _ _ => trivial

/-- What is done may depend on the rest of the machine. -/
theorem Asks.of_forall {f : Machine → α × Machine}
    (h : ∀ machine : Machine, ∃ g, Asks P Q g ∧ ∀ files : Files.Store,
      f { machine with files := files } = g { machine with files := files }) : Asks P Q f := by
  intro machine
  obtain ⟨g, hg, hsame⟩ := h machine
  exact (hg machine).congr fun files => by simp only [hsame]

end Asks

end Conch
