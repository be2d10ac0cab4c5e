import Conch.Proofs.Builtin.Handlers
import Conch.Proofs.Path.Shown
import Conch.Proofs.Pipeline.Requests

/-!
# What the standard commands ask the files

In a rooted directory a standard command makes rooted requests only, whatever its arguments
and its input are.  Only `cd` sets the directory, and what it answers with is rooted.
-/

namespace Conch

open Files (Request Consults)

theorem Fault.isSuccess_outcome (name : String) (fault : Fault) :
    (fault.outcome name).isSuccess = false := by
  cases fault <;> rfl

namespace Builtin

/-! ## The commands -/

/-- What a command makes of the files it looks at. -/
def Looks {α : Type} (Q : α → Prop) (look : Machine → α) : Prop :=
  Asks Request.IsRooted Q fun machine => (look machine, machine)

section Looks

variable {α β : Type} {Q : α → Prop} {R : β → Prop} {look : Machine → α}

theorem Looks.map (h : Looks Q look) (g : α → β) (hg : ∀ result, Q result → R (g result)) :
    Looks R fun machine => g (look machine) :=
  Asks.map h g hg

theorem Looks.mapAny (h : Looks Q look) (g : α → β) :
    Looks (fun _ => True) fun machine => g (look machine) :=
  Asks.mapAny h g

theorem Looks.bind {next : α → Machine → β} (h : Looks Q look)
    (hnext : ∀ result, Q result → Looks R (next result)) :
    Looks R fun machine => next (look machine) machine :=
  Asks.bind (g := fun result machine => (next result machine, machine)) h hnext

/-- What does not depend on files at all. -/
theorem Looks.of_apart (hresult : ∀ machine, Q (look machine))
    (hapart : ∀ (machine : Machine) (files : Files.Store),
      look { machine with files := files } = look machine) : Looks Q look :=
  Asks.of_apart hresult fun machine files => by rw [hapart]

theorem Looks.const {result : α} (h : Q result) : Looks Q fun _ => result :=
  .of_apart (fun _ => h) fun _ _ => rfl

end Looks

/-- A remote address is no path. -/
theorem fetchText_withFiles {target : String} (hremote : looksRemote target = true)
    (context : Context) (machine : Machine) (files : Files.Store) :
    fetchText target context { machine with files := files } =
      fetchText target context machine := by
  simp only [fetchText, hremote, if_true]
  cases fetchable target <;> rfl

section Commands

variable {context : Context} (hdirectory : Path.Rooted context.directory)
include hdirectory

/-- The texts and the errors of some files with what one more has come to. -/
def addRead (file : String) (read : Except Fault String) (rows : List String × List String) :
    List String × List String :=
  match read with
  | .ok text => (text :: rows.1, rows.2)
  | .error fault => (rows.1, ("cat: " ++ file ++ ": " ++ fault.message) :: rows.2)

theorem looks_readFiles (files : List String) :
    Looks (fun _ => True) fun machine => readFiles context machine files := by
  induction files with
  | nil => exact .const trivial
  | cons file rest ih =>
      have hread : Looks (fun _ => True) fun machine => context.readText machine file :=
        asks_readText hdirectory file
      exact hread.bind fun read _ => ih.mapAny (addRead file read)

theorem looks_cat (args : List String) :
    Looks (fun _ => True) fun machine => cat args context machine := by
  unfold cat
  split
  · exact .const trivial
  · exact (looks_readFiles hdirectory args).mapAny fun rows =>
      if rows.2.isEmpty then Outcome.success (String.join rows.1)
      else Outcome.failure 1 ("\n".intercalate rows.2)

theorem looks_inputText (file : Option String) :
    Looks (fun _ => True) fun machine => inputText context machine file := by
  unfold inputText
  cases context.stdin.filter fun text => !text.isEmpty with
  | some text => exact .const trivial
  | none =>
      cases file with
      | none => exact .const trivial
      | some file => exact Looks.mapAny (asks_readText hdirectory file) (Except.map some)

/-- The outcome of a filter on what its input has come to. -/
def filtered (name : String) (filter : String → String) : Except Fault (Option String) → Outcome
  | .ok (some text) => Outcome.success (filter text)
  | .ok none => inputMissing name
  | .error fault => fault.outcome name

theorem looks_filterOutcome (name : String) (filter : String → String) (file : Option String) :
    Looks (fun _ => True) fun machine => filterOutcome name filter file context machine := by
  exact (looks_inputText hdirectory file).mapAny (filtered name filter)

theorem looks_grep (args : List String) :
    Looks (fun _ => True) fun machine => grep args context machine := by
  unfold grep grepWith
  cases args with
  | nil => exact .const trivial
  | cons pattern rest =>
      simp only
      split
      · exact .const trivial
      · exact looks_filterOutcome hdirectory _ _ _

theorem looks_fetch (args : List String) :
    Looks (fun _ => True) fun machine => fetch args context machine := by
  unfold fetch
  cases args with
  | nil => exact .const trivial
  | cons target rest =>
      by_cases hremote : looksRemote target = true
      · exact .of_apart (fun _ => trivial) fun machine files =>
          congrArg (outcomeOf "fetch") (fetchText_withFiles hremote context machine files)
      · simp only [fetchText, hremote]
        exact Looks.mapAny (asks_readText hdirectory target) (outcomeOf "fetch")

/-- What `cd` makes of the status of the path. -/
def entering (target : String) (path : Path) :
    Except Files.OsError Files.Metadata → Except Fault Outcome
  | .error error => .error (.file target error)
  | .ok metadata =>
      if metadata.isDirectory then .ok (Outcome.success (Path.shown path))
      else .ok (Outcome.failure 1 ("cd: not a directory: " ++ Path.shown path))

/-- `cd` answers with the path whose status it has asked for, as it is shown. -/
theorem looks_changeDirectory (target : String) :
    Looks (fun answer : Except Fault Outcome => ∀ outcome, answer = .ok outcome →
        outcome.isSuccess = true → Path.Rooted (Path.ofText outcome.stdout))
      fun machine => changeDirectory target context machine := by
  refine .checked context .error (by simp) (fun machine fault hfault => ?_)
    fun machine hlive => ?_
  · simp only [changeDirectory, hfault, bind, Except.bind]
  · cases hpath : context.resolve (some target) with
    | error fault =>
        refine ⟨fun machine => (.error fault, machine), .done (by simp), fun files => ?_⟩
        simp only [changeDirectory, hlive, hpath, bind, Except.bind]
    | ok path =>
        have hrooted := context.rooted_of_resolve hdirectory hpath
        refine ⟨_, (Files.Consults.once (.status path) hrooted).asks.map
          (entering target path) fun reply _ outcome hanswer hsuccess => ?_, fun files => ?_⟩
        · cases reply with
          | error error => cases hanswer
          | ok metadata =>
              simp only [entering] at hanswer
              split at hanswer
              · obtain rfl := Except.ok.inj hanswer
                exact Path.Rooted.respell hrooted
              · obtain rfl := Except.ok.inj hanswer
                cases hsuccess
        · simp only [changeDirectory, hlive, hpath, Request.answer, bind, Except.bind]
          cases files.status path with
          | error error => rfl
          | ok entry =>
              cases entry <;>
                simp [entering, Except.map, Files.Entry.metadata, pure, Except.pure]

/-- The outcome of `cd`, given what its attempt has come to. -/
def moved : Except Fault Outcome → Outcome
  | .ok outcome => outcome
  | .error fault => fault.outcome "cd"

/-- When `cd` succeeds, its output is rooted. -/
theorem looks_cd (args : List String) :
    Looks (fun outcome => outcome.isSuccess = true → Path.Rooted (Path.ofText outcome.stdout))
      fun machine => cd args context machine := by
  unfold cd
  cases args.head? with
  | none => exact .const fun hsuccess => by cases hsuccess
  | some target =>
      refine (looks_changeDirectory hdirectory target).map moved ?_
      intro answer hanswer hsuccess
      cases answer with
      | ok outcome => exact hanswer outcome rfl hsuccess
      | error fault =>
          rw [moved, Fault.isSuccess_outcome] at hsuccess
          cases hsuccess

end Commands

/-! ## `ls` -/

/-- The row of an entry of which the system tells this. -/
def metadataRow (detailed : Bool) (name : String) (metadata : Files.Metadata) : String :=
  if detailed then
    (if metadata.isDirectory then "dir " else "file") ++ " " ++
      Text.padLeft 8 (toString metadata.length) ++ " " ++ name
  else if metadata.isDirectory then name ++ "/"
  else name

theorem listingRow_eq (detailed : Bool) (name : String) (entry : Files.Entry) :
    listingRow detailed name entry = metadataRow detailed name entry.metadata := by
  simp [listingRow, metadataRow, Files.Entry.metadata]

/-- What the row of an entry comes to when the system answers this. -/
def replyRow (detailed : Bool) (name : Files.Name) :
    Except Files.OsError Files.Metadata → Except Fault String
  | .ok metadata => .ok (metadataRow detailed (Path.shown name) metadata)
  | .error error => .error (.file (Path.shown name) error)

/-- The row of an entry in the directory that a path leads to is made of an answer. -/
theorem rowOf_eq {files : Files.Store} {path : Path} {found : Files.Location × Files.Entry}
    (h : files.find path = .ok found) (detailed : Bool) (name : Files.Name) :
    rowOf detailed files path found.1 name =
      replyRow detailed name (Request.answer (.entry path name) files).1 := by
  simp only [rowOf, Request.answer, h]
  cases entryBehind files path found.1 name with
  | error error => rfl
  | ok entry => exact congrArg Except.ok (listingRow_eq ..)

/-- The rows of the entries of a rooted directory, up to the first that cannot be had. -/
theorem consults_rows {path : Path} (h : Path.Rooted path) (detailed : Bool)
    (names : List Files.Name) :
    Consults Request.IsRooted (fun _ => True) fun files =>
      (names.mapM fun name =>
        replyRow detailed name (Request.answer (.entry path name) files).1, files) := by
  induction names with
  | nil => exact .done trivial
  | cons name rest ih =>
      refine Consults.congr (.ask (.entry path name) ⟨h, h.join_name⟩
        (fun reply files => ((replyRow detailed name reply).bind fun row =>
          (rest.mapM fun name =>
            replyRow detailed name (Request.answer (.entry path name) files).1).map (row :: ·),
          files))
        fun reply => ?_) fun files => ?_
      · cases replyRow detailed name reply with
        | error fault => exact .done trivial
        | ok row => exact ih.mapAny (Except.map (row :: ·))
      · simp only [List.mapM_cons]
        rfl

/-- A listing asks for the names in a directory, and then for what each of them counts as. -/
theorem consults_listing {path : Path} (h : Path.Rooted path) (detailed : Bool) :
    Consults Request.IsRooted (fun _ => True) fun files =>
      ((files.list path).map fun (directory, names) =>
        listingRows detailed files path directory names, files) := by
  refine Consults.congr (.ask (.list path) h
    (fun reply files => (reply.map fun names =>
      (names.mergeSort nameLe).mapM fun name =>
        replyRow detailed name (Request.answer (.entry path name) files).1, files))
    fun reply => ?_) fun files => ?_
  · cases reply with
    | error error => exact .done trivial
    | ok names => exact (consults_rows h detailed _).mapAny Except.ok
  · -- the directory that was listed is the one whose entries are looked at
    simp only [Request.answer]
    cases hlist : files.list path with
    | error error => rfl
    | ok found =>
        have hrows := funext (rowOf_eq (Files.find_of_list hlist) detailed)
        exact congrArg (fun row => (Except.ok ((found.2.mergeSort nameLe).mapM row), files)) hrows

/-- The text of the rows of the directory that the user calls `target`. -/
def listed (target : String) :
    Except Files.OsError (Except Fault (List String)) → Except Fault String
  | .error error => .error (.file target error)
  | .ok rows => rows.map "\n".intercalate

section Listing

variable {context : Context} (hdirectory : Path.Rooted context.directory)
include hdirectory

theorem looks_listing (target : Option String) (detailed : Bool) :
    Looks (fun _ => True) fun machine => listing target detailed context machine := by
  cases hpath : context.resolve target with
  | error fault =>
      refine .of_apart (fun _ => trivial) fun machine files => ?_
      simp only [listing, hpath, bind, Except.bind]
  | ok path =>
      refine .checked context .error (fun _ => trivial) (fun machine fault hfault => ?_)
        fun machine hlive => ?_
      · simp only [listing, hpath, hfault, bind, Except.bind]
      · refine ⟨_, (consults_listing (context.rooted_of_resolve hdirectory hpath)
          detailed).asks.mapAny (listed (target.getD ".")), fun files => ?_⟩
        simp only [listing, hpath, hlive, bind, Except.bind]
        cases files.list path <;> rfl

theorem looks_ls (args : List String) :
    Looks (fun _ => True) fun machine => ls args context machine :=
  (looks_listing hdirectory _ _).mapAny (outcomeOf "ls")

end Listing

/-! ## The registry -/

theorem staysRooted_of_looks {command : Command}
    {run : List String → Context → Machine → Outcome} (hhandler : command.handler = reporting run)
    (hsets : command.setsDirectory = false)
    (h : ∀ args context, Path.Rooted context.directory →
      Looks (fun _ => True) fun machine => run args context machine) : command.StaysRooted := by
  intro args context hdirectory
  rw [hhandler]
  refine (h args context hdirectory).map Ending.returned fun _ _ _ _ hdoes => ?_
  rw [hsets] at hdoes
  cases hdoes

theorem staysRooted_cd {command : Command} (hhandler : command.handler = reporting cd) :
    command.StaysRooted := by
  intro args context hdirectory
  rw [hhandler]
  refine (looks_cd hdirectory args).map Ending.returned fun _ hrooted _ hending _ => ?_
  obtain rfl := Ending.returned.inj hending
  exact hrooted

/-- `killjobs` does not look at files. -/
theorem staysRooted_killjobs {command : Command} (hhandler : command.handler = killjobs)
    (hsets : command.setsDirectory = false) : command.StaysRooted := by
  intro args context _
  rw [hhandler]
  refine Asks.of_apart (fun _ _ _ hdoes => ?_) fun machine files => ?_
  · rw [hsets] at hdoes
    cases hdoes
  · unfold killjobs
    cases args.head? with
    | none => rfl
    | some arg =>
        simp only
        cases jobId? arg with
        | none => rfl
        | some id =>
            simp only
            cases machine.jobs.kill id <;> rfl

/-- All standard commands stay rooted. -/
theorem registry_staysRooted : registry.StaysRooted := by
  intro command h
  rcases Registry.mem_insertCommand h with rfl | h
  · exact staysRooted_of_looks rfl rfl fun _ _ _ => .of_apart (fun _ => trivial) fun _ _ => rfl
  rcases Registry.mem_foldl_register h with h | h
  · simp only [commands, List.mem_cons, List.not_mem_nil, or_false] at h
    rcases h with rfl | rfl | rfl | rfl | rfl | rfl | rfl | rfl | rfl | rfl | rfl
    · exact staysRooted_cd rfl
    · exact staysRooted_of_looks rfl rfl fun _ _ _ =>
        .of_apart (fun _ => trivial) fun _ _ => rfl
    · exact staysRooted_of_looks rfl rfl fun args _ hdirectory => looks_ls hdirectory args
    · exact staysRooted_of_looks rfl rfl fun args _ hdirectory => looks_cat hdirectory args
    · exact staysRooted_of_looks rfl rfl fun args _ hdirectory => looks_grep hdirectory args
    · exact staysRooted_of_looks rfl rfl fun args _ hdirectory =>
        looks_filterOutcome hdirectory _ _ _
    · exact staysRooted_of_looks rfl rfl fun args _ hdirectory =>
        looks_filterOutcome hdirectory _ _ _
    · exact staysRooted_of_looks rfl rfl fun args _ hdirectory => looks_fetch hdirectory args
    · exact staysRooted_of_looks rfl rfl fun _ _ _ =>
        .of_apart (fun _ => trivial) fun _ _ => rfl
    · exact staysRooted_killjobs rfl rfl
    · exact staysRooted_of_looks rfl rfl fun _ _ _ =>
        .of_apart (fun _ => trivial) fun _ _ => rfl
  · simp [Registry.empty] at h

end Builtin

end Conch
