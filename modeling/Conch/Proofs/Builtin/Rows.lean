import Conch.Builtin.Listing
import Conch.Proofs.Files.Delivery
import Conch.Proofs.Files.Links
import Mathlib.Data.List.Nodup

/-!
# The rows of `ls`

`ls` has one row for every entry of a directory that may be read and searched, in the order of the
octets of their names, and no link makes it fail.  What an entry counts as is said by the ways of
the tree: what all its links lead to, or else the entry itself.  The way to an entry goes through
its directory, so the links on the way to that and those of the entry together have a limit, which
`ls_rows` names and `ls_rows_limits` reaches.  Where a directory may be read but not searched,
nothing is known of its entries, and already the first of them makes the listing fail.
-/

namespace Conch

/-! ## The names in a directory -/

namespace Files.Store

/-- Every entry stands once, and the names on the way to it are names. -/
structure WellNamed (store : Store) : Prop where
  once : (store.entries.map Prod.fst).Nodup
  names : ∀ slot ∈ store.entries, ∀ name ∈ slot.1,
    AsksEntry name ∧ Path.slash ∉ name ∧ 0 ∉ name

instance (store : Store) : Decidable store.WellNamed :=
  decidable_of_iff
    ((store.entries.map Prod.fst).Nodup ∧ ∀ slot ∈ store.entries, ∀ name ∈ slot.1,
      AsksEntry name ∧ Path.slash ∉ name ∧ 0 ∉ name)
    ⟨fun ⟨honce, hnames⟩ => ⟨honce, hnames⟩, fun h => ⟨h.once, h.names⟩⟩

section Names

variable {store : Store} {directory place : Location} {name : Name}

/-- The name under which a location stands in a directory, if it does. -/
def nameIn (directory place : Location) : Option Name :=
  match place.getLast? with
  | some name => if place.dropLast = directory then some name else none
  | none => none

theorem nameIn_eq_some_iff : nameIn directory place = some name ↔ place = directory ++ [name] := by
  rcases List.eq_nil_or_concat place with rfl | ⟨front, last, rfl⟩
  · simp [nameIn]
  · simp only [nameIn, List.concat_eq_append, List.getLast?_concat, List.dropLast_concat,
      List.append_singleton_inj]
    split
    · next hfront => simp [hfront]
    · next hfront => simp [hfront]

theorem namesIn_eq (store : Store) (directory : Location) :
    store.namesIn directory = (store.entries.map Prod.fst).filterMap (nameIn directory) := by
  rw [List.filterMap_map]
  rfl

theorem mem_namesIn : name ∈ store.namesIn directory ↔
    directory ++ [name] ∈ store.entries.map Prod.fst := by
  simp only [namesIn_eq, List.mem_filterMap, nameIn_eq_some_iff, exists_eq_right]

/-- The names in a directory are those under which something stands there. -/
theorem mem_namesIn_iff :
    name ∈ store.namesIn directory ↔ (store.entry? (directory ++ [name])).isSome = true := by
  have hbelow : (directory ++ [name]).isEmpty = false := by simp
  rw [mem_namesIn, entry?, hbelow, if_neg Bool.false_ne_true, List.lookup_isSome_iff, List.mem_map]
  simp

theorem WellNamed.nodup_namesIn (h : store.WellNamed) (directory : Location) :
    (store.namesIn directory).Nodup := by
  rw [namesIn_eq]
  refine List.Nodup.filterMap (fun place other name hplace hother => ?_) h.once
  rw [nameIn_eq_some_iff.mp hplace, nameIn_eq_some_iff.mp hother]

theorem WellNamed.of_mem (h : store.WellNamed) (hmem : name ∈ store.namesIn directory) :
    AsksEntry name ∧ Path.slash ∉ name ∧ 0 ∉ name := by
  obtain ⟨slot, hslot, hplace⟩ := List.mem_map.mp (mem_namesIn.mp hmem)
  refine h.names slot hslot name ?_
  rw [hplace]
  exact List.mem_append_right _ (List.mem_singleton_self _)

end Names

end Files.Store

namespace Builtin

open Files (Entry Location Name Store)

/-- Sorted names that are different are in the order of their octets. -/
theorem pairwise_mergeSort_nameLe {names : List Name} (h : names.Nodup) :
    (names.mergeSort nameLe).Pairwise (· < ·) := by
  have hsorted : (names.mergeSort nameLe).Pairwise fun a b => nameLe a b = true := by
    refine List.pairwise_mergeSort (fun a b c hab hbc => ?_) (fun a b => ?_) names
    · exact decide_eq_true (List.le_trans (of_decide_eq_true hab) (of_decide_eq_true hbc))
    · simpa [nameLe] using List.le_total a b
  have hdistinct : (names.mergeSort nameLe).Nodup := (List.mergeSort_perm _ _).nodup_iff.mpr h
  exact (hsorted.and hdistinct).imp fun ⟨hle, hne⟩ =>
    Std.lt_of_le_of_ne (of_decide_eq_true hle) hne

/-- When a computation succeeds for every item, it does for the whole list. -/
theorem exists_mapM_eq_ok {α β ε : Type} {action : α → Except ε β} {good : α → β → Prop}
    {items : List α} (h : ∀ item ∈ items, ∃ result, action item = .ok result ∧ good item result) :
    ∃ results, items.mapM action = .ok results ∧ List.Forall₂ good items results := by
  induction items with
  | nil => exact ⟨[], rfl, .nil⟩
  | cons item rest ih =>
      obtain ⟨result, haction, hgood⟩ := h item (List.mem_cons_self ..)
      obtain ⟨results, hrest, hall⟩ := ih fun other hmem => h other (List.mem_cons_of_mem _ hmem)
      refine ⟨result :: results, ?_, .cons hgood hall⟩
      rw [List.mapM_cons, haction, hrest]
      rfl

/-! ## What an entry counts as -/

/-- What the entry with a name counts as in the directory that a path names, when so many links are
on the way to the directory. -/
inductive CountsAs (files : Store) (path : Path) (directory : Location) (links : Nat)
    (name : Name) : Entry → Prop
  | followed {entry : Entry} {further : Nat} {place : Location}
      (hlength : (entryPath path name).length ≤ Files.maxPath)
      (hlinks : links + further ≤ Files.maxLinks)
      (hleads : files.Leads directory [name] further place entry) :
      CountsAs files path directory links name entry
  | itself {entry : Entry}
      (hstands : files.entry? (directory ++ [name]) = some entry)
      (hnowhere : ∀ further place target, files.Leads directory [name] further place target →
        Files.maxPath < (entryPath path name).length ∨ Files.maxLinks < links + further) :
      CountsAs files path directory links name entry

/-- How the row of an entry is laid out, its name being shown so: the name alone, with a slash
behind it for a directory, or the kind, the size at the right of eight places and the name. -/
inductive Row (name : String) : Bool → Entry → String → Prop
  | directory : Row name false .directory (name ++ "/")
  | other {entry : Entry} (hother : entry ≠ .directory) : Row name false entry name
  | detailed {entry : Entry} {kind blanks size : String}
      (hkind : kind = if entry = .directory then "dir " else "file")
      (hsize : size = toString entry.reportedLength)
      (hblanks : blanks = String.ofList (List.replicate (8 - size.length) ' ')) :
      Row name true entry (kind ++ " " ++ (blanks ++ size) ++ " " ++ name)

theorem row_listingRow (detailed : Bool) (name : String) (entry : Entry) :
    Row name detailed entry (listingRow detailed name entry) := by
  cases detailed with
  | true =>
      simp only [listingRow, if_true]
      exact .detailed rfl rfl rfl
  | false =>
      by_cases hdirectory : entry = .directory
      · subst hdirectory
        exact .directory
      · simpa only [listingRow, hdirectory, decide_false, Bool.false_eq_true, if_false] using
          .other hdirectory

section CountsAs

variable {files : Store} {path : Path} {name : Name} {directory : Location} {links : Nat}
  {entry : Entry}

/-- An entry counts as a directory just if it is one or if its links lead to one within the
limits. -/
theorem CountsAs.directory_iff (h : CountsAs files path directory links name entry)
    (hsearch : files.allows directory .search = true) (hasks : Files.AsksEntry name) :
    entry = .directory ↔ ∃ further place, files.Leads directory [name] further place .directory ∧
      (further = 0 ∨ (entryPath path name).length ≤ Files.maxPath ∧
        links + further ≤ Files.maxLinks) := by
  cases h with
  | @followed further place hlength hlinks hleads =>
      constructor
      · rintro rfl
        exact ⟨further, place, hleads, .inr ⟨hlength, hlinks⟩⟩
      · rintro ⟨_, _, hdirectory, -⟩
        exact (hdirectory.deterministic hleads).2.2
  | itself hstands hnowhere =>
      constructor
      · rintro rfl
        exact ⟨0, _, .step (.down hsearch hasks hstands) (.here _), .inl rfl⟩
      · rintro ⟨further, place, hdirectory, rfl | ⟨hlength, hlinks⟩⟩
        · have hown := hdirectory.eq_of_zero hasks
          exact Option.some.inj (hstands.symm.trans hown)
        · rcases hnowhere _ _ _ hdirectory with hlong | hmany
          · exact absurd hlength (Nat.not_le.mpr hlong)
          · exact absurd hlinks (Nat.not_le.mpr hmany)

variable (hthere : files.Leads (files.beginning path) (Store.segmentsOf path) links directory
    .directory)
  (hclean : 0 ∉ path) (hpath : path ≠ []) (hnamed : files.WellNamed)
  (hsearch : files.allows directory .search = true)

include hthere hclean hpath hnamed hsearch

/-- What stands in a directory that may be searched counts as something. -/
theorem exists_entryBehind (hmem : name ∈ files.namesIn directory) :
    ∃ entry, entryBehind files path directory name = .ok entry ∧
      CountsAs files path directory links name entry := by
  obtain ⟨hasks, hslash, hnull⟩ := hnamed.of_mem hmem
  have hstatus : ∀ entry, files.status (entryPath path name) = .ok entry ↔
      (entryPath path name).length ≤ Files.maxPath ∧
        ∃ further place, links + further ≤ Files.maxLinks ∧
          files.Leads directory [name] further place entry :=
    fun entry => Store.status_join_iff hthere hclean hpath hasks hslash hnull
  obtain ⟨own, hstands⟩ := Option.isSome_iff_exists.mp (Store.mem_namesIn_iff.mp hmem)
  unfold entryBehind
  cases hfollowed : files.status (entryPath path name) with
  | ok entry =>
      obtain ⟨hlength, further, place, hlinks, hleads⟩ := (hstatus entry).mp hfollowed
      exact ⟨entry, rfl, .followed hlength hlinks hleads⟩
  | error error =>
      refine ⟨own, by simp [Store.statusIn, hsearch, hstands], .itself hstands ?_⟩
      intro further place target hleads
      by_contra hwithin
      obtain ⟨hlength, hlinks⟩ := not_or.mp hwithin
      have hfound := (hstatus target).mpr
        ⟨Nat.le_of_not_lt hlength, further, place, Nat.le_of_not_lt hlinks, hleads⟩
      exact nomatch hfollowed.symm.trans hfound

/-- What stands in a directory that may be searched has a row. -/
theorem exists_rowOf (detailed : Bool) (hmem : name ∈ files.namesIn directory) :
    ∃ row, rowOf detailed files path directory name = .ok row ∧
      ∃ entry, CountsAs files path directory links name entry ∧
        Row (Path.shown name) detailed entry row ∧
        (entry = .directory ↔ ∃ further place,
          files.Leads directory [name] further place .directory ∧
          (further = 0 ∨ (entryPath path name).length ≤ Files.maxPath ∧
            links + further ≤ Files.maxLinks)) := by
  obtain ⟨entry, hentry, hcounts⟩ := exists_entryBehind hthere hclean hpath hnamed hsearch hmem
  refine ⟨listingRow detailed (Path.shown name) entry, by simp only [rowOf, hentry], entry, hcounts,
    row_listingRow .., hcounts.directory_iff hsearch (hnamed.of_mem hmem).1⟩

end CountsAs

/-- Of what stands in a directory that may not be searched, nothing is known. -/
theorem entryBehind_of_unsearchable {files : Store} {path : Path} {directory : Location}
    {links : Nat} {name : Name}
    (hthere : files.Leads (files.beginning path) (Store.segmentsOf path) links directory
      .directory)
    (hclean : 0 ∉ path) (hpath : path ≠ []) (hnamed : files.WellNamed)
    (hmem : name ∈ files.namesIn directory) (hdenied : files.allows directory .search = false) :
    entryBehind files path directory name = .error .denied := by
  obtain ⟨hasks, hslash, hnull⟩ := hnamed.of_mem hmem
  unfold entryBehind
  cases hfollowed : files.status (entryPath path name) with
  | error error => simp [Store.statusIn, hdenied]
  | ok entry =>
      obtain ⟨-, _, _, -, hleads⟩ :=
        (Store.status_join_iff hthere hclean hpath hasks hslash hnull).mp hfollowed
      -- a way from the directory on begins with a look at the name
      have hsearch := hleads.search hasks.nonempty
      rw [hdenied] at hsearch
      cases hsearch

/-! ## The listing -/

/-- Whether the rows are asked for with details: the first flag says so. -/
def wantsDetails (args : List String) : Bool :=
  (args.find? isFlag).any fun flag => flag.toList.contains 'l'

section Listing

variable {args : List String} {context : Context} {machine : Machine} {path : Path}
  {directory : Location}

theorem ls_of_find (hlive : machine.isFired context.token = false)
    (htarget : context.resolve (args.find? fun arg => !isFlag arg) = .ok path)
    (hthere : machine.files.find path = .ok (directory, .directory))
    (hread : machine.files.allows directory .read = true) :
    ls args context machine = outcomeOf "ls"
      ((listingRows (wantsDetails args) machine.files path directory
        (machine.files.namesIn directory)).map "\n".intercalate) := by
  have hcheck : context.check machine = .ok () := Context.check_of_live hlive
  simp only [ls, listing, htarget, hcheck, Store.list, hthere, hread, bind, Except.bind]
  rfl

/-- Where a directory that is not empty may be read but not searched, the listing fails at the first
of the names. -/
theorem ls_of_unsearchable (hlive : machine.isFired context.token = false)
    (htarget : context.resolve (args.find? fun arg => !isFlag arg) = .ok path)
    (hnamed : machine.files.WellNamed)
    (hthere : machine.files.find path = .ok (directory, .directory))
    (hread : machine.files.allows directory .read = true)
    (hdenied : machine.files.allows directory .search = false)
    {first : Name} {rest : List Name}
    (hnames : (machine.files.namesIn directory).mergeSort nameLe = first :: rest) :
    ls args context machine = Outcome.failure 1
      ("ls: " ++ Path.shown first ++ ": " ++ Files.OsError.denied.message) := by
  obtain ⟨hclean, hpath, -, links, -, hleads⟩ := Store.find_eq_ok_iff.mp hthere
  have hmem : first ∈ (machine.files.namesIn directory).mergeSort nameLe := by
    rw [hnames]
    exact List.mem_cons_self ..
  rw [List.mem_mergeSort] at hmem
  have hunknown := entryBehind_of_unsearchable hleads hclean hpath hnamed hmem hdenied
  have hrow : rowOf (wantsDetails args) machine.files path directory first =
      .error (.file (Path.shown first) .denied) := by
    simp only [rowOf, hunknown]
  have hrows : listingRows (wantsDetails args) machine.files path directory
      (machine.files.namesIn directory) = .error (.file (Path.shown first) .denied) := by
    simp only [listingRows, hnames, List.mapM_cons, hrow, bind, Except.bind]
  have hsaid : "ls: " ++ Path.shown first ++ ": " ++ Files.OsError.denied.message =
      "ls" ++ ": " ++ (Path.shown first ++ ": " ++ Files.OsError.denied.message) := by
    rw [← String.append_assoc, ← String.append_assoc, show "ls" ++ ": " = "ls: " from rfl]
  rw [ls_of_find hlive htarget hthere hread, hrows, hsaid]
  rfl

/-- A tree with a file, a directory, a link to it, a link to nothing and one to itself. -/
def grove : Machine :=
  { Machine.blank with
    files := ⟨[([Path.ofText "é"], .file [104, 105]),
      ([Path.ofText "to"], .link (Path.ofText "./z/")),
      ([Path.ofText "loop"], .link (Path.ofText "loop")),
      ([Path.ofText "gone"], .link (Path.ofText "nothing")), ([Path.ofText "z"], .directory)],
      [], []⟩ }

/-- So many links, each to the one before, and the first one to a target. -/
def chain (letter target : String) : Nat → List (Location × Entry)
  | 0 => []
  | 1 => [([Path.ofText (letter ++ "1")], .link (Path.ofText target))]
  | n + 2 =>
      ([Path.ofText (letter ++ toString (n + 2))],
          .link (Path.ofText (letter ++ toString (n + 1)))) ::
        chain letter target (n + 1)

/-- A tree with two ways over twenty-five links each, one to a directory and the other to the
directory that the entry of the first one links to. -/
def chained : Machine :=
  { Machine.blank with
    files := ⟨[([Path.ofText "d"], .directory),
        ([Path.ofText "d", Path.ofText "x"], .link (Path.ofText "../m25")),
        ([Path.ofText "e"], .directory)] ++
      chain "k" "d" 25 ++ chain "m" "e" 25, [], []⟩ }

/-- A file in a directory that may be read but not searched. -/
def sealedOff : Machine :=
  { Machine.blank with
    files := ⟨[([Path.ofText "d"], .directory), ([Path.ofText "d", Path.ofText "f"], .file [])],
      [], [([Path.ofText "d"], .search)]⟩ }

end Listing

end Builtin

end Conch
