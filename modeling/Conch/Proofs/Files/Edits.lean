import Conch.Files.Writing
import Mathlib.Data.List.Basic

/-!
# Edits of a store

All that opening a path for writing and writing to it can do to a store is an edit: a
regular file gets new contents, or is made in a directory.  `EditedBy` says that a list of
edits, done one after another, leads from one store to another.  Everything that is no
regular file stays as it is, and so does every file that no edit is about.
-/

namespace Conch.Files

/-! ## Putting an entry -/

namespace Store

theorem lookup_map_replace (entries : List (Location × Entry)) (location place : Location)
    (entry : Entry) :
    (entries.map fun (at', old) =>
        if at' = location then (at', entry) else (at', old)).lookup place =
      if place = location then (entries.lookup place).map fun _ => entry
      else entries.lookup place := by
  induction entries with
  | nil => simp
  | cons first rest ih =>
      obtain ⟨here, old⟩ := first
      by_cases hplace : place = here
      · subst hplace
        by_cases hlocation : place = location <;> simp [hlocation]
      · have hskip : (place == here) = false := by simpa using hplace
        by_cases hlocation : here = location
        · simp only [List.map_cons, hlocation, if_true, List.lookup_cons]
          rw [hlocation] at hskip
          rw [hskip, ih]
        · simp only [List.map_cons, hlocation, if_false, List.lookup_cons, hskip, ih]

theorem put_of_some {store : Store} {location : Location} {old : Entry}
    (h : store.entries.lookup location = some old) (entry : Entry) :
    store.put location entry =
      { store with
        entries := store.entries.map fun (place, old) =>
          if place = location then (place, entry) else (place, old) } := by
  simp only [put, h, Option.isSome_some, if_true]

theorem put_of_none {store : Store} {location : Location}
    (h : store.entries.lookup location = none) (entry : Entry) :
    store.put location entry = { store with entries := store.entries ++ [(location, entry)] } := by
  simp only [put, h, Option.isSome_none, Bool.false_eq_true, if_false]

theorem put_current (store : Store) (location : Location) (entry : Entry) :
    (store.put location entry).current = store.current := by
  unfold put
  split <;> rfl

theorem put_denials (store : Store) (location : Location) (entry : Entry) :
    (store.put location entry).denials = store.denials := by
  unfold put
  split <;> rfl

/-- What stands somewhere after an entry has been put. -/
theorem entry?_put {store : Store} {location : Location} (hroot : location ≠ []) (entry : Entry)
    (place : Location) :
    Store.entry? (store.put location entry) place =
      if place = location then some entry else store.entry? place := by
  unfold entry?
  by_cases hempty : place = []
  · simp [hempty, hroot.symm]
  · simp only [List.isEmpty_iff, hempty, if_false]
    cases hlookup : store.entries.lookup location with
    | some old =>
        rw [put_of_some hlookup, lookup_map_replace]
        split
        · next hplace => rw [hplace, hlookup, Option.map_some]
        · rfl
    | none =>
        rw [put_of_none hlookup, List.lookup_append]
        by_cases hplace : place = location
        · rw [if_pos hplace, hplace, hlookup]
          simp
        · have hskip : (place == location) = false := by simpa using hplace
          simp [List.lookup_cons, hskip, hplace]

/-- Of two entries put in one place the second one counts. -/
theorem put_put (store : Store) (location : Location) (first second : Entry) :
    (store.put location first).put location second = store.put location second := by
  cases hlookup : store.entries.lookup location with
  | some old =>
      have hthere : (store.put location first).entries.lookup location = some first := by
        rw [put_of_some hlookup, lookup_map_replace, if_pos rfl, hlookup, Option.map_some]
      rw [put_of_some hthere, put_of_some hlookup, put_of_some hlookup]
      simp only [List.map_map]
      congr 1
      refine List.map_congr_left fun slot _ => ?_
      by_cases hslot : slot.1 = location <;> simp [hslot]
  | none =>
      have hthere : (store.put location first).entries.lookup location = some first := by
        rw [put_of_none hlookup, List.lookup_append, hlookup]
        simp
      rw [put_of_some hthere, put_of_none hlookup, put_of_none hlookup]
      -- no entry before the new one stands there
      have hkeep : store.entries.map (fun (place, old) =>
          if place = location then (place, second) else (place, old)) = store.entries := by
        refine (List.map_congr_left fun slot hslot => ?_).trans (List.map_id _)
        have hother := List.lookup_eq_none_iff.mp hlookup slot hslot
        have hother : slot.1 ≠ location := fun heq => by simp [heq] at hother
        simp [hother]
      simp [hkeep]

/-! ## Where walks end -/

/-- What the end of a walk tells about a store is so.  A directory that is found may be the one
where the walk started. -/
inductive Tells (store : Store) : Walk → Prop
  | directory (location : Location) : Tells store (.found location .directory)
  | found {location : Location} {entry : Entry} (hstands : store.entry? location = some entry)
      (hbelow : location ≠ []) : Tells store (.found location entry)
  | absent {location : Location} (hnothing : store.entry? location = none)
      (hbelow : location ≠ []) : Tells store (.absent location)
  | link (base : Location) (target : Path) (rest : List Name) :
      Tells store (.link base target rest)
  | failed (error : OsError) : Tells store (.failed error)

theorem tells_walk (store : Store) (aim : Aim) (base : Location) (segments : List Name) :
    store.Tells (store.walk aim base segments) := by
  induction segments generalizing base with
  | nil => exact .directory base
  | cons segment rest ih =>
      have hbelow : base ++ [segment] ≠ [] := by simp
      simp only [walk]
      split
      · exact ih base
      · split
        · exact .failed _
        · split
          · exact ih base
          · split
            · exact ih _
            · split
              · exact .failed _
              · split
                · exact .failed _
                · -- only the last segment can end a walk, except at a link
                  split
                  · next hnothing =>
                      split
                      · exact .absent hnothing hbelow
                      · exact .failed _
                  · exact ih _
                  · next hlink =>
                      split
                      · exact .found hlink hbelow
                      · exact .link _ _ _
                  · next hstands =>
                      split
                      · exact .found hstands hbelow
                      · exact .failed _

theorem tells_walkLinks (store : Store) (aim : Aim) (links : Nat) (base : Location)
    (segments : List Name) : store.Tells (store.walkLinks aim links base segments) := by
  have hwalk := store.tells_walk aim base segments
  induction links generalizing base segments with
  | zero =>
      unfold walkLinks
      split
      · exact .failed _
      · exact hwalk
  | succ links ih =>
      unfold walkLinks
      split
      · simp only
        split
        · exact .failed _
        · exact ih _ _ (store.tells_walk _ _ _)
      · exact hwalk

theorem tells_walkPath (store : Store) (aim : Aim) (path : Path) :
    store.Tells (store.walkPath aim path) := by
  unfold walkPath
  split
  · exact .failed _
  · split
    · exact .failed _
    · split
      · exact .failed _
      · exact store.tells_walkLinks _ _ _ _

/-- A path leads to a regular file, or to a name that its directory does not hold, and the file or
the directory may be written. -/
inductive LeadsTo (store : Store) (path : Path) : Location → Option (List UInt8) → Prop
  | file {location : Location} {bytes : List UInt8}
      (h : store.walkPath .newFile path = .found location (.file bytes))
      (hallowed : store.allows location .write = true) : LeadsTo store path location (some bytes)
  | absent {location : Location} (h : store.walkPath .newFile path = .absent location)
      (hallowed : store.allows location.dropLast .write = true) : LeadsTo store path location none

/-- What a path leads to stands there. -/
theorem LeadsTo.stands {store : Store} {path : Path} {location : Location}
    {old : Option (List UInt8)} (h : store.LeadsTo path location old) :
    store.entry? location = old.map .file ∧ location ≠ [] := by
  have htells := store.tells_walkPath .newFile path
  cases h with
  | file hfound _ =>
      rw [hfound] at htells
      cases htells with
      | found hstands hbelow => exact ⟨hstands, hbelow⟩
  | absent hnothing _ =>
      rw [hnothing] at htells
      cases htells with
      | absent hnothing hbelow => exact ⟨hnothing, hbelow⟩

end Store

/-! ## Edits -/

/-- A regular file gets new contents. -/
structure Edit where
  location : Location
  /-- The contents before; `none` if the file is made. -/
  old : Option (List UInt8)
  /-- Whether the old contents are kept in front of the new octets. -/
  append : Bool
  /-- The new octets. -/
  written : List UInt8

/-- The contents after an edit. -/
def Edit.contents (edit : Edit) : List UInt8 :=
  (if edit.append then edit.old.getD [] else []) ++ edit.written

/-- The store after an edit. -/
def Store.edit (store : Store) (edit : Edit) : Store :=
  store.put edit.location (.file edit.contents)

/-- The store after a step that makes an edit or none. -/
def Store.after (store : Store) : Option Edit → Store
  | none => store
  | some edit => store.edit edit

/-- An edit is about a regular file as it stands in a store, or about a place where nothing
stands. -/
structure Edit.Fits (edit : Edit) (store : Store) : Prop where
  stands : store.entry? edit.location = edit.old.map .file
  below : edit.location ≠ []

/-- Some steps, each of which makes an edit or leaves the store as it is, lead from one store
to another. -/
inductive EditedBy : Store → List (Option Edit) → Store → Prop
  | nil (store : Store) : EditedBy store [] store
  | keeps {store after : Store} {edits : List (Option Edit)} (h : EditedBy store edits after) :
      EditedBy store (none :: edits) after
  | edits {store after : Store} {edit : Edit} {edits : List (Option Edit)}
      (hfits : edit.Fits store) (h : EditedBy (store.edit edit) edits after) :
      EditedBy store (some edit :: edits) after

section EditedBy

variable {before after : Store} {edits : List (Option Edit)}

theorem entry?_edit {store : Store} {edit : Edit} (h : edit.Fits store) (place : Location) :
    Store.entry? (store.edit edit) place =
      if place = edit.location then some (.file edit.contents) else store.entry? place :=
  Store.entry?_put h.below _ place

/-- A place that no edit is about holds what it held. -/
theorem EditedBy.untouched (h : EditedBy before edits after) {place : Location}
    (hplace : ∀ edit, some edit ∈ edits → edit.location ≠ place) :
    after.entry? place = before.entry? place := by
  induction h with
  | nil => rfl
  | keeps _ ih => exact ih fun edit hmem => hplace edit (List.mem_cons_of_mem _ hmem)
  | edits hfits _ ih =>
      have hother := hplace _ (List.mem_cons_self ..)
      rw [ih fun edit hmem => hplace edit (List.mem_cons_of_mem _ hmem), entry?_edit hfits,
        if_neg hother.symm]

/-- Directories, links and devices stay as they are, and none is made. -/
theorem EditedBy.others (h : EditedBy before edits after) (place : Location) {entry : Entry}
    (hentry : ∀ bytes, entry ≠ .file bytes) :
    after.entry? place = some entry ↔ before.entry? place = some entry := by
  induction h with
  | nil => rfl
  | keeps _ ih => exact ih
  | @edits store after edit _ hfits _ ih =>
      rw [ih, entry?_edit hfits]
      split
      · next hplace =>
          -- before and after, a regular file or nothing stands there
          rw [hplace, hfits.stands]
          constructor
          · intro hfile
            exact absurd (Option.some.inj hfile).symm (hentry _)
          · intro hold
            obtain ⟨bytes, -, hbytes⟩ := Option.map_eq_some_iff.mp hold
            exact absurd hbytes.symm (hentry bytes)
      · rfl

/-- A file holds what the last edit of it has left. -/
theorem EditedBy.latest {earlier later : List (Option Edit)} {edit : Edit}
    (h : EditedBy before (earlier ++ some edit :: later) after)
    (hlater : ∀ other, some other ∈ later → other.location ≠ edit.location) :
    after.entry? edit.location = some (.file edit.contents) := by
  generalize hedits : earlier ++ some edit :: later = edits at h
  induction h generalizing earlier with
  | nil => simp at hedits
  | keeps _ ih =>
      cases earlier with
      | nil => cases hedits
      | cons first rest => exact ih (List.cons.inj hedits).2
  | edits hfits hrest ih =>
      cases earlier with
      | nil =>
          obtain ⟨hedit, rfl⟩ := List.cons.inj hedits
          obtain rfl := Option.some.inj hedit
          rw [hrest.untouched hlater, entry?_edit hfits, if_pos rfl]
      | cons first rest => exact ih (List.cons.inj hedits).2

theorem EditedBy.denials (h : EditedBy before edits after) : after.denials = before.denials := by
  induction h with
  | nil => rfl
  | keeps _ ih => exact ih
  | edits _ _ ih => rw [ih, Store.edit, Store.put_denials]

theorem EditedBy.current (h : EditedBy before edits after) : after.current = before.current := by
  induction h with
  | nil => rfl
  | keeps _ ih => exact ih
  | edits _ _ ih => rw [ih, Store.edit, Store.put_current]

/-- One more step in front. -/
theorem EditedBy.cons {store after : Store} {edit? : Option Edit} {edits : List (Option Edit)}
    (hfits : ∀ edit, edit? = some edit → edit.Fits store)
    (h : EditedBy (store.after edit?) edits after) : EditedBy store (edit? :: edits) after := by
  cases edit? with
  | none => exact .keeps h
  | some edit => exact .edits (hfits edit rfl) h

theorem EditedBy.append {middle : Store} {later : List (Option Edit)}
    (h : EditedBy before edits middle) (hlater : EditedBy middle later after) :
    EditedBy before (edits ++ later) after := by
  induction h with
  | nil => exact hlater
  | keeps _ ih => exact .keeps (ih hlater)
  | edits hfits _ ih => exact .edits hfits (ih hlater)

end EditedBy

/-- What some steps have done to a store: they are the edits listed, every place that none of
them is about holds what it held, no directory, link or device has been made, removed or
changed, a file that has been written holds what the last edit of it has left, relative paths
start where they did, and the same is denied. -/
structure Framed (before : Store) (edits : List (Option Edit)) (after : Store) : Prop where
  editedBy : EditedBy before edits after
  untouched : ∀ place, (∀ edit, some edit ∈ edits → edit.location ≠ place) →
    after.entry? place = before.entry? place
  others : ∀ place entry, (∀ bytes, entry ≠ .file bytes) →
    (after.entry? place = some entry ↔ before.entry? place = some entry)
  latest : ∀ earlier edit later, edits = earlier ++ some edit :: later →
    (∀ other, some other ∈ later → other.location ≠ edit.location) →
    after.entry? edit.location = some (.file edit.contents)
  current : after.current = before.current
  denials : after.denials = before.denials

theorem EditedBy.framed {before after : Store} {edits : List (Option Edit)}
    (h : EditedBy before edits after) : Framed before edits after where
  editedBy := h
  untouched _ hplace := h.untouched hplace
  others place _ hentry := h.others place hentry
  latest earlier edit later hedits hlater := by
    subst hedits
    exact h.latest hlater
  current := h.current
  denials := h.denials

/-! ## What opening and writing amount to -/

/-- A regular file, existing or to be made, takes what is written to it. -/
theorem openForWriting_of_leadsTo {store : Store} {path : Path} {location : Location}
    {old : Option (List UInt8)} (h : store.LeadsTo path location old) (append : Bool)
    (bytes : List UInt8) :
    ∃ opened, store.openForWriting path append = .ok opened ∧
      opened.write bytes = .ok (store.edit ⟨location, old, append, bytes⟩) := by
  have hbelow := h.stands.2
  -- the file is emptied or kept when it is opened, and then written to
  have hwrite : ∀ kept : List UInt8, (⟨location, store.put location (.file kept)⟩ : Opened).write
      bytes = .ok (store.put location (.file (kept ++ bytes))) := by
    intro kept
    simp only [Opened.write, Store.entry?_put hbelow, if_true, Store.put_put]
  cases h with
  | @file contents hfound hallowed =>
      refine ⟨⟨location, store.put location (.file (if append then contents else []))⟩,
        by simp only [Store.openForWriting, hfound, hallowed, if_true], ?_⟩
      rw [hwrite]
      rfl
  | absent hnothing hallowed =>
      refine ⟨⟨location, store.put location (.file [])⟩,
        by simp only [Store.openForWriting, hnothing, hallowed, if_true], ?_⟩
      rw [hwrite]
      cases append <;> rfl

/-- A device that may be written takes what is written to it, or is full, and nothing changes. -/
theorem openForWriting_of_device {store : Store} {path : Path} {location : Location}
    {kind : Device} (h : store.walkPath .newFile path = .found location (.device kind))
    (hallowed : store.allows location .write = true) (append : Bool) (bytes : List UInt8) :
    ∃ opened, store.openForWriting path append = .ok opened ∧ opened.store = store ∧
      opened.write bytes =
        if kind.full && !bytes.isEmpty then .error .noSpace else .ok store := by
  have hstands : store.entry? location = some (.device kind) := by
    have htells := store.tells_walkPath .newFile path
    rw [h] at htells
    cases htells with
    | found hstands => exact hstands
  refine ⟨⟨location, store⟩, by simp only [Store.openForWriting, h, hallowed, if_true], rfl, ?_⟩
  simp only [Opened.write, hstands]

/-- Nothing else can be opened. -/
theorem openForWriting_eq_ok {store : Store} {path : Path} {append : Bool} {opened : Opened}
    (h : store.openForWriting path append = .ok opened) :
    (∃ location old, store.LeadsTo path location old) ∨
      ∃ location kind, store.walkPath .newFile path = .found location (.device kind) ∧
        store.allows location .write = true := by
  unfold Store.openForWriting at h
  split at h
  · cases h
  · next hfound =>
      split at h
      · next hallowed => exact .inl ⟨_, _, .file hfound hallowed⟩
      · cases h
  · next hfound =>
      split at h
      · next hallowed => exact .inr ⟨_, _, hfound, hallowed⟩
      · cases h
  · cases h
  · cases h
  · next hnothing =>
      split at h
      · next hallowed => exact .inl ⟨_, _, .absent hnothing hallowed⟩
      · cases h
  · cases h

end Conch.Files
