import Conch.Files.Store
import Conch.Proofs.Path.Rooted

/-!
# Following links

`Leads` says what a way leads to when every link on it is followed, and over how many links.  It
knows no limit, but what dangles or goes round in circles leads nowhere, and so does what has to be
looked up in a directory that may not be searched.  A walk finds just what its way leads to over no
more links than it may follow (`walkLinks_eq_found_iff`).  A way can be cut at any place, and the
links of its parts add up.
-/

namespace Conch.Files

/-- A segment that asks for an entry of a directory: it is not empty, does not lead nowhere or up
and is not too long. -/
structure AsksEntry (segment : Name) : Prop where
  nonempty : segment ≠ []
  ne_here : segment ≠ Path.here
  ne_up : segment ≠ Path.upward
  short : segment.length ≤ maxName

instance (segment : Name) : Decidable (AsksEntry segment) :=
  decidable_of_iff
    (segment ≠ [] ∧ segment ≠ Path.here ∧ segment ≠ Path.upward ∧ segment.length ≤ maxName)
    ⟨fun ⟨hsome, hhere, hup, hshort⟩ => ⟨hsome, hhere, hup, hshort⟩,
      fun h => ⟨h.nonempty, h.ne_here, h.ne_up, h.short⟩⟩

/-- Whether a way can only end at an entry. -/
def Entry.endsWay : Entry → Bool
  | .directory | .link _ => false
  | .file _ | .device _ => true

namespace Store

/-- What the first segment of a way does in the directory `base`: which directory comes next, how
many links are followed, and which segments have to be gone before the rest. -/
inductive Step (store : Store) (base : Location) :
    Name → Location → Nat → List Name → Prop
  | pass : Step store base [] base 0 []
  | stay (hsearch : store.allows base .search = true) : Step store base Path.here base 0 []
  | up (hsearch : store.allows base .search = true) :
      Step store base Path.upward base.dropLast 0 []
  | down {segment : Name} (hsearch : store.allows base .search = true)
      (hasks : AsksEntry segment)
      (hstands : store.entry? (base ++ [segment]) = some .directory) :
      Step store base segment (base ++ [segment]) 0 []
  | link {segment : Name} {target : Path} (hsearch : store.allows base .search = true)
      (hasks : AsksEntry segment)
      (hstands : store.entry? (base ++ [segment]) = some (.link target)) (htarget : target ≠ []) :
      Step store base segment (if Path.isAbsolute target then [] else base) 1
        (segmentsOf target)

/-- From the directory `base`, the segments lead to an entry when so many links are followed, which
are all that are met. -/
inductive Leads (store : Store) : Location → List Name → Nat → Location → Entry → Prop
  | here (base : Location) : Leads store base [] 0 base .directory
  | step {base next place : Location} {segment : Name} {detour rest : List Name}
      {crossed links : Nat} {entry : Entry} (hstep : store.Step base segment next crossed detour)
      (hrest : Leads store next (detour ++ rest) links place entry) :
      Leads store base (segment :: rest) (crossed + links) place entry
  | last {base : Location} {segment : Name} {entry : Entry}
      (hsearch : store.allows base .search = true) (hasks : AsksEntry segment)
      (hstands : store.entry? (base ++ [segment]) = some entry) (hends : entry.endsWay = true) :
      Leads store base [segment] 0 (base ++ [segment]) entry

/-! ## Walks find what ways lead to -/

section Links

variable {store : Store} {aim : Aim} {base : Location} {segments : List Name}

theorem walkLinks_of_stop
    (h : ∀ directory target rest, store.walk aim base segments ≠ .link directory target rest)
    (links : Nat) : store.walkLinks aim links base segments = store.walk aim base segments := by
  rw [walkLinks.eq_def]
  split
  · next hlink => exact absurd hlink (h _ _ _)
  · rfl

theorem walkLinks_of_link {directory : Location} {target : Path} {rest : List Name}
    (h : store.walk aim base segments = .link directory target rest) (links : Nat) :
    store.walkLinks aim (links + 1) base segments =
      if target.isEmpty then .failed .noEntry
      else store.walkLinks aim links (if Path.isAbsolute target then [] else directory)
        (segmentsOf target ++ rest) := by
  rw [walkLinks.eq_def, h]

theorem walkLinks_zero_of_link {directory : Location} {target : Path} {rest : List Name}
    (h : store.walk aim base segments = .link directory target rest) :
    store.walkLinks aim 0 base segments = .failed .tooManyLinks := by
  rw [walkLinks.eq_def, h]

end Links

section Walks

variable {store : Store} {base place : Location} {segment : Name} {segments rest : List Name}
  {links : Nat} {entry : Entry}

theorem walk_pass : store.walk .target base ([] :: rest) = store.walk .target base rest :=
  rfl

/-- Every other segment is looked up. -/
theorem walk_denied (hsome : segment ≠ []) (hdenied : store.allows base .search = false) :
    store.walk .target base (segment :: rest) = .failed .denied := by
  simp [walk, hsome, hdenied]

section Searching

variable (hsearch : store.allows base .search = true)
include hsearch

theorem walk_stay :
    store.walk .target base (Path.here :: rest) = store.walk .target base rest := by
  simp [walk, hsearch, Path.here]

theorem walk_up :
    store.walk .target base (Path.upward :: rest) = store.walk .target base.dropLast rest := by
  simp [walk, hsearch, Path.here, Path.upward]

/-- What a walk does at a segment that asks for an entry. -/
theorem walk_cons (hasks : AsksEntry segment) :
    store.walk .target base (segment :: rest) =
      match store.entry? (base ++ [segment]) with
      | none => if rest.isEmpty then .absent (base ++ [segment]) else .failed .noEntry
      | some .directory => store.walk .target (base ++ [segment]) rest
      | some (.link target) => .link base target rest
      | some entry =>
          if rest.isEmpty then .found (base ++ [segment]) entry else .failed .notDirectory := by
  have hloud : segment.isEmpty = false := by simpa using hasks.nonempty
  rcases hentry : store.entry? (base ++ [segment]) with _ | _ | _ | _ | _ <;>
    simp only [walk, hentry, hloud, hsearch, hasks.ne_here, hasks.ne_up,
      Nat.not_lt.mpr hasks.short, reduceCtorEq, decide_false, Bool.not_true, Bool.false_and,
      Bool.and_false, Bool.false_eq_true, if_false]

theorem walk_down (hasks : AsksEntry segment)
    (hstands : store.entry? (base ++ [segment]) = some .directory) :
    store.walk .target base (segment :: rest) = store.walk .target (base ++ [segment]) rest := by
  rw [walk_cons hsearch hasks, hstands]

theorem walk_link {target : Path} (hasks : AsksEntry segment)
    (hstands : store.entry? (base ++ [segment]) = some (.link target)) :
    store.walk .target base (segment :: rest) = .link base target rest := by
  rw [walk_cons hsearch hasks, hstands]

theorem walk_last (hasks : AsksEntry segment)
    (hstands : store.entry? (base ++ [segment]) = some entry) (hends : entry.endsWay = true) :
    store.walk .target base (segment :: rest) =
      if rest.isEmpty then .found (base ++ [segment]) entry else .failed .notDirectory := by
  rw [walk_cons hsearch hasks, hstands]
  cases entry <;> first | rfl | cases hends

end Searching

theorem walkLinks_congr {other : Location} {others : List Name}
    (h : store.walk .target base segments = store.walk .target other others) :
    store.walkLinks .target links base segments = store.walkLinks .target links other others := by
  rw [walkLinks.eq_def, walkLinks.eq_def, h]

theorem Step.walkLinks_eq {next : Location} {crossed : Nat} {detour : List Name}
    (h : store.Step base segment next crossed detour) (limit : Nat) :
    store.walkLinks .target (crossed + limit) base (segment :: rest) =
      store.walkLinks .target limit next (detour ++ rest) := by
  cases h with
  | pass => rw [Nat.zero_add]; exact walkLinks_congr walk_pass
  | stay hsearch => rw [Nat.zero_add]; exact walkLinks_congr (walk_stay hsearch)
  | up hsearch => rw [Nat.zero_add]; exact walkLinks_congr (walk_up hsearch)
  | down hsearch hasks hstands =>
      rw [Nat.zero_add]
      exact walkLinks_congr (walk_down hsearch hasks hstands)
  | @link segment target hsearch hasks hstands htarget =>
      have hsome : ¬target.isEmpty = true := by simpa using htarget
      rw [Nat.add_comm, walkLinks_of_link (walk_link hsearch hasks hstands), if_neg hsome]

/-- What a way leads to is found by a walk that may follow its links. -/
theorem Leads.walkLinks_eq (h : store.Leads base segments links place entry) {limit : Nat}
    (hlimit : links ≤ limit) :
    store.walkLinks .target limit base segments = .found place entry := by
  induction h generalizing limit with
  | here base => rw [walkLinks_of_stop (by simp [walk])]; rfl
  | @step base next place segment detour rest crossed links entry hstep _ ih =>
      obtain ⟨left, rfl⟩ := Nat.exists_eq_add_of_le (Nat.le_trans (Nat.le_add_right _ _) hlimit)
      rw [hstep.walkLinks_eq, ih (Nat.le_of_add_le_add_left hlimit)]
  | @last base segment entry hsearch hasks hstands hends =>
      have hfound : store.walk .target base [segment] = .found (base ++ [segment]) entry :=
        walk_last hsearch hasks hstands hends
      rw [walkLinks_of_stop (by simp [hfound]), hfound]

theorem walkLinks_ne_found (hsearch : store.allows base .search = true)
    (hasks : AsksEntry segment) (hnothing : store.entry? (base ++ [segment]) = none) :
    store.walkLinks .target links base (segment :: rest) ≠ .found place entry := by
  have hwalk : store.walk .target base (segment :: rest) = _ := walk_cons hsearch hasks
  rw [hnothing] at hwalk
  dsimp only at hwalk
  split at hwalk <;> rw [walkLinks_of_stop (by simp [hwalk]), hwalk] <;> exact nofun

/-- A walk finds a file only at the last segment. -/
theorem eq_of_walkLinks {found : Entry} (hsearch : store.allows base .search = true)
    (hasks : AsksEntry segment) (hstands : store.entry? (base ++ [segment]) = some found)
    (hends : found.endsWay = true)
    (h : store.walkLinks .target links base (segment :: rest) = .found place entry) :
    rest = [] ∧ place = base ++ [segment] ∧ entry = found := by
  have hwalk : store.walk .target base (segment :: rest) = _ :=
    walk_last hsearch hasks hstands hends
  split at hwalk <;> rw [walkLinks_of_stop (by simp [hwalk]), hwalk] at h <;> cases h
  next hlast => exact ⟨List.isEmpty_iff.mp hlast, rfl, rfl⟩

/-- What a walk finds is what its way leads to.  The induction is on the links that are left, and
between two links on the segments. -/
theorem leads_of_walkLinks
    (h : store.walkLinks .target links base segments = .found place entry) :
    ∃ followed ≤ links, store.Leads base segments followed place entry := by
  induction links using Nat.strongRecOn generalizing base segments with
  | _ links ihlinks =>
      induction segments generalizing base with
      | nil =>
          rw [walkLinks_of_stop (by simp [walk])] at h
          cases h
          exact ⟨0, Nat.zero_le _, .here _⟩
      | cons segment rest ih =>
          by_cases hempty : segment = []
          · subst hempty
            obtain ⟨followed, hle, hrest⟩ := ih (walkLinks_congr walk_pass ▸ h)
            exact ⟨0 + followed, by rwa [Nat.zero_add], .step .pass hrest⟩
          cases hsearch : store.allows base .search with
          | false =>
              -- every other segment is looked up in the directory, and that may be denied
              have hfails : store.walk .target base (segment :: rest) = .failed .denied :=
                walk_denied hempty hsearch
              rw [walkLinks_of_stop (by simp [hfails]), hfails] at h
              cases h
          | true =>
          by_cases hhere : segment = Path.here
          · subst hhere
            obtain ⟨followed, hle, hrest⟩ := ih (walkLinks_congr (walk_stay hsearch) ▸ h)
            exact ⟨0 + followed, by rwa [Nat.zero_add], .step (.stay hsearch) hrest⟩
          by_cases hup : segment = Path.upward
          · subst hup
            obtain ⟨followed, hle, hrest⟩ := ih (walkLinks_congr (walk_up hsearch) ▸ h)
            exact ⟨0 + followed, by rwa [Nat.zero_add], .step (.up hsearch) hrest⟩
          by_cases hlong : maxName < segment.length
          · have hfails : store.walk .target base (segment :: rest) = .failed .nameTooLong := by
              simp [walk, hempty, hsearch, hhere, hup, hlong]
            rw [walkLinks_of_stop (by simp [hfails]), hfails] at h
            cases h
          -- what is left is a name, and what stands there says how the walk goes on
          have hasks : AsksEntry segment := ⟨hempty, hhere, hup, Nat.le_of_not_lt hlong⟩
          cases hentry : store.entry? (base ++ [segment]) with
          | none => exact absurd h (walkLinks_ne_found hsearch hasks hentry)
          | some found =>
              cases found with
              | directory =>
                  obtain ⟨followed, hle, hrest⟩ :=
                    ih (walkLinks_congr (walk_down hsearch hasks hentry) ▸ h)
                  exact ⟨0 + followed, by rwa [Nat.zero_add],
                    .step (.down hsearch hasks hentry) hrest⟩
              | link target =>
                  cases links with
                  | zero =>
                      rw [walkLinks_zero_of_link (walk_link hsearch hasks hentry)] at h
                      cases h
                  | succ links =>
                      rw [walkLinks_of_link (walk_link hsearch hasks hentry)] at h
                      split at h
                      · cases h
                      · next htarget =>
                          -- its target comes in front of the segments: only the links are fewer
                          obtain ⟨followed, hle, hrest⟩ := ihlinks links (Nat.lt_succ_self _) h
                          exact ⟨1 + followed, by omega,
                            .step (.link hsearch hasks hentry (by simpa using htarget)) hrest⟩
              | file | device =>
                  obtain ⟨rfl, rfl, rfl⟩ := eq_of_walkLinks hsearch hasks hentry rfl h
                  exact ⟨0, Nat.zero_le _, .last hsearch hasks hentry rfl⟩

theorem walkLinks_eq_found_iff :
    store.walkLinks .target links base segments = .found place entry ↔
      ∃ followed ≤ links, store.Leads base segments followed place entry :=
  ⟨leads_of_walkLinks, fun ⟨_, hle, h⟩ => h.walkLinks_eq hle⟩

end Walks

/-! ## Ways in parts -/

section Parts

variable {store : Store} {base place : Location} {segments first later : List Name}
  {links : Nat} {entry : Entry}

/-- Behind a directory the way goes on, and the links of both parts count. -/
theorem Leads.trans {middle : Location} {before : Nat}
    (h : store.Leads base first before middle .directory)
    (hlater : store.Leads middle later links place entry) :
    store.Leads base (first ++ later) (before + links) place entry := by
  generalize hdirectory : Entry.directory = reached at h
  induction h with
  | here base => simpa using hlater
  | step hstep _ ih =>
      have hrest := ih hlater hdirectory
      rw [List.append_assoc] at hrest
      rw [Nat.add_assoc]
      exact .step hstep hrest
  | last _ hasks hstands hends =>
      subst hdirectory
      cases hends

/-- A way with something behind a place on it leads to a directory there. -/
theorem Leads.split (h : store.Leads base segments links place entry)
    (hparts : segments = first ++ later) (hlater : later ≠ []) :
    ∃ middle before behind, before + behind = links ∧
      store.Leads base first before middle .directory ∧
      store.Leads middle later behind place entry := by
  induction h generalizing first with
  | here base => exact absurd (List.append_eq_nil_iff.mp hparts.symm).2 hlater
  | @step base next place segment detour rest crossed links entry hstep hrest ih =>
      rcases List.cons_eq_append_iff.mp hparts with ⟨rfl, rfl⟩ | ⟨first, rfl, rfl⟩
      · exact ⟨base, 0, _, Nat.zero_add _, .here base, .step hstep hrest⟩
      · obtain ⟨middle, before, behind, rfl, hfirst, hbehind⟩ :=
          ih (List.append_assoc detour first later).symm
        exact ⟨middle, crossed + before, behind, Nat.add_assoc .., .step hstep hfirst, hbehind⟩
  | @last base segment entry hsearch hasks hstands hends =>
      rcases List.cons_eq_append_iff.mp hparts with ⟨rfl, rfl⟩ | ⟨first, rfl, hrest⟩
      · exact ⟨base, 0, 0, rfl, .here base, .last hsearch hasks hstands hends⟩
      · exact absurd (List.append_eq_nil_iff.mp hrest.symm).2 hlater

theorem Step.deterministic {segment : Name} {next next' : Location} {crossed crossed' : Nat}
    {detour detour' : List Name} (h : store.Step base segment next crossed detour)
    (h' : store.Step base segment next' crossed' detour') :
    next' = next ∧ crossed' = crossed ∧ detour' = detour := by
  cases h with
  | pass =>
      cases h' with
      | pass => exact ⟨rfl, rfl, rfl⟩
      | down _ hasks | link _ hasks => exact absurd rfl hasks.nonempty
  | stay =>
      cases h' with
      | stay => exact ⟨rfl, rfl, rfl⟩
      | down _ hasks | link _ hasks => exact absurd rfl hasks.ne_here
  | up =>
      cases h' with
      | up => exact ⟨rfl, rfl, rfl⟩
      | down _ hasks | link _ hasks => exact absurd rfl hasks.ne_up
  | down _ hasks hstands =>
      cases h' with
      | pass => exact absurd rfl hasks.nonempty
      | stay => exact absurd rfl hasks.ne_here
      | up => exact absurd rfl hasks.ne_up
      | down => exact ⟨rfl, rfl, rfl⟩
      | link _ _ hlink => cases hstands.symm.trans hlink
  | link _ hasks hstands =>
      cases h' with
      | pass => exact absurd rfl hasks.nonempty
      | stay => exact absurd rfl hasks.ne_here
      | up => exact absurd rfl hasks.ne_up
      | down _ _ hdirectory => cases hstands.symm.trans hdirectory
      | link _ _ hlink => cases hstands.symm.trans hlink; exact ⟨rfl, rfl, rfl⟩

/-- At a file there is no step. -/
theorem Step.not_endsWay {segment : Name} {next : Location} {crossed : Nat}
    {detour : List Name} (h : store.Step base segment next crossed detour)
    (hasks : AsksEntry segment) (hstands : store.entry? (base ++ [segment]) = some entry) :
    entry.endsWay = false := by
  cases h with
  | pass => exact absurd rfl hasks.nonempty
  | stay => exact absurd rfl hasks.ne_here
  | up => exact absurd rfl hasks.ne_up
  | down _ _ hdirectory => cases hstands.symm.trans hdirectory; rfl
  | link _ _ hlink => cases hstands.symm.trans hlink; rfl

/-- A way leads to one entry only, and over one number of links. -/
theorem Leads.deterministic (h : store.Leads base segments links place entry)
    {links' : Nat} {place' : Location} {entry' : Entry}
    (h' : store.Leads base segments links' place' entry') :
    links' = links ∧ place' = place ∧ entry' = entry := by
  induction h generalizing links' with
  | here base => cases h'; exact ⟨rfl, rfl, rfl⟩
  | step hstep _ ih =>
      cases h' with
      | step hstep' hrest =>
          obtain ⟨rfl, rfl, rfl⟩ := hstep.deterministic hstep'
          obtain ⟨rfl, rfl, rfl⟩ := ih hrest
          exact ⟨rfl, rfl, rfl⟩
      | last _ hasks hstands hends =>
          exact nomatch (hstep.not_endsWay hasks hstands).symm.trans hends
  | last _ hasks hstands hends =>
      cases h' with
      | step hstep => exact nomatch (hstep.not_endsWay hasks hstands).symm.trans hends
      | last _ _ hfile => cases hstands.symm.trans hfile; exact ⟨rfl, rfl, rfl⟩

/-- A way that begins with a look at a name begins in a directory that may be searched. -/
theorem Leads.search {segment : Name} {rest : List Name}
    (h : store.Leads base (segment :: rest) links place entry) (hsome : segment ≠ []) :
    store.allows base .search = true := by
  cases h with
  | step hstep _ =>
      cases hstep with
      | pass => exact absurd rfl hsome
      | stay hsearch | up hsearch | down hsearch | link hsearch => exact hsearch
  | last hsearch => exact hsearch

/-- Without a link a name leads to what stands under it. -/
theorem Leads.eq_of_zero {name : Name} (h : store.Leads base [name] 0 place entry)
    (hasks : AsksEntry name) : store.entry? (base ++ [name]) = some entry := by
  generalize hnone : 0 = followed at h
  cases h with
  | step hstep hrest =>
      cases hstep with
      | pass => exact absurd rfl hasks.nonempty
      | stay => exact absurd rfl hasks.ne_here
      | up => exact absurd rfl hasks.ne_up
      | down _ _ hstands => cases hrest; exact hstands
      | link => omega
  | last _ _ hstands => exact hstands

end Parts

/-! ## The paths of entries -/

/-- The directory in which the walk of a path starts. -/
def beginning (store : Store) (path : Path) : Location :=
  if Path.isAbsolute path then [] else store.current

/-- What a path names is what the way along its segments leads to over at most forty links. -/
theorem find_eq_ok_iff {store : Store} {path : Path} {place : Location} {entry : Entry} :
    store.find path = .ok (place, entry) ↔
      0 ∉ path ∧ path ≠ [] ∧ path.length ≤ maxPath ∧
        ∃ links ≤ maxLinks,
          store.Leads (store.beginning path) (segmentsOf path) links place entry := by
  rw [← walkLinks_eq_found_iff]
  have hfind : store.find path = .ok (place, entry) ↔
      store.walkPath .target path = .found place entry := by
    unfold find
    cases store.walkPath .target path <;> simp
  rw [hfind, walkPath, beginning]
  simp only [List.contains_iff_mem, List.isEmpty_iff]
  split
  · next hnull => simp [hnull]
  · next hnull =>
      split
      · next hempty => simp [hempty]
      · next hempty =>
          split
          · next hlong => simp [Nat.not_le.mpr hlong]
          · next hshort => simp [hnull, hempty, Nat.le_of_not_lt hshort]

theorem status_eq_ok_iff {store : Store} {path : Path} {entry : Entry} :
    store.status path = .ok entry ↔ ∃ place, store.find path = .ok (place, entry) := by
  unfold status
  cases store.find path with
  | error error => simp [Except.map]
  | ok found => cases found; simp [Except.map]

/-- The segments to an entry are those to its directory and its name, but for an empty one that a
slash at the end of the path of the directory leaves. -/
theorem exists_segmentsOf_join {path : Path} {name : Name} (hpath : path ≠ []) (hname : name ≠ [])
    (hslash : Path.slash ∉ name) :
    ∃ names, segmentsOf (Path.join path name) = names ++ [name] ∧
      (segmentsOf path = names ∨ segmentsOf path = names ++ [[]]) := by
  obtain ⟨before, hjoin, hbefore⟩ :=
    Path.exists_join_of_ne_nil hpath (Path.isAbsolute_of_slash_notMem hslash)
  have hends : (before ++ Path.slash :: name).getLast? ≠ some Path.slash := by
    rw [List.getLast?_append_cons, List.getLast?_cons_of_ne_nil hname]
    exact fun hlast => hslash (List.mem_of_getLast? hlast)
  refine ⟨(Path.segments before).filter fun segment => !segment.isEmpty, ?_, ?_⟩
  · rw [hjoin]
    simp only [segmentsOf, if_neg hends, Path.segments_append_slash,
      Path.segments_of_slash_notMem hslash, List.filter_append]
    simp [hname]
  · rcases hbefore with ⟨rfl, hopen⟩ | rfl
    · left
      simp only [segmentsOf, if_neg hopen]
    · right
      have hsegments : Path.segments (before ++ [Path.slash]) = Path.segments before ++ [[]] :=
        Path.segments_append_slash before []
      simp [segmentsOf, hsegments]

section Entries

variable {store : Store} {path : Path} {name : Name} {names : List Name} {directory : Location}
  {before : Nat}

/-- An empty segment behind a way changes nothing for a directory. -/
theorem Leads.without_slash {base : Location}
    (h : store.Leads base (names ++ [[]]) before directory .directory) :
    store.Leads base names before directory .directory := by
  obtain ⟨middle, followed, behind, rfl, hnames, hempty⟩ := h.split rfl (List.cons_ne_nil _ _)
  obtain ⟨rfl, rfl, -⟩ := (Leads.step .pass (.here middle)).deterministic hempty
  exact hnames

/-- The links on the way to a directory and those of an entry in it count together. -/
theorem status_join_iff
    (hthere : store.Leads (store.beginning path) (segmentsOf path) before directory .directory)
    (hclean : 0 ∉ path) (hpath : path ≠ []) (hasks : AsksEntry name)
    (hslash : Path.slash ∉ name) (hnull : 0 ∉ name) {entry : Entry} :
    store.status (Path.join path name) = .ok entry ↔
      (Path.join path name).length ≤ maxPath ∧
        ∃ followed place, before + followed ≤ maxLinks ∧
          store.Leads directory [name] followed place entry := by
  obtain ⟨names, hsegments, hends⟩ := exists_segmentsOf_join hpath hasks.nonempty hslash
  -- the slash between the path and the name may have been at the end of the path already
  have hnames : store.Leads (store.beginning path) names before directory .directory := by
    rcases hends with hends | hends
    · exact hends ▸ hthere
    · exact Leads.without_slash (hends ▸ hthere)
  -- ways are deterministic, so each one to the entry goes through the directory
  have hway : ∀ links place,
      store.Leads (store.beginning path) (names ++ [name]) links place entry ↔
        ∃ followed, links = before + followed ∧
          store.Leads directory [name] followed place entry := by
    intro links place
    constructor
    · intro h
      obtain ⟨middle, first, followed, rfl, hfirst, hname⟩ := h.split rfl (List.cons_ne_nil _ _)
      obtain ⟨rfl, rfl, -⟩ := hnames.deterministic hfirst
      exact ⟨followed, rfl, hname⟩
    · rintro ⟨followed, rfl, hname⟩
      exact hnames.trans hname
  obtain ⟨hsome, habsolute⟩ := Path.isAbsolute_join_eq hpath hslash
  have hbeginning : store.beginning (Path.join path name) = store.beginning path := by
    simp only [beginning, habsolute]
  have hfresh : 0 ∉ Path.join path name := fun hmem => by
    rcases Path.mem_join hmem with hmem | hmem | hmem
    · exact hclean hmem
    · cases hmem
    · exact hnull hmem
  simp only [status_eq_ok_iff, find_eq_ok_iff, hbeginning, hsegments, hway]
  constructor
  · rintro ⟨place, -, -, hlength, _, hlinks, followed, rfl, hname⟩
    exact ⟨hlength, followed, place, hlinks, hname⟩
  · rintro ⟨hlength, followed, place, hlinks, hname⟩
    exact ⟨place, hfresh, hsome, hlength, _, hlinks, followed, rfl, hname⟩

end Entries

end Store

end Conch.Files
