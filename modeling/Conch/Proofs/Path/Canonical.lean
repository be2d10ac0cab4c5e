import Conch.Proofs.Path.Route

/-!
# The canonical form of a path

Folding goes over a path part by part, so what stands at the start of a path can be folded
beforehand: it does not matter to the form of the whole.  From this the form of a longer path can
be read off that of its start.  A name is put behind it, and a `..` takes its last name off, or is
dropped at the root, or is kept where a relative path starts.

This is about spellings.  That a path and its form name the same file is not claimed, and where
links are about it need not be so.
-/

namespace Conch

namespace Path

/-- The segments of a path that lead somewhere, `..` and names. -/
def components (path : Path) : List Path :=
  (path.splitOn slash).filter fun segment => !isIdle segment

/-- A path goes up at its start at most, and only if it is relative. -/
structure ClimbsFirst (path : Path) : Prop where
  leading : upward ∉ (components path).dropWhile (· = upward)
  relative : isAbsolute path = true → upward ∉ components path

instance (path : Path) : Decidable (ClimbsFirst path) :=
  decidable_of_iff
    (((components path).dropWhile (· = upward)).contains upward = false ∧
      (isAbsolute path = true → (components path).contains upward = false))
    ⟨fun ⟨hleading, hrelative⟩ => ⟨by simpa using hleading, by simpa using hrelative⟩,
      fun h => ⟨by simpa using h.leading, by simpa using h.relative⟩⟩

/-! ## Components and parts -/

theorem components_eq (path : Path) : components path = (parts path).map Part.segment := by
  rw [components, parts, segments_eq_splitOn]
  induction path.splitOn slash with
  | nil => rfl
  | cons segment rest ih =>
      cases hsaid : Part.of? segment with
      | none =>
          have hidle := (of?_eq_none_iff segment).mp hsaid
          rw [List.filterMap_cons_none hsaid, ← ih, List.filter_cons_of_neg (by simp [hidle])]
      | some part =>
          have hmoves : ¬ isIdle segment = true := by
            rw [← of?_eq_none_iff, hsaid]
            exact Option.some_ne_none part
          rw [List.filterMap_cons_some hsaid, List.map_cons, ← ih, Part.segment_of_of? hsaid,
            List.filter_cons_of_pos (by simp [hmoves])]

theorem segment_eq_upward_iff {part : Part} (h : part.IsSaid) :
    part.segment = upward ↔ part = .up := by
  constructor
  · intro hsegment
    have hsaid := h.said
    rw [hsegment] at hsaid
    exact (Option.some.inj hsaid).symm
  · rintro rfl
    rfl

theorem upward_mem_components_iff (path : Path) :
    upward ∈ components path ↔ .up ∈ parts path := by
  rw [components_eq, List.mem_map]
  constructor
  · rintro ⟨part, hpart, hsegment⟩
    rwa [← (segment_eq_upward_iff (isSaid_of_mem_parts hpart)).mp hsegment]
  · exact fun hup => ⟨.up, hup, rfl⟩

/-- Folded parts, written out, climb first. -/
theorem climbsFirst_normalize (path : Path) : ClimbsFirst (normalize path) := by
  obtain ⟨names, count, hfolded, hnames, hroot⟩ :=
    isFolded_foldParts (isAbsolute path) (parts path)
  -- first to last, the parts are those that go up, and then the names
  have hparts : parts (normalize path) = List.replicate count .up ++ names.reverse := by
    rw [parts_normalize, ← List.reverse_reverse (foldParts _ _), hfolded, List.reverse_append,
      List.reverse_replicate]
  have hsaid : ∀ part ∈ names.reverse, part.IsSaid := by
    intro part hpart
    have hmem : part ∈ parts (normalize path) := by
      rw [hparts]
      exact List.mem_append_right _ hpart
    exact isSaid_of_mem_parts hmem
  have hnone : upward ∉ names.reverse.map Part.segment := by
    intro hup
    obtain ⟨part, hpart, hsegment⟩ := List.mem_map.mp hup
    rw [(segment_eq_upward_iff (hsaid part hpart)).mp hsegment, List.mem_reverse] at hpart
    exact hnames hpart
  have hcomponents : components (normalize path) =
      List.replicate count upward ++ names.reverse.map Part.segment := by
    rw [components_eq, hparts, List.map_append, List.map_replicate]
    rfl
  constructor
  · rw [hcomponents, List.dropWhile_append_of_pos (by simp)]
    exact fun hup => hnone ((List.dropWhile_sublist _).subset hup)
  · intro habsolute
    obtain rfl := hroot (by rwa [isAbsolute_normalize_eq] at habsolute)
    rwa [hcomponents]

-- A path that is not folded may go up behind a name.
example : ClimbsFirst (ofText "../x") ∧ ¬ ClimbsFirst (ofText "x/..") := by decide

/-! ## Paths behind paths -/

section Joining

variable {path later : Path}

theorem isAbsolute_join_of_relative (h : isAbsolute later = false) :
    isAbsolute (join path later) = isAbsolute path := by
  rw [join, h, if_neg Bool.false_ne_true]
  cases path with
  | nil => exact h
  | cons c rest => split <;> rfl

theorem parts_append_slash (first later : Path) :
    parts (first ++ slash :: later) = parts first ++ parts later := by
  rw [parts, segments_append_slash, List.filterMap_append, parts, parts]

theorem parts_join (h : isAbsolute later = false) :
    parts (join path later) = parts path ++ parts later := by
  by_cases hpath : path = []
  · obtain rfl := hpath
    rw [join, h]
    rfl
  · obtain ⟨before, hjoin, hbefore⟩ := exists_join_of_ne_nil hpath h
    rw [hjoin, parts_append_slash]
    rcases hbefore with ⟨rfl, -⟩ | rfl
    · rfl
    · -- behind the slash at the end of the path there is nothing
      have hnothing : parts [] = [] := rfl
      rw [parts_append_slash before [], hnothing, List.append_nil]

/-- The parts of a path behind another one are folded where the parts of that one have led. -/
theorem normalize_join (h : isAbsolute later = false) :
    normalize (join path later) =
      write (isAbsolute path)
        ((parts later).foldl (foldPart (isAbsolute path))
          (foldParts (isAbsolute path) (parts path)).reverse).reverse := by
  rw [normalize, isAbsolute_join_of_relative h, parts_join h, foldParts, foldParts,
    List.foldl_append, List.reverse_reverse]

/-- What stands at the start of a path can be folded beforehand. -/
theorem normalize_join_normalize (path later : Path) :
    normalize (join (normalize path) later) = normalize (join path later) := by
  cases habsolute : isAbsolute later with
  | true => rw [join, join, habsolute, if_pos rfl, if_pos rfl]
  | false =>
      rw [normalize_join habsolute, normalize_join habsolute, isAbsolute_normalize_eq,
        parts_normalize, foldParts_of_isFolded (isFolded_foldParts _ _)]

end Joining

/-! ## Names behind a path -/

section Extending

variable {absolute : Bool} {ps : List Part}

theorem write_concat (hsome : ps ≠ []) (part : Part) :
    write absolute (ps ++ [part]) = write absolute ps ++ slash :: part.segment := by
  have hsegments : ps.map Part.segment ≠ [] := by simpa using hsome
  rw [write, write, List.map_append, List.map_singleton, Text.intercalate_concat hsegments,
    List.append_assoc, List.append_assoc]
  rfl

/-- A path with a last part does not end in a slash. -/
theorem getLast?_write (absolute : Bool) (h : ∀ part ∈ ps, part.IsSaid) (hsome : ps ≠ []) :
    ∃ c, (write absolute ps).getLast? = some c ∧ c ≠ slash := by
  obtain ⟨before, last, rfl⟩ := (List.eq_nil_or_concat' ps).resolve_left hsome
  have hlast : last.IsSaid := h last (by simp)
  have hends : last.segment.getLast? = some (last.segment.getLast hlast.segment_ne_nil) :=
    List.getLast?_eq_some_getLast hlast.segment_ne_nil
  refine ⟨last.segment.getLast hlast.segment_ne_nil, ?_, ?_⟩
  · cases before with
    | nil => simp [write, List.getLast?_append, hends]
    | cons first rest =>
        rw [write_concat (List.cons_ne_nil first rest), List.getLast?_append, List.getLast?_cons,
          hends]
        rfl
  · intro hslash
    exact hlast.whole (hslash ▸ List.getLast_mem hlast.segment_ne_nil)

/-- To write one part more is to join it. -/
theorem join_write (h : ∀ part ∈ ps, part.IsSaid) {part : Part} (hpart : part.IsSaid) :
    join (write absolute ps) part.segment = write absolute (ps ++ [part]) := by
  have hrelative := isAbsolute_of_slash_notMem hpart.whole
  rw [join, hrelative, if_neg Bool.false_ne_true]
  by_cases hsome : ps = []
  · obtain rfl := hsome
    cases absolute <;> simp [write]
  · obtain ⟨c, hends, hslash⟩ := getLast?_write absolute h hsome
    have hwritten : (write absolute ps).isEmpty = false := by
      rw [List.isEmpty_eq_false_iff]
      intro hnil
      rw [hnil] at hends
      cases hends
    rw [hwritten, hends, write_concat hsome]
    simp [hslash]

/-- To write more parts is to join them one by one. -/
theorem foldl_join_write (h : ∀ part ∈ ps, part.IsSaid) {later : List Part}
    (hlater : ∀ part ∈ later, part.IsSaid) :
    (later.map Part.segment).foldl join (write absolute ps) = write absolute (ps ++ later) := by
  induction later generalizing ps with
  | nil => rw [List.append_nil]; rfl
  | cons first rest ih =>
      rw [List.forall_mem_cons] at hlater
      have hmore : ∀ part ∈ ps ++ [first], part.IsSaid :=
        List.forall_mem_append.mpr ⟨h, by simpa using hlater.1⟩
      rw [List.map_cons, List.foldl_cons, join_write h hlater.1, ih hmore hlater.2,
        List.append_assoc]
      rfl

/-- Behind names a path is extended, whatever it is folded to. -/
theorem normalize_join_names (path : Path) {later : Path}
    (hrelative : isAbsolute later = false) (hnames : upward ∉ components later) :
    normalize (join path later) = (components later).foldl join (normalize path) := by
  have hups : .up ∉ parts later := by rwa [← upward_mem_components_iff]
  have hfolded : ∀ part ∈ foldParts (isAbsolute path) (parts path), part.IsSaid :=
    fun _ => isSaid_of_mem_foldParts
  rw [normalize_join hrelative, foldl_of_names hups, List.reverse_append, List.reverse_reverse,
    List.reverse_reverse, components_eq, normalize,
    foldl_join_write hfolded fun _ => isSaid_of_mem_parts]

end Extending

/-! ## Going up behind a path -/

section Climbing

variable {path : Path}

theorem normalize_join_congr {other : Path} (h : normalize path = normalize other)
    (later : Path) : normalize (join path later) = normalize (join other later) := by
  rw [← normalize_join_normalize path, h, normalize_join_normalize]

/-- At the root nothing goes up. -/
theorem normalize_join_upward_of_root (h : normalize path = [slash]) :
    normalize (join path upward) = normalize path := by
  rw [← normalize_join_normalize, h]
  decide

/-- A name is taken off again. -/
theorem normalize_join_name_upward {name : Path} (h : IsName name) :
    normalize (join (join path name) upward) = normalize path := by
  have hname : parts name = [.name name] := by
    rw [parts, segments_of_slash_notMem h.whole, List.filterMap_cons_some h.part]
    rfl
  have hupward : parts upward = [.up] := rfl
  rw [normalize_join rfl, isAbsolute_join_of_relative (isAbsolute_of_slash_notMem h.whole),
    parts_join (isAbsolute_of_slash_notMem h.whole), hname, hupward, foldParts, List.foldl_append,
    List.reverse_reverse]
  rfl

/-- Where a relative path has no name left, going up is kept. -/
theorem normalize_join_upward_of_relative (hrelative : isAbsolute path = false)
    (h : ∀ segment ∈ components (normalize path), segment = upward) :
    normalize (join path upward) = join (normalize path) upward := by
  have hsaid : ∀ part ∈ foldParts false (parts path), part.IsSaid :=
    fun _ => isSaid_of_mem_foldParts
  have hups : ∀ part ∈ foldParts false (parts path), part = .up := by
    intro part hpart
    refine (segment_eq_upward_iff (hsaid part hpart)).mp (h part.segment ?_)
    rw [components_eq, parts_normalize, hrelative]
    exact List.mem_map_of_mem hpart
  obtain ⟨count, hfolded⟩ : ∃ count, foldParts false (parts path) = List.replicate count .up :=
    ⟨_, List.eq_replicate_iff.mpr ⟨rfl, hups⟩⟩
  have hpart : Part.IsSaid .up := ⟨rfl, by decide⟩
  -- all parts are alike, so it does not show at which end one is added
  calc normalize (join path upward)
      = write false (foldPart false (foldParts false (parts path)).reverse .up).reverse := by
        rw [normalize_join rfl, hrelative]
        rfl
    _ = write false (foldParts false (parts path) ++ [.up]) := by
        rw [hfolded, List.reverse_replicate, foldPart_replicate_up, List.reverse_replicate,
          List.replicate_succ']
    _ = join (write false (foldParts false (parts path))) upward := (join_write hsaid hpart).symm
    _ = join (normalize path) upward := by rw [normalize, hrelative]

end Climbing

/-! ## The canonical form -/

/-- **Folding is canonical.**  A folded path stays as it is when it is folded again, it is absolute
if the path is, and it has `..` at its start at most, and only if it is relative.

Behind a path a `..` is dropped where the path leads to the root; where it is relative and no name
is left, the `..` is kept; and behind a name both are taken off.  A relative path without `..` is
put behind the folded one, component by component. -/
theorem normalize_canonical (path : Path) :
    normalize (normalize path) = normalize path ∧
      isAbsolute (normalize path) = isAbsolute path ∧
      ClimbsFirst (normalize path) ∧
      (normalize path = [slash] → ∀ later,
        normalize (join (join path upward) later) = normalize (join path later)) ∧
      (isAbsolute path = false → (∀ segment ∈ components (normalize path), segment = upward) →
        normalize (join path upward) = join (normalize path) upward) ∧
      (∀ name, IsName name → ∀ later,
        normalize (join (join (join path name) upward) later) = normalize (join path later)) ∧
      ∀ later, isAbsolute later = false → upward ∉ components later →
        normalize (join path later) = (components later).foldl join (normalize path) := by
  refine ⟨normalize_normalize path, isAbsolute_normalize_eq path, climbsFirst_normalize path,
    fun hroot later => ?_, fun hrelative hups => ?_, fun name hname later => ?_,
    fun later hrelative hnames => ?_⟩
  · exact normalize_join_congr (normalize_join_upward_of_root hroot) later
  · exact normalize_join_upward_of_relative hrelative hups
  · exact normalize_join_congr (normalize_join_name_upward hname) later
  · exact normalize_join_names path hrelative hnames

/-- A relative path that climbs out of where it starts, and an absolute one that cannot climb out
of the root. -/
theorem normalize_canonical_climbing :
    let path := ofText "./x//../.."
    let rooted := ofText "/x/../"
    let later := ofText "etc/./..rc//"
    (isAbsolute path = false ∧ (∀ segment ∈ components (normalize path), segment = upward) ∧
        normalize rooted = [slash] ∧ IsName (ofText "..rc") ∧ isAbsolute later = false ∧
        upward ∉ components later) ∧
      normalize (normalize path) = ofText ".." ∧
      normalize (join path upward) = ofText "../.." ∧
      normalize (join path later) = ofText "../etc/..rc" ∧
      normalize (join (join (join path (ofText "..rc")) upward) later) = ofText "../etc/..rc" ∧
      normalize (join (join rooted upward) later) = ofText "/etc/..rc" := by
  intro path rooted later
  have hrelative : isAbsolute path = false := by decide
  have hups : ∀ segment ∈ components (normalize path), segment = upward := by decide
  have hroot : normalize rooted = [slash] := by decide
  have hname : IsName (ofText "..rc") := ⟨by decide, by decide⟩
  have hlater : isAbsolute later = false := by decide
  have hnames : upward ∉ components later := by decide
  obtain ⟨hagain, -, -, -, hkept, htaken, hextended⟩ := normalize_canonical path
  obtain ⟨-, -, -, hdropped, -⟩ := normalize_canonical rooted
  exact ⟨⟨hrelative, hups, hroot, hname, hlater, hnames⟩, hagain.trans (by decide),
    (hkept hrelative hups).trans (by decide), (hextended later hlater hnames).trans (by decide),
    (htaken _ hname later).trans (by decide), (hdropped hroot later).trans (by decide)⟩

end Path

end Conch
