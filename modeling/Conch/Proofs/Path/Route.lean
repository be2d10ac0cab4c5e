import Conch.Proofs.Path.Guard

/-!
# Routes

An absolute path leads from the root along a route, which is a list of names.  To find it, one
takes the segments of the path in turn: an empty segment and `.` lead nowhere, `..` leads back by
one name, and from the root nowhere, and any other segment is a name that is entered.

What the guard lets through from an absolute directory is the plain spelling of a route: the
names of the target, behind the route of the directory unless the target starts at the root.
-/

namespace Conch

namespace Path

theorem segments_eq_splitOn (path : Path) : segments path = path.splitOn slash :=
  Text.splitBy_eq_splitOn slash path

/-! ## Following a path -/

/-- A segment that leads nowhere. -/
def isIdle (segment : Path) : Bool :=
  segment.isEmpty || segment = here

/-- A route with one segment more. -/
def onward (route : List Path) (segment : Path) : List Path :=
  if isIdle segment then route
  else if segment = upward then route.dropLast
  else route ++ [segment]

/-- The route of an absolute path. -/
def route (path : Path) : List Path :=
  (path.splitOn slash).foldl onward []

/-- The route that a target without `..` leads along from an absolute directory. -/
def routeFrom (base target : Path) : List Path :=
  (if isAbsolute target then [] else route base) ++
    (target.splitOn slash).filter fun segment => !isIdle segment

/-- The plain spelling of a route: a slash before each name, or one for the root. -/
def spell (route : List Path) : Path :=
  slash :: [slash].intercalate route

section Following

variable {base target : Path}

theorem of?_eq_none_iff (segment : Path) :
    Part.of? segment = none ↔ isIdle segment = true := by
  unfold Part.of?
  split
  · next h => simpa [isIdle] using h
  · next h =>
      split <;> simpa [isIdle] using h

/-- A part is folded as the segment that says it is followed. -/
theorem foldPart_of? {segment : Path} {part : Part} (h : Part.of? segment = some part)
    (route : List Path) :
    foldPart true (route.map .name).reverse part =
      ((onward route segment).map .name).reverse := by
  have hmoves : isIdle segment = false := by
    rw [← Bool.not_eq_true, ← of?_eq_none_iff, h]
    exact Option.some_ne_none part
  obtain rfl := Part.segment_of_of? h
  cases part with
  | name octets =>
      have hname : octets ≠ upward := by
        rintro rfl
        cases h
      simp [onward, Part.segment, hmoves, hname, foldPart] at hmoves ⊢
  | up =>
      rcases List.eq_nil_or_concat route with rfl | ⟨before, last, rfl⟩
      · rfl
      · have hup : isIdle upward = false := rfl
        simp [onward, Part.segment, hup, foldPart]

theorem foldl_foldPart (segments route : List Path) :
    (segments.filterMap Part.of?).foldl (foldPart true) (route.map .name).reverse =
      ((segments.foldl onward route).map .name).reverse := by
  induction segments generalizing route with
  | nil => rfl
  | cons segment rest ih =>
      cases hsaid : Part.of? segment with
      | none =>
          have hidle := (of?_eq_none_iff segment).mp hsaid
          rw [List.filterMap_cons_none hsaid, ih, List.foldl_cons, onward, if_pos hidle]
      | some part =>
          rw [List.filterMap_cons_some hsaid, List.foldl_cons, foldPart_of? hsaid, ih,
            List.foldl_cons]

theorem foldParts_parts (path : Path) :
    foldParts true (parts path) = (route path).map .name := by
  rw [foldParts, parts, segments_eq_splitOn]
  exact (congrArg List.reverse (foldl_foldPart (path.splitOn slash) [])).trans
    (List.reverse_reverse _)

/-- Folding an absolute path spells out its route. -/
theorem normalize_eq_spell {path : Path} (h : isAbsolute path = true) :
    normalize path = spell (route path) := by
  have hsegment : Part.segment ∘ Part.name = id := rfl
  rw [normalize, h, foldParts_parts, write_true, List.map_map, hsegment, List.map_id, spell]

/-- What follows a slash goes on from where the path before it leads. -/
theorem route_append_slash (base target : Path) :
    route (base ++ slash :: target) = (target.splitOn slash).foldl onward (route base) := by
  rw [route, List.splitOn_append_cons_self, List.foldl_append, route]

theorem route_join (hbase : isAbsolute base = true) (htarget : isAbsolute target = false) :
    route (join base target) = (target.splitOn slash).foldl onward (route base) := by
  obtain ⟨before, hjoin, hbefore⟩ := exists_join hbase htarget
  rw [hjoin, route_append_slash]
  rcases hbefore with rfl | rfl
  · rfl
  · -- the slash at the end of the directory leads nowhere
    rw [route_append_slash]
    rfl

/-- Segments without `..` lead along their names. -/
theorem foldl_onward {segments : List Path} (h : upward ∉ segments)
    (route : List Path) :
    segments.foldl onward route = route ++ segments.filter fun segment => !isIdle segment := by
  induction segments generalizing route with
  | nil => rw [List.foldl_nil, List.filter_nil, List.append_nil]
  | cons segment rest ih =>
      rw [List.mem_cons, not_or] at h
      rw [List.foldl_cons, ih h.2]
      cases hidle : isIdle segment with
      | true => simp [onward, hidle]
      | false => simp [onward, hidle, Ne.symm h.1]

theorem route_join_of_names (hbase : isAbsolute base = true)
    (htarget : upward ∉ target.splitOn slash) :
    route (join base target) = routeFrom base target := by
  cases habsolute : isAbsolute target with
  | true =>
      rw [join, habsolute, if_pos rfl, route, foldl_onward htarget, routeFrom, habsolute,
        if_pos rfl]
  | false =>
      rw [route_join hbase habsolute, foldl_onward htarget, routeFrom, habsolute,
        if_neg Bool.false_ne_true]

end Following

/-! ## Names on a route -/

section Names

theorem isName_iff (name : Path) :
    IsName name ↔ name ∉ [[], here, upward] ∧ slash ∉ name := by
  have hpart : Part.of? name = some (.name name) ↔ name ∉ [[], here, upward] := by
    simp only [Part.of?, List.mem_cons, List.not_mem_nil, or_false, ← or_assoc]
    split
    · next h => simp [h]
    · next h =>
        split
        · next hup => simp [hup]
        · next hup => simp [h, hup]
  exact ⟨fun h => ⟨hpart.mp h.part, h.whole⟩, fun h => ⟨hpart.mpr h.1, h.2⟩⟩

theorem isName_of_mem_route {path name : Path} (h : name ∈ route path) : IsName name := by
  have hfolded : .name name ∈ foldParts true (parts path) := by
    rw [foldParts_parts]
    exact List.mem_map_of_mem h
  have hsaid := isSaid_of_mem_foldParts hfolded
  exact ⟨hsaid.said, hsaid.whole⟩

theorem isName_of_mem_routeFrom {base target name : Path}
    (htarget : upward ∉ target.splitOn slash) (h : name ∈ routeFrom base target) :
    IsName name := by
  rcases List.mem_append.mp h with hbase | hown
  · split at hbase
    · cases hbase
    · exact isName_of_mem_route hbase
  · have hroute : name ∈ route target := by
      rw [route, foldl_onward htarget]
      exact hown
    exact isName_of_mem_route hroute

theorem isAbsolute_spell (names : List Path) : isAbsolute (spell names) = true :=
  rfl

/-- The plain spelling of names leads along them. -/
theorem route_spell {names : List Path} (h : ∀ name ∈ names, IsName name) :
    route (spell names) = names := by
  rw [spell, ← List.nil_append (slash :: _), route_append_slash]
  cases names with
  | nil => rfl
  | cons first later =>
      have hplain := fun name hname => (isName_iff name).mp (h name hname)
      have hup : upward ∉ first :: later := fun hmem => (hplain _ hmem).1 (by decide)
      have hmoves : (first :: later).filter (fun segment => !isIdle segment) = first :: later := by
        refine List.filter_eq_self.mpr fun name hname => ?_
        have hsaid := (hplain name hname).1
        simp only [List.mem_cons, List.not_mem_nil, or_false, not_or] at hsaid
        simp [isIdle, hsaid]
      rw [List.splitOn_intercalate slash (fun name hname => (h name hname).whole) (by simp),
        foldl_onward hup, hmoves]
      rfl

end Names

/-! ## The guard -/

section Guard

theorem climbs_iff_mem_splitOnP (target : List Char) :
    climbs target = true ↔ ['.', '.'] ∈ target.splitOnP isSeparator := by
  rw [climbs, List.contains_iff_mem, Text.splitBy_eq_splitOnP]

theorem up_notMem_splitOn {target : String} (h : climbs target.toList = false) :
    upward ∉ (ofText target).splitOn slash := by
  rw [← segments_eq_splitOn, ← up_mem_parts_iff]
  exact up_notMem_parts (by rwa [shown_ofText])

/-- What the guard answers from an absolute directory. -/
theorem resolve_of_isAbsolute {base : Path} {target : String} (hbase : isAbsolute base = true)
    (hsome : target ≠ "") :
    resolve (some target) base =
      if climbs target.toList then .error .named
      else .ok (spell (routeFrom base (ofText target))) := by
  simp only [resolve, String.isEmpty_iff, hsome, if_false, resolveTarget_eq hbase]
  split
  · rfl
  · next hguarded =>
      have hnames := up_notMem_splitOn (Bool.eq_false_iff.mpr hguarded)
      rw [normalize_eq_spell (isAbsolute_join hbase _), route_join_of_names hbase hnames]

/-- From any directory, absolute or not, the guard lets no `..` through. -/
theorem up_notMem_of_resolve {base path : Path} {target : String} (hsome : target ≠ "")
    (h : resolve (some target) base = .ok path) : upward ∉ path.splitOn slash := by
  simp only [resolve, String.isEmpty_iff, hsome, if_false, resolveTarget] at h
  split at h
  · cases h
  · split at h
    · cases h
    · next hup =>
        obtain rfl := Except.ok.inj h
        rwa [List.contains_iff_mem, up_mem_parts_iff, segments_eq_splitOn] at hup

/-- **The guard is exact.**  It never answers with a path that has a `..`.  From an absolute
directory it refuses a target that has a `..` between slashes or backslashes, and nothing else.  Any
other target is resolved to the plain spelling of a route: to its own names, without the segments
that lead nowhere, behind the route of the directory unless the target is absolute. -/
theorem resolve_exact (base : Path) {target : String} (hsome : target ≠ "") :
    (∀ path, resolve (some target) base = .ok path → upward ∉ path.splitOn slash) ∧
      (isAbsolute base = true →
        let names := routeFrom base (ofText target)
        let climbing := ['.', '.'] ∈ target.toList.splitOnP fun c => c = '/' || c = '\\'
        (∀ cause, resolve (some target) base = .error cause ↔ cause = .named ∧ climbing) ∧
          (¬ climbing →
            resolve (some target) base = .ok (spell names) ∧
              (∀ name ∈ names, name ∉ [[], here, upward] ∧ slash ∉ name) ∧
              (isAbsolute (ofText target) = false → route base <+: names))) := by
  refine ⟨fun path => up_notMem_of_resolve hsome, fun hbase => ?_⟩
  intro names climbing
  have hclimbs : climbs target.toList = true ↔ climbing := climbs_iff_mem_splitOnP target.toList
  refine ⟨fun cause => ?_, fun hguarded => ?_⟩
  · rw [resolve_of_isAbsolute hbase hsome, ← hclimbs]
    split
    · next hup => simp [hup, eq_comm]
    · next hup => simp [hup]
  · rw [← hclimbs, Bool.not_eq_true] at hguarded
    refine ⟨?_, fun name hname => ?_, fun hrelative => ?_⟩
    · rw [resolve_of_isAbsolute hbase hsome, hguarded, if_neg Bool.false_ne_true]
    · exact (isName_iff name).mp (isName_of_mem_routeFrom (up_notMem_splitOn hguarded) hname)
    · simp only [names, routeFrom, hrelative, if_neg Bool.false_ne_true]
      exact List.prefix_append _ _

/-- A name may begin with dots and hold a backslash, but `..` between backslashes is refused.  The
directory need not be a text. -/
theorem resolve_exact_backslash :
    let base := ofText "/srv/./x//../" ++ [0xFF]
    let target := "sub/./..rc//a\\b"
    (target ≠ "" ∧ isAbsolute base = true ∧
        ['.', '.'] ∉ target.toList.splitOnP fun c => c = '/' || c = '\\') ∧
      resolve (some target) base =
        .ok (ofText "/srv/" ++ [0xFF] ++ ofText "/sub/..rc/a\\b") ∧
      resolve (some "a\\..\\b") base = .error .named := by
  intro base target
  have hsome : target ≠ "" := by decide
  have hbase : isAbsolute base = true := by decide
  have hguarded : ['.', '.'] ∉ target.toList.splitOnP fun c => c = '/' || c = '\\' := by decide
  obtain ⟨hpath, -⟩ := ((resolve_exact base hsome).2 hbase).2 hguarded
  have hrefused := ((resolve_exact base (by decide : "a\\..\\b" ≠ "")).2 hbase).1 .named
  exact ⟨⟨hsome, hbase, hguarded⟩, hpath.trans (by decide), hrefused.mpr ⟨rfl, by decide⟩⟩

end Guard

/-! ## Step by step -/

section Stepwise

/-- From where a target leads, another one leads on. -/
theorem routeFrom_append_slash {base first later : Path}
    (hfirst : upward ∉ first.splitOn slash) (hsome : first ≠ [])
    (hlater : isAbsolute later = false) :
    routeFrom base (first ++ slash :: later) = routeFrom (spell (routeFrom base first)) later := by
  have hstart : isAbsolute (first ++ slash :: later) = isAbsolute first := by
    rw [isAbsolute, isAbsolute, List.head?_append_of_ne_nil _ hsome]
  have hroute : route (spell (routeFrom base first)) = routeFrom base first :=
    route_spell fun name => isName_of_mem_routeFrom hfirst
  conv_rhs => rw [routeFrom, hlater, if_neg Bool.false_ne_true, hroute, routeFrom]
  rw [routeFrom, hstart, List.splitOn_append_cons_self, List.filter_append, List.append_assoc]

/-- Resolving a target, and another one from where it leads, is resolving both at once. -/
theorem resolve_bind {base : Path} {first later : String} (hbase : isAbsolute base = true)
    (hfirst : first ≠ "") (hlater : later ≠ "") (hrelative : isAbsolute (ofText later) = false) :
    ((resolve (some first) base).bind fun path => resolve (some later) path) =
      resolve (some (first ++ "/" ++ later)) base := by
  have hwhole : (first ++ "/" ++ later).toList = first.toList ++ '/' :: later.toList := by simp
  have hsome : first ++ "/" ++ later ≠ "" := by
    rw [ne_eq, ← String.toList_inj, hwhole]
    simp
  rw [resolve_of_isAbsolute hbase hsome, resolve_of_isAbsolute hbase hfirst, hwhole,
    climbs_append_slash, ofText_append_slash]
  cases hclimbs : climbs first.toList with
  | true => rfl
  | false =>
      have hnonempty : ofText first ≠ [] := mt (ofText_eq_nil_iff first).mp hfirst
      rw [if_neg Bool.false_ne_true, Bool.false_or,
        routeFrom_append_slash (up_notMem_splitOn hclimbs) hnonempty hrelative]
      exact resolve_of_isAbsolute (isAbsolute_spell _) hlater

/-- Directories with the same route are as good as each other. -/
theorem resolve_congr {base other : Path} {target : String} (hbase : isAbsolute base = true)
    (hother : isAbsolute other = true) (hsome : target ≠ "") (hsame : route base = route other) :
    resolve (some target) base = resolve (some target) other := by
  rw [resolve_of_isAbsolute hbase hsome, resolve_of_isAbsolute hother hsome, routeFrom, routeFrom,
    hsame]

theorem route_congr {path other : Path} (h : parts path = parts other) :
    route path = route other := by
  have hnames : (route path).map Part.name = (route other).map Part.name := by
    rw [← foldParts_parts, ← foldParts_parts, h]
  exact List.map_injective_iff.mpr (fun _ _ => Part.name.inj) hnames

/-- An absolute target leads to the same place from everywhere. -/
theorem resolve_of_isAbsolute_target {base other : Path} {target : String}
    (hbase : isAbsolute base = true) (hother : isAbsolute other = true)
    (htarget : isAbsolute (ofText target) = true) :
    resolve (some target) base = resolve (some target) other := by
  have hsome : target ≠ "" := by
    rintro rfl
    cases htarget
  rw [resolve_of_isAbsolute hbase hsome, resolve_of_isAbsolute hother hsome, routeFrom, routeFrom,
    htarget]
  rfl

end Stepwise

end Path

end Conch
