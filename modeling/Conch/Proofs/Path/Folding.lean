import Conch.Proofs.Path.Rooted

/-!
# Folded paths

A folded path has `..` at its start at most, and none if it is absolute, and folding it again
changes nothing.  Where there was no `..` to begin with, folding only takes out what says
nothing, the empty segments and `.`: the path keeps its parts, and all its octets in their
order.
-/

namespace Conch

namespace Path

/-! ## Parts and their segments -/

/-- A part that a segment can say. -/
structure Part.IsSaid (part : Part) : Prop where
  said : Part.of? part.segment = some part
  whole : slash ∉ part.segment

theorem Part.IsSaid.segment_ne_nil {part : Part} (h : part.IsSaid) : part.segment ≠ [] := by
  intro hnil
  have hsaid := h.said
  rw [hnil] at hsaid
  cases hsaid

theorem Part.segment_of_of? {segment : Path} {part : Part} (h : Part.of? segment = some part) :
    part.segment = segment := by
  unfold Part.of? at h
  split at h
  · cases h
  · split at h
    · next hup =>
        obtain rfl := Option.some.inj h
        exact hup.symm
    · obtain rfl := Option.some.inj h
      rfl

theorem segment_mem_segments {path : Path} {part : Part} (h : part ∈ parts path) :
    part.segment ∈ segments path := by
  obtain ⟨segment, hmem, hsaid⟩ := List.mem_filterMap.mp h
  rwa [Part.segment_of_of? hsaid]

theorem isSaid_of_mem_parts {path : Path} {part : Part} (h : part ∈ parts path) :
    part.IsSaid := by
  obtain ⟨segment, hmem, hsaid⟩ := List.mem_filterMap.mp h
  have hsegment := Part.segment_of_of? hsaid
  refine ⟨by rwa [hsegment], fun hslash => ?_⟩
  have hseparator := Text.of_mem_splitBy hmem slash (by rwa [← hsegment])
  simp at hseparator

/-- The segments of parts, taken from the segments that say them. -/
theorem written_sublist (segments : List (Path)) :
    ((segments.filterMap Part.of?).map Part.segment).Sublist segments := by
  induction segments with
  | nil => exact .slnil
  | cons segment later ih =>
      cases hsaid : Part.of? segment with
      | none =>
          rw [List.filterMap_cons_none hsaid]
          exact ih.cons segment
      | some part =>
          rw [List.filterMap_cons_some hsaid, List.map_cons, Part.segment_of_of? hsaid]
          exact ih.cons_cons segment

/-- An absolute path begins with an empty segment. -/
theorem segments_slash (path : Path) : segments (slash :: path) = [] :: segments path := by
  simp [segments, Text.splitBy]

theorem exists_of_isAbsolute {path : Path} (h : isAbsolute path = true) :
    ∃ rest, path = slash :: rest := by
  cases path with
  | nil => simp [isAbsolute] at h
  | cons c rest =>
      obtain rfl : c = slash := by simpa [isAbsolute] using h
      exact ⟨rest, rfl⟩

theorem parts_slash (path : Path) : parts (slash :: path) = parts path := by
  rw [parts, segments_slash]
  rfl

theorem write_true (ps : List Part) :
    write true ps = slash :: [slash].intercalate (ps.map Part.segment) :=
  rfl

/-- What is written can be read back. -/
theorem parts_write {absolute : Bool} {ps : List Part} (h : ∀ part ∈ ps, part.IsSaid) :
    parts (write absolute ps) = ps := by
  have hrelative : parts ([slash].intercalate (ps.map Part.segment)) = ps := by
    cases ps with
    | nil => rfl
    | cons first later =>
        have hsegments : segments ([slash].intercalate ((first :: later).map Part.segment)) =
            (first :: later).map Part.segment := by
          refine Text.splitBy_intercalate (by simp) fun piece hpiece => ?_
          obtain ⟨part, hpart, rfl⟩ := List.mem_map.mp hpiece
          exact (h part hpart).whole
        rw [parts, hsegments, List.filterMap_map]
        calc (first :: later).filterMap (Part.of? ∘ Part.segment)
            = (first :: later).filterMap some :=
              List.filterMap_congr fun part hpart => (h part hpart).said
          _ = first :: later := List.filterMap_some
  cases absolute with
  | false => exact hrelative
  | true => rw [write_true, parts_slash, hrelative]

/-- A path is written as absolute or not, whatever its parts are. -/
theorem isAbsolute_write {absolute : Bool} {ps : List Part} (h : ∀ part ∈ ps, part.IsSaid) :
    isAbsolute (write absolute ps) = absolute := by
  cases absolute with
  | true => rfl
  | false =>
      cases ps with
      | nil => rfl
      | cons first later =>
          have hfirst := h first List.mem_cons_self
          obtain ⟨c, rest, hsegment⟩ := List.exists_cons_of_ne_nil hfirst.segment_ne_nil
          have hslash : c ≠ slash := by
            rintro rfl
            exact hfirst.whole (by rw [hsegment]; exact List.mem_cons_self)
          cases later <;> simp [write, isAbsolute, hsegment, hslash]

/-! ## Folding -/

/-- Parts, last first, as folding leaves them: names, and before all names what goes up.  At the
root nothing goes up. -/
def IsFolded (absolute : Bool) (folded : List Part) : Prop :=
  ∃ names count, folded = names ++ List.replicate count .up ∧ .up ∉ names ∧
    (absolute = true → count = 0)

theorem isFolded_nil (absolute : Bool) : IsFolded absolute [] :=
  ⟨[], 0, rfl, List.not_mem_nil, fun _ => rfl⟩

/-- Where a relative path starts, what goes up is added as it is. -/
theorem foldPart_replicate_up (count : Nat) :
    foldPart false (List.replicate count .up) .up = List.replicate (count + 1) .up := by
  cases count <;> rfl

/-- Folding one more part leaves folded parts. -/
theorem IsFolded.step {absolute : Bool} {folded : List Part} (h : IsFolded absolute folded)
    (part : Part) : IsFolded absolute (foldPart absolute folded part) := by
  obtain ⟨names, count, rfl, hnames, hroot⟩ := h
  cases part with
  | name octets => exact ⟨.name octets :: names, count, rfl, by simp [hnames], hroot⟩
  | up =>
      cases names with
      | cons last before =>
          rw [List.mem_cons, not_or] at hnames
          cases last with
          | up => exact absurd rfl hnames.1
          | name octets => exact ⟨before, count, rfl, hnames.2, hroot⟩
      | nil =>
          -- no name is left to take off
          cases absolute with
          | true =>
              obtain rfl := hroot rfl
              exact isFolded_nil true
          | false =>
              exact ⟨[], count + 1, foldPart_replicate_up count, List.not_mem_nil, nofun⟩

theorem isFolded_foldl {absolute : Bool} {folded : List Part} (h : IsFolded absolute folded)
    (ps : List Part) : IsFolded absolute (ps.foldl (foldPart absolute) folded) := by
  induction ps generalizing folded with
  | nil => exact h
  | cons first later ih => exact ih (h.step first)

theorem isFolded_foldParts (absolute : Bool) (ps : List Part) :
    IsFolded absolute (foldParts absolute ps).reverse := by
  rw [foldParts, List.reverse_reverse]
  exact isFolded_foldl (isFolded_nil absolute) ps

/-- At the root nothing goes up. -/
theorem up_notMem_foldParts (ps : List Part) : .up ∉ foldParts true ps := by
  obtain ⟨names, count, hfolded, hnames, hroot⟩ := isFolded_foldParts true ps
  obtain rfl := hroot rfl
  rw [← List.mem_reverse, hfolded]
  simpa using hnames

/-- Folding adds no part. -/
theorem mem_of_mem_foldl {absolute : Bool} {folded ps : List Part} {part : Part}
    (h : part ∈ ps.foldl (foldPart absolute) folded) : part ∈ folded ∨ part ∈ ps := by
  induction ps generalizing folded with
  | nil => exact .inl h
  | cons first later ih =>
      have hstep : ∀ part ∈ foldPart absolute folded first, part ∈ folded ∨ part = first := by
        intro part hpart
        unfold foldPart at hpart
        split at hpart
        · exact (List.mem_cons.mp hpart).symm
        · exact .inl (List.mem_cons_of_mem _ hpart)
        · split at hpart
          · exact .inl hpart
          · exact (List.mem_cons.mp hpart).symm
      rcases ih h with hfolded | hlater
      · rcases hstep part hfolded with hbefore | rfl
        · exact .inl hbefore
        · exact .inr List.mem_cons_self
      · exact .inr (List.mem_cons_of_mem _ hlater)

theorem mem_of_mem_foldParts {absolute : Bool} {ps : List Part} {part : Part}
    (h : part ∈ foldParts absolute ps) : part ∈ ps := by
  rw [foldParts, List.mem_reverse] at h
  exact (mem_of_mem_foldl h).resolve_left List.not_mem_nil

theorem isSaid_of_mem_foldParts {absolute : Bool} {path : Path} {part : Part}
    (h : part ∈ foldParts absolute (parts path)) : part.IsSaid :=
  isSaid_of_mem_parts (mem_of_mem_foldParts h)

/-- Names are added as they are. -/
theorem foldl_of_names {ps : List Part} (h : .up ∉ ps) (absolute : Bool) (folded : List Part) :
    ps.foldl (foldPart absolute) folded = ps.reverse ++ folded := by
  induction ps generalizing folded with
  | nil => rfl
  | cons first later ih =>
      rw [List.mem_cons, not_or] at h
      cases first with
      | up => exact absurd rfl h.1
      | name octets => simp [foldPart, ih h.2]

theorem foldParts_of_names {ps : List Part} (h : .up ∉ ps) (absolute : Bool) :
    foldParts absolute ps = ps := by
  rw [foldParts, foldl_of_names h, List.append_nil, List.reverse_reverse]

theorem foldl_replicate_up (count before : Nat) :
    (List.replicate count Part.up).foldl (foldPart false) (List.replicate before .up) =
      List.replicate (count + before) .up := by
  induction count generalizing before with
  | zero => rw [Nat.zero_add]; rfl
  | succ count ih =>
      rw [List.replicate_succ, List.foldl_cons, foldPart_replicate_up, ih, Nat.add_right_comm,
        Nat.add_assoc]

/-- Folded parts stay as they are when they are folded. -/
theorem foldParts_of_isFolded {absolute : Bool} {ps : List Part}
    (h : IsFolded absolute ps.reverse) : foldParts absolute ps = ps := by
  obtain ⟨names, count, hps, hnames, hroot⟩ := h
  -- what goes up comes first in `ps`, and meets no name that it could take off
  obtain rfl : ps = List.replicate count .up ++ names.reverse := by
    rw [← List.reverse_reverse ps, hps, List.reverse_append, List.reverse_replicate]
  have hups : (List.replicate count Part.up).foldl (foldPart absolute) [] =
      List.replicate count .up := by
    cases absolute with
    | true =>
        obtain rfl := hroot rfl
        rfl
    | false => exact foldl_replicate_up count 0
  rw [foldParts, List.foldl_append, hups, foldl_of_names (by simpa using hnames),
    List.reverse_append, List.reverse_replicate, List.reverse_reverse]

theorem parts_normalize (path : Path) :
    parts (normalize path) = foldParts (isAbsolute path) (parts path) :=
  parts_write fun _ => isSaid_of_mem_foldParts

theorem isAbsolute_normalize_eq (path : Path) :
    isAbsolute (normalize path) = isAbsolute path :=
  isAbsolute_write fun _ => isSaid_of_mem_foldParts

/-- A folded path stays as it is when it is folded. -/
theorem normalize_normalize (path : Path) : normalize (normalize path) = normalize path := by
  rw [normalize, isAbsolute_normalize_eq, parts_normalize,
    foldParts_of_isFolded (isFolded_foldParts _ _), normalize]

section Absolute

variable {path : Path} (habsolute : isAbsolute path = true)
include habsolute

theorem up_notMem_parts_normalize : .up ∉ parts (normalize path) := by
  rw [parts_normalize, habsolute]
  exact up_notMem_foldParts (parts path)

theorem startsHere_of_isAbsolute : startsHere path = false := by
  obtain ⟨rest, rfl⟩ := exists_of_isAbsolute habsolute
  rw [startsHere, segments_slash]
  rfl

section Names

variable (hnames : .up ∉ parts path)
include hnames

theorem normalize_of_names : normalize path = write true (parts path) := by
  rw [normalize, habsolute, foldParts_of_names hnames]

/-- Without a `..`, folding is a matter of spelling. -/
theorem same_normalize : same path (normalize path) = true := by
  have hparts := parts_normalize path
  rw [foldParts_of_names hnames] at hparts
  have hthere := isAbsolute_normalize habsolute
  simp [same, habsolute, hthere, startsHere_of_isAbsolute habsolute,
    startsHere_of_isAbsolute hthere, hparts]

/-- Without a `..`, folding takes octets out and puts none in. -/
theorem normalize_sublist : (normalize path).Sublist path := by
  rw [normalize_of_names habsolute hnames, write_true]
  obtain ⟨rest, rfl⟩ := exists_of_isAbsolute habsolute
  rw [parts_slash]
  refine List.Sublist.cons_cons slash ?_
  conv_rhs => rw [← Text.intercalate_splitBy slash rest]
  exact Text.intercalate_sublist (written_sublist (segments rest))

end Names

end Absolute

end Path

end Conch
