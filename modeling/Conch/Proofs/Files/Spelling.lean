import Conch.Proofs.Files.Links
import Conch.Proofs.Path.Canonical

/-!
# Spellings of a directory

A way passes over empty segments, and `.` leads nowhere but asks for a directory that may be
searched.  At the end of a path both ask for a directory.  So what a way leads to it leads to
without some of them too, and a directory is found under the folded spelling of its path if the
path has no `..`.
-/

namespace Conch.Files

/-- The segments that lead somewhere. -/
def told (segments : List Name) : List Name :=
  segments.filter fun segment => !Path.Part.of? segment = none

theorem told_of_none {segment : Name} (h : Path.Part.of? segment = none) (rest : List Name) :
    told (segment :: rest) = told rest :=
  List.filter_cons_of_neg (by simp [h])

theorem told_of_some {segment : Name} {part : Path.Part} (h : Path.Part.of? segment = some part)
    (rest : List Name) : told (segment :: rest) = segment :: told rest :=
  List.filter_cons_of_pos (by simp [h])

theorem told_append (first later : List Name) : told (first ++ later) = told first ++ told later :=
  List.filter_append ..

/-- Segments with some of those left out that lead nowhere. -/
inductive Spares : List Name → List Name → Prop
  | nil : Spares [] []
  | keep (segment : Name) {all spared : List Name} (h : Spares all spared) :
      Spares (segment :: all) (segment :: spared)
  | skip {segment : Name} (hidle : Path.Part.of? segment = none) {all spared : List Name}
      (h : Spares all spared) : Spares (segment :: all) spared

theorem Spares.append_left {all spared : List Name} (h : Spares all spared) (front : List Name) :
    Spares (front ++ all) (front ++ spared) := by
  induction front with
  | nil => exact h
  | cons segment rest ih => exact .keep segment ih

/-- All of them can be left out. -/
theorem spares_told (segments : List Name) : Spares segments (told segments) := by
  induction segments with
  | nil => exact .nil
  | cons segment rest ih =>
      cases hsaid : Path.Part.of? segment with
      | none =>
          rw [told_of_none hsaid]
          exact .skip hsaid ih
      | some part =>
          rw [told_of_some hsaid]
          exact .keep segment ih

namespace Store

variable {store : Store} {base place : Location} {all spared : List Name} {links : Nat}
  {entry : Entry}

/-- A segment that leads nowhere stays in its directory. -/
theorem Step.of_idle {segment : Name} {next : Location} {crossed : Nat} {detour : List Name}
    (hidle : Path.Part.of? segment = none) (h : store.Step base segment next crossed detour) :
    next = base ∧ crossed = 0 ∧ detour = [] := by
  cases h with
  | pass => exact ⟨rfl, rfl, rfl⟩
  | stay => exact ⟨rfl, rfl, rfl⟩
  | up => cases hidle
  | down _ hasks => simp [Path.Part.of?, hasks.nonempty, hasks.ne_here, hasks.ne_up] at hidle
  | link _ hasks => simp [Path.Part.of?, hasks.nonempty, hasks.ne_here, hasks.ne_up] at hidle

/-- A way leads to the same without segments that lead nowhere.  A file is never behind one of
them. -/
theorem Leads.spare (h : store.Leads base all links place entry) (hspared : Spares all spared) :
    store.Leads base spared links place entry := by
  induction h generalizing spared with
  | here base =>
      cases hspared
      exact .here base
  | step hstep hrest ih =>
      cases hspared with
      | keep segment hspared => exact .step hstep (ih (hspared.append_left _))
      | skip hidle hspared =>
          obtain ⟨rfl, rfl, rfl⟩ := hstep.of_idle hidle
          rw [Nat.zero_add]
          exact ih hspared
  | last hsearch hasks hstands hends =>
      cases hspared with
      | keep segment hspared =>
          cases hspared
          exact .last hsearch hasks hstands hends
      | skip hidle _ =>
          simp [Path.Part.of?, hasks.nonempty, hasks.ne_here, hasks.ne_up] at hidle

/-! ## Paths -/

theorem told_segments (segments : List Name) :
    told segments = (segments.filterMap Path.Part.of?).map Path.Part.segment := by
  induction segments with
  | nil => rfl
  | cons segment rest ih =>
      cases hsaid : Path.Part.of? segment with
      | none => rw [told_of_none hsaid, ih, List.filterMap_cons_none hsaid]
      | some part =>
          rw [told_of_some hsaid, ih, List.filterMap_cons_some hsaid, List.map_cons,
            Path.Part.segment_of_of? hsaid]

/-- The segments of a path that lead somewhere are those of its parts. -/
theorem told_segmentsOf (path : Path) :
    told (segmentsOf path) = (Path.parts path).map Path.Part.segment := by
  have hsome : told ((Path.segments path).filter fun segment => !segment.isEmpty) =
      (Path.parts path).map Path.Part.segment := by
    rw [Path.parts, ← told_segments, told, told, List.filter_filter]
    refine List.filter_congr fun segment _ => ?_
    cases segment with
    | nil => rfl
    | cons b rest => simp
  unfold segmentsOf
  simp only
  split
  · rw [told_append, hsome]
    exact List.append_nil _
  · exact hsome

/-- The segments of a path that is written with names are those names, but for the root. -/
theorem segmentsOf_write {ps : List Path.Part} (h : ∀ part ∈ ps, part.IsSaid) :
    segmentsOf (Path.write true ps) = if ps = [] then [[]] else ps.map Path.Part.segment := by
  by_cases hnone : ps = []
  · subst hnone
    rfl
  · obtain ⟨c, hends, hopen⟩ := Path.getLast?_write true h hnone
    have hclosed : (Path.write true ps).getLast? ≠ some Path.slash := by
      rw [hends]
      exact fun hslash => hopen (Option.some.inj hslash)
    have hsegments : Path.segments (Path.write true ps) = [] :: ps.map Path.Part.segment := by
      rw [Path.write_true, Path.segments_slash]
      refine congrArg ([] :: ·) (Text.splitBy_intercalate (by simpa using hnone) ?_)
      intro piece hpiece
      obtain ⟨part, hpart, rfl⟩ := List.mem_map.mp hpiece
      exact (h part hpart).whole
    have hloud : (ps.map Path.Part.segment).filter (fun segment => !segment.isEmpty) =
        ps.map Path.Part.segment := by
      refine List.filter_eq_self.mpr fun segment hsegment => ?_
      obtain ⟨part, hpart, rfl⟩ := List.mem_map.mp hsegment
      simpa using (h part hpart).segment_ne_nil
    simp only [segmentsOf, hsegments, if_neg hclosed, if_neg hnone]
    rw [List.filter_cons_of_neg (by simp), hloud]

theorem status_of_isDirectory {path : Path} (h : store.isDirectory path = true) :
    store.status path = .ok .directory := by
  unfold isDirectory at h
  split at h
  · next hstatus => exact hstatus
  · cases h

theorem isDirectory_iff {path : Path} :
    store.isDirectory path = true ↔ ∃ place, store.find path = .ok (place, .directory) := by
  rw [← status_eq_ok_iff]
  refine ⟨status_of_isDirectory, fun h => ?_⟩
  rw [isDirectory, h]

/-- A directory is found under the folded spelling of its path. -/
theorem isDirectory_normalize {path : Path} (habsolute : Path.isAbsolute path = true)
    (hnames : .up ∉ Path.parts path) (h : store.isDirectory path = true) :
    store.isDirectory (Path.normalize path) = true := by
  obtain ⟨place, hfound⟩ := isDirectory_iff.mp h
  obtain ⟨hclean, -, hshort, links, hlinks, hway⟩ := find_eq_ok_iff.mp hfound
  have hsublist := Path.normalize_sublist habsolute hnames
  have hthere := Path.isAbsolute_normalize habsolute
  have hspared := hway.spare (spares_told _)
  rw [told_segmentsOf] at hspared
  have hroute : store.Leads [] (segmentsOf (Path.normalize path)) links place .directory := by
    rw [beginning, habsolute, if_pos rfl] at hspared
    rw [Path.normalize_of_names habsolute hnames,
      segmentsOf_write fun _ => Path.isSaid_of_mem_parts]
    split
    · next hnone =>
        rw [hnone] at hspared
        have hroot := Leads.step .pass hspared
        rwa [Nat.zero_add] at hroot
    · exact hspared
  refine isDirectory_iff.mpr ⟨place, find_eq_ok_iff.mpr
    ⟨fun hmem => hclean (hsublist.subset hmem), ?_, hsublist.length_le.trans hshort, links, hlinks,
      ?_⟩⟩
  · rintro hnil
    rw [hnil] at hthere
    cases hthere
  · rwa [beginning, hthere, if_pos rfl]

end Store

end Conch.Files
