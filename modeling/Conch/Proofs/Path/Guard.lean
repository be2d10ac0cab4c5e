import Conch.Path.Guard
import Conch.Proofs.Path.Shown

/-!
# What climbs

The guard looks for `..` in a text, between slashes and backslashes alike.  A text that does not
climb spells a path without `..`, and neither joining nor folding makes a path climb that is shown.
So what is resolved climbs only if the base does.
-/

namespace Conch

namespace Path

open Text

theorem climbs_iff (target : List Char) :
    climbs target = true ↔
      ∃ piece ∈ splitBy (· = '/') target, ['.', '.'] ∈ splitBy isSeparator piece := by
  have hfiner : splitBy isSeparator target =
      (splitBy (· = '/') target).flatMap (splitBy isSeparator) :=
    splitBy_eq_flatMap (by simp [isSeparator]) target
  rw [climbs, List.contains_iff_mem, hfiner, List.mem_flatMap]

/-- A path climbs as it is shown if one of its segments does. -/
theorem climbs_shown_iff (path : Path) :
    climbs (shown path).toList = true ↔
      ∃ segment ∈ segments path, ['.', '.'] ∈ splitBy isSeparator (Utf8.decodeLossy segment) := by
  simp [climbs_iff, splitBy_shown]

/-- A path that does not climb has no `..` among its parts. -/
theorem up_notMem_parts {path : Path} (h : climbs (shown path).toList = false) :
    .up ∉ parts path := by
  rw [up_mem_parts_iff]
  intro hup
  have hdecoded : Utf8.decodeLossy upward = ['.', '.'] := by decide
  have hclimbs := (climbs_shown_iff path).mpr ⟨_, hup, by rw [hdecoded]; decide⟩
  rw [h] at hclimbs
  cases hclimbs

theorem climbs_of_climbs_normalize {path : Path}
    (h : climbs (shown (normalize path)).toList = true) : climbs (shown path).toList = true := by
  obtain ⟨segment, hmem, hup⟩ := (climbs_shown_iff _).mp h
  cases hsaid : Part.of? segment with
  | none =>
      -- only the segments that say something can hide a `..`
      unfold Part.of? at hsaid
      split at hsaid
      · next hsilent =>
          rcases hsilent with rfl | rfl
          · exact absurd hup (by decide)
          · exact absurd hup (by decide)
      · split at hsaid <;> cases hsaid
  | some part =>
      have hpart : part ∈ parts (normalize path) := List.mem_filterMap.mpr ⟨segment, hmem, hsaid⟩
      rw [parts_normalize] at hpart
      have hold := segment_mem_segments (mem_of_mem_foldParts hpart)
      rw [Part.segment_of_of? hsaid] at hold
      exact (climbs_shown_iff path).mpr ⟨segment, hold, hup⟩

/-- What stands before a slash and what stands behind it climb if one of them does. -/
theorem climbs_append_slash (first later : List Char) :
    climbs (first ++ '/' :: later) = (climbs first || climbs later) := by
  simp [climbs, splitBy_append_cons (show isSeparator '/' = true from rfl)]

theorem climbs_shown_append_slash (first later : Path) :
    climbs (shown (first ++ slash :: later)).toList =
      (climbs (shown first).toList || climbs (shown later).toList) := by
  have hstart : Utf8.State.IsSound .start := trivial
  have hdecoded : Utf8.decodeLossy (first ++ slash :: later) =
      Utf8.decodeLossy first ++ '/' :: Utf8.decodeLossy later :=
    Utf8.decodeFrom_append_cons hstart (by decide) first later
  rw [toList_shown, hdecoded, climbs_append_slash, toList_shown, toList_shown]

theorem climbs_join {base target : Path} (hbase : isAbsolute base = true)
    (h : climbs (shown (join base target)).toList = true) :
    climbs (shown base).toList = true ∨ climbs (shown target).toList = true := by
  cases habsolute : isAbsolute target with
  | true =>
      rw [join, habsolute, if_pos rfl] at h
      exact .inr h
  | false =>
      obtain ⟨before, hjoin, hbefore⟩ := exists_join hbase habsolute
      rw [hjoin, climbs_shown_append_slash, Bool.or_eq_true] at h
      rcases hbefore with rfl | rfl
      · exact h
      · exact h.imp_left fun hclimbs => by
          rw [climbs_shown_append_slash, hclimbs, Bool.true_or]

/-- From an absolute base the guard refuses what climbs, and nothing else. -/
theorem resolveTarget_eq {base : Path} (h : isAbsolute base = true) (target : String) :
    resolveTarget base target =
      if climbs target.toList then .error .named
      else .ok (normalize (join base (ofText target))) := by
  unfold resolveTarget
  split
  · rfl
  · have hup := up_notMem_parts_normalize (isAbsolute_join h (ofText target))
    simp [hup]

/-- From a text one gets to texts only. -/
theorem IsText.resolve {base path : Path} (h : IsText base) {target : Option String}
    (hpath : Path.resolve target base = .ok path) : IsText path := by
  unfold Path.resolve at hpath
  split at hpath
  · exact Except.ok.inj hpath ▸ h
  · next target =>
      split at hpath
      · exact Except.ok.inj hpath ▸ h
      · unfold resolveTarget at hpath
        split at hpath
        · cases hpath
        · simp only at hpath
          split at hpath
          · cases hpath
          · exact Except.ok.inj hpath ▸ (h.join (isText_ofText target)).normalize

/-- From a directory as it is shown, a target is resolved to what is shown alike. -/
theorem map_shown_resolve_respell {base : Path} (h : isAbsolute base = true)
    (target : Option String) :
    (resolve target (respell base)).map shown = (resolve target base).map shown := by
  have hthere : isAbsolute (respell base) = true := (isAbsolute_respell base).trans h
  have hbase : (Except.ok (respell base) : Except Traversal Path).map shown =
      (Except.ok base).map shown := congrArg Except.ok (shown_respell base)
  cases target with
  | none => exact hbase
  | some target =>
      by_cases hempty : target.isEmpty = true
      · simpa only [resolve, hempty, if_true] using hbase
      · simp only [resolve, hempty, Bool.false_eq_true, if_false, resolveTarget_eq hthere,
          resolveTarget_eq h]
        split
        · rfl
        · have hjoin : respell (join base (ofText target)) =
              join (respell base) (ofText target) := by
            rw [respell_join, isText_ofText]
          simp only [Except.map]
          rw [← hjoin, normalize_respell, shown_respell]

/-! ## Places reached from a start -/

/-- A directory that can be reached from `opening`: it is a text and folded, and it climbs only if
`opening` does, as far as it is not `opening` itself, or that as it is shown. -/
structure Reached (opening directory : Path) : Prop where
  absolute : isAbsolute directory = true
  text : IsText directory ∨ directory = opening
  spelling : normalize directory = directory ∨ shown directory = shown opening
  climbs : climbs (shown directory).toList = true → climbs (shown opening).toList = true

theorem Reached.refl {opening : Path} (h : isAbsolute opening = true) : Reached opening opening :=
  ⟨h, .inr rfl, .inr rfl, id⟩

/-- A directory is reached again as it is shown. -/
theorem Reached.respell {opening directory : Path} (h : Reached opening directory) :
    Reached opening (respell directory) := by
  refine ⟨(isAbsolute_respell directory).trans h.absolute, .inl (isText_respell directory), ?_, ?_⟩
  · rw [normalize_respell, shown_respell]
    exact h.spelling.imp_left (congrArg Path.respell)
  · rw [shown_respell]
    exact h.climbs

/-- What a user names from such a directory is another one. -/
theorem Reached.resolve {opening base : Path} (h : Reached opening base) {target : Option String}
    {path : Path} (hpath : Path.resolve target base = .ok path) :
    Reached opening (Path.respell path) := by
  unfold Path.resolve at hpath
  split at hpath
  · obtain rfl := Except.ok.inj hpath
    exact h.respell
  · next target =>
      split at hpath
      · obtain rfl := Except.ok.inj hpath
        exact h.respell
      · rw [resolveTarget_eq h.absolute] at hpath
        split at hpath
        · cases hpath
        · next hguarded =>
            obtain rfl := Except.ok.inj hpath
            have hjoined := isAbsolute_join h.absolute (ofText target)
            refine ⟨?_, .inl (isText_respell _), .inl ?_, fun hclimbs => ?_⟩
            · rw [isAbsolute_respell]
              exact isAbsolute_normalize hjoined
            · rw [normalize_respell, normalize_normalize]
            -- the guard has seen the target, so only the base can climb
            · rw [shown_respell] at hclimbs
              rcases climbs_join h.absolute (climbs_of_climbs_normalize hclimbs) with
                hbase | htarget
              · exact h.climbs hbase
              · rw [shown_ofText] at htarget
                exact absurd htarget hguarded

theorem isAbsolute_resolve {base path : Path} (h : isAbsolute base = true)
    {target : Option String} (hpath : Path.resolve target base = .ok path) :
    isAbsolute path = true :=
  (isAbsolute_respell path).symm.trans ((Reached.refl h).resolve hpath).absolute

end Path

end Conch
