import Conch.Machine
import Conch.Proofs.Text.Pieces

/-!
# Rooted paths

A rooted path starts at the root and has no `..` among its segments.  What is resolved from
a rooted base is rooted: the guard refuses everything else, and folding keeps a path
absolute.  Nothing is said about where links on such a path lead.
-/

namespace Conch

namespace Path

/-- A path that starts at the root and never goes up. -/
structure Rooted (path : Path) : Prop where
  absolute : isAbsolute path = true
  never_up : upward ∉ segments path

/-- Octets that can name an entry of a directory. -/
structure IsName (name : Path) : Prop where
  part : Part.of? name = some (.name name)
  whole : slash ∉ name

theorem up_mem_parts_iff (path : Path) : .up ∈ parts path ↔ upward ∈ segments path := by
  have hof : ∀ segment, Part.of? segment = some .up ↔ segment = upward := by
    intro segment
    unfold Part.of?
    split
    · next h => rcases h with rfl | rfl <;> decide
    · split
      · next h => simp [h]
      · next h => simp [h]
  simp only [parts, List.mem_filterMap, hof]
  constructor
  · rintro ⟨segment, hmem, rfl⟩
    exact hmem
  · exact fun hmem => ⟨_, hmem, rfl⟩

instance (path : Path) : Decidable (Rooted path) :=
  decidable_of_iff (isAbsolute path = true ∧ upward ∉ segments path)
    ⟨fun ⟨habsolute, hup⟩ => ⟨habsolute, hup⟩, fun h => ⟨h.absolute, h.never_up⟩⟩

/-! ## Resolving -/

theorem isAbsolute_join {base : Path} (h : isAbsolute base = true) (target : Path) :
    isAbsolute (join base target) = true := by
  unfold join
  split
  · next habsolute => exact habsolute
  · cases base with
    | nil => simp [isAbsolute] at h
    | cons c rest =>
        split
        · exact h
        · exact h

theorem isAbsolute_normalize {path : Path} (h : isAbsolute path = true) :
    isAbsolute (normalize path) = true := by
  rw [normalize, h]
  rfl

theorem segments_append_slash (first later : Path) :
    segments (first ++ slash :: later) = segments first ++ segments later :=
  Text.splitBy_append_cons (by simp) first later

/-- A relative target is joined to a base by one slash, which can be the last one of the base. -/
theorem exists_join_of_ne_nil {base target : Path} (hbase : base ≠ [])
    (htarget : isAbsolute target = false) :
    ∃ before, join base target = before ++ slash :: target ∧
      (base = before ∧ base.getLast? ≠ some slash ∨ base = before ++ [slash]) := by
  have hsome : base.isEmpty = false := by simpa using hbase
  rw [join, htarget, if_neg Bool.false_ne_true, hsome, Bool.false_or]
  split
  · next hends =>
      obtain ⟨before, rfl⟩ := List.getLast?_eq_some_iff.mp (by simpa using hends)
      exact ⟨before, by simp, .inr rfl⟩
  · next hends => exact ⟨base, rfl, .inl ⟨rfl, by simpa using hends⟩⟩

theorem exists_join {base target : Path} (hbase : isAbsolute base = true)
    (htarget : isAbsolute target = false) :
    ∃ before, join base target = before ++ slash :: target ∧
      (base = before ∨ base = before ++ [slash]) := by
  have hsome : base ≠ [] := by
    rintro rfl
    cases hbase
  obtain ⟨before, hjoin, hbefore⟩ := exists_join_of_ne_nil hsome htarget
  exact ⟨before, hjoin, hbefore.imp_left And.left⟩

theorem mem_join {base target : Path} {c : UInt8} (h : c ∈ join base target) :
    c ∈ base ∨ c = slash ∨ c ∈ target := by
  unfold join at h
  split at h
  · exact .inr (.inr h)
  · split at h
    · exact (List.mem_append.mp h).imp_right .inr
    · exact (List.mem_append.mp h).imp_right List.mem_cons.mp

/-! ### Without a slash -/

theorem isAbsolute_of_slash_notMem {name : Path} (hslash : slash ∉ name) :
    isAbsolute name = false := by
  rw [isAbsolute, decide_eq_false_iff_not]
  exact fun hhead => hslash (List.mem_of_mem_head? hhead)

theorem segments_of_slash_notMem {name : Path} (hslash : slash ∉ name) :
    segments name = [name] := by
  refine Text.splitBy_of_none fun c hc => decide_eq_false ?_
  rintro rfl
  exact hslash hc

/-- The path of an entry is not empty and starts where that of its directory does. -/
theorem isAbsolute_join_eq {path name : Path} (hpath : path ≠ []) (hslash : slash ∉ name) :
    join path name ≠ [] ∧ isAbsolute (join path name) = isAbsolute path := by
  obtain ⟨c, rest, rfl⟩ := List.exists_cons_of_ne_nil hpath
  rw [join, isAbsolute_of_slash_notMem hslash, if_neg Bool.false_ne_true]
  split <;> exact ⟨List.cons_ne_nil _ _, rfl⟩

/-! ### The guard -/

/-- What passes the guard from a rooted base is rooted. -/
theorem rooted_of_resolveTarget {base path : Path} {target : String} (hbase : Rooted base)
    (h : resolveTarget base target = .ok path) : Rooted path := by
  unfold resolveTarget at h
  split at h
  · cases h
  · simp only at h
    split at h
    · cases h
    · next hup =>
        obtain rfl := Except.ok.inj h
        rw [List.contains_iff_mem] at hup
        exact ⟨isAbsolute_normalize (isAbsolute_join hbase.absolute _),
          fun hmem => hup ((up_mem_parts_iff _).mpr hmem)⟩

theorem rooted_of_resolve {target : Option String} {base path : Path}
    (hbase : Rooted base) (h : resolve target base = .ok path) : Rooted path := by
  unfold resolve at h
  split at h
  · obtain rfl := Except.ok.inj h
    exact hbase
  · split at h
    · obtain rfl := Except.ok.inj h
      exact hbase
    · exact rooted_of_resolveTarget hbase h

/-! ## Names below a rooted path -/

/-- An entry of a rooted directory has a rooted path. -/
theorem Rooted.join_name {base name : Path} (hbase : Rooted base) (hname : IsName name) :
    Rooted (join base name) := by
  refine ⟨isAbsolute_join hbase.absolute name, ?_⟩
  have hrelative := isAbsolute_of_slash_notMem hname.whole
  have hsegments := segments_of_slash_notMem hname.whole
  have hup : upward ≠ name := by
    rintro rfl
    exact absurd hname.part (by decide)
  obtain ⟨before, hjoin, hbefore⟩ := exists_join hbase.absolute hrelative
  have hnever : upward ∉ segments before := by
    have hnever := hbase.never_up
    rcases hbefore with rfl | rfl
    · exact hnever
    · rw [segments_append_slash, List.mem_append, not_or] at hnever
      exact hnever.1
  rw [hjoin, segments_append_slash, hsegments, List.mem_append, List.mem_singleton, not_or]
  exact ⟨hnever, hup⟩

end Path

/-- A path that a user names is rooted when the pipeline is in a rooted directory. -/
theorem Context.rooted_of_resolve {context : Context} {target : Option String} {path : Path}
    (hdirectory : Path.Rooted context.directory) (h : context.resolve target = .ok path) :
    Path.Rooted path := by
  unfold resolve at h
  split at h
  · next hresolve =>
      obtain rfl := Except.ok.inj h
      exact Path.rooted_of_resolve hdirectory hresolve
  · cases h

end Conch
