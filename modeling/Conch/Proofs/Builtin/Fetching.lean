import Conch.Proofs.Builtin.Requests
import Conch.Proofs.Text.Pieces
import Conch.Proofs.Url.Scheme

/-!
# What `fetch` takes for an address

`fetch` looks at the text of its target to tell an address from the name of a file, while an
address is read by rules that pass over the blanks around it and the tabs and line ends in it.  The
look misses an address whose scheme is not written as it is read, unless it has `://` somewhere:
its text is then taken for the name of a file.  All other addresses that may be fetched are
requested, and no file is touched.
-/

namespace Conch.Builtin

/-- A target hides its scheme from a look at its text if it has no `://`, and if a blank or a
control character stands before its first colon. -/
structure HidesScheme (target : String) : Prop where
  bare : ¬ "://".toList <:+: target.toList
  passed : ∃ c ∈ Url.beforeColon target.toList, Url.isEdge c = true

instance (target : String) : Decidable (HidesScheme target) :=
  decidable_of_iff
    (¬ "://".toList <:+: target.toList ∧ (Url.beforeColon target.toList).any Url.isEdge = true)
    ⟨fun ⟨hbare, hpassed⟩ => ⟨hbare, List.any_eq_true.mp hpassed⟩,
      fun h => ⟨h.bare, List.any_eq_true.mpr h.passed⟩⟩

/-! ## The look at a target -/

theorem looksRemote_iff (target : String) :
    looksRemote target = true ↔
      "://".toList <:+: target.toList ∨
        "http:".toList <+: target.toList.map Text.asciiLowerChar ∨
        "https:".toList <+: target.toList.map Text.asciiLowerChar := by
  simp only [looksRemote, Bool.or_eq_true, Text.occursIn_iff, Text.isSome_afterStart?_iff, or_assoc]

theorem colon_notMem_map {before : List Char} (h : ':' ∉ before) :
    ':' ∉ before.map Text.asciiLowerChar := by
  intro hmem
  obtain ⟨c, hc, hlower⟩ := List.mem_map.mp hmem
  have hnumber : (Text.asciiLowerChar c).toNat = 58 := by rw [hlower]; rfl
  rw [Text.toNat_asciiLowerChar] at hnumber
  have hcolon : c.toNat = ':'.toNat := by
    split at hnumber
    · omega
    · exact hnumber
  rw [Char.toNat_inj.mp hcolon] at hc
  exact h hc

/-- A text begins with a scheme and a colon, up to case, if the scheme is all that stands before
its first colon. -/
theorem scheme_prefix_iff {name before : List Char} (hname : ':' ∉ name) (hbefore : ':' ∉ before)
    (after : List Char) :
    name ++ [':'] <+: (before ++ ':' :: after).map Text.asciiLowerChar ↔
      before.map Text.asciiLowerChar = name := by
  have hcolon : Text.asciiLowerChar ':' = ':' := rfl
  have hnone := colon_notMem_map hbefore
  rw [List.map_append, List.map_cons, hcolon]
  constructor
  · rintro ⟨rest, hrest⟩
    rw [List.append_assoc, List.singleton_append] at hrest
    rw [← Url.beforeColon_append hnone, ← hrest, Url.beforeColon_append hname]
  · rintro rfl
    exact ⟨after.map Text.asciiLowerChar, by simp⟩

/-- A scheme has no blanks and no control characters, in lower case or not. -/
theorem not_isEdge_of_map {name before : List Char} (hname : ∀ c ∈ name, Url.isEdge c = false)
    (h : before.map Text.asciiLowerChar = name) : ∀ c ∈ before, Url.isEdge c = false := by
  intro c hc
  have hlower := hname (Text.asciiLowerChar c) (by rw [← h]; exact List.mem_map_of_mem hc)
  simp only [Url.isEdge, decide_eq_false_iff_not, Text.toNat_asciiLowerChar] at hlower ⊢
  split at hlower <;> omega

/-- An address that is fetched looks like one unless it hides its scheme. -/
theorem looksRemote_iff_of_web {target : String} {url : Url} (h : Url.read target = .web url) :
    looksRemote target = true ↔ ¬ HidesScheme target := by
  obtain ⟨before, after, htext, hbefore, hscheme⟩ := Url.exists_spelling_of_web h
  have hlooks : looksRemote target = true ↔ "://".toList <:+: target.toList ∨
      (before.map Text.asciiLowerChar = "http".toList ∨
        before.map Text.asciiLowerChar = "https".toList) := by
    rw [looksRemote_iff, ← scheme_prefix_iff (by decide) hbefore after,
      ← scheme_prefix_iff (by decide) hbefore after, ← htext]
    rfl
  rw [hlooks]
  constructor
  · rintro (hmarked | hwritten) ⟨hbare, c, hc, hedge⟩
    · exact hbare hmarked
    · -- what is passed over cannot be a letter of the scheme
      rw [htext, Url.beforeColon_append hbefore] at hc
      have hplain : Url.isEdge c = false := by
        rcases hwritten with hwritten | hwritten
        · exact not_isEdge_of_map (by simp [Url.isEdge]) hwritten c hc
        · exact not_isEdge_of_map (by simp [Url.isEdge]) hwritten c hc
      rw [hplain] at hedge
      cases hedge
  · intro hshows
    by_cases hmarked : "://".toList <:+: target.toList
    · exact .inl hmarked
    · -- nothing is passed over, so the scheme is written as it is read
      right
      have hplain : ∀ c ∈ before, Url.isEdge c = false := by
        intro c hc
        by_contra hedge
        rw [← Url.beforeColon_append hbefore after, ← htext] at hc
        exact hshows ⟨hmarked, c, hc, by simpa using hedge⟩
      rwa [Url.essentialStart_eq_self hplain] at hscheme

/-! ## The two ways of a target -/

theorem fetchable_eq_ok_iff {target : String} {url : Url} :
    fetchable target = .ok url ↔ Url.read target = .web url := by
  unfold fetchable
  split <;> simp_all

/-- A request looks at no file. -/
theorem asks_nothing_of_remote {target : String} (h : looksRemote target = true)
    (rest : List String) (context : Context) :
    Asks (fun _ => False) (fun _ => True) fun machine =>
      (fetch (target :: rest) context machine, machine) := by
  refine .of_apart (fun _ => trivial) fun machine files => ?_
  have hsame : fetch (target :: rest) context { machine with files := files } =
      fetch (target :: rest) context machine :=
    congrArg (outcomeOf "fetch") (fetchText_withFiles h context machine files)
  rw [hsame]

/-- **Where `fetch` and the reading of addresses agree.**  A target that is an address and may be
fetched is requested and no file is touched, unless it hides its scheme.  If it does, it is read as
a file. -/
theorem fetch_routes {target : String} {url : Url} (haccepted : fetchable target = .ok url)
    (rest : List String) (context : Context) :
    (¬ HidesScheme target →
        (∀ machine, fetch (target :: rest) context machine =
            outcomeOf "fetch" (fetchRemote url context machine)) ∧
          Asks (fun _ => False) (fun _ => True) fun machine =>
            (fetch (target :: rest) context machine, machine)) ∧
      (HidesScheme target → ∀ machine, fetch (target :: rest) context machine =
        outcomeOf "fetch" (context.readText machine target)) := by
  have hlooks := looksRemote_iff_of_web (fetchable_eq_ok_iff.mp haccepted)
  refine ⟨fun hshows => ?_, fun hhides machine => ?_⟩
  · have hremote := hlooks.mpr hshows
    refine ⟨fun machine => ?_, asks_nothing_of_remote hremote rest context⟩
    simp only [fetch, fetchText, hremote, if_true, haccepted]
    rfl
  · have hlocal : ¬ looksRemote target = true := fun hremote => hlooks.mp hremote hhides
    simp only [fetch, fetchText, hlocal]
    rfl

/-- The address of the machine itself, with port 1. -/
def loopback : Url :=
  ⟨"http", [], [], .v6 [0, 0, 0, 0, 0, 0, 0, 1], some 1, ['/'], none, none⟩

/-- A machine without a network, with files that are named as one spells that address. -/
def namesakes : Machine :=
  { Machine.blank with
    files := ⟨[([Path.ofText " http:[::1]:1"], .file [104, 105]),
      ([Path.ofText "ht\tTP:[::1]:1"], .file [104, 111])], [], []⟩ }

/-- A tab in the scheme hides it, and a blank before it does not if there is `://`. -/
theorem fetch_routes_tabbed :
    let context : Context := ⟨.standard, [Path.slash], none, .line 0⟩
    (fetchable "ht\tTP:[::1]:1" = .ok loopback ∧ HidesScheme "ht\tTP:[::1]:1" ∧
        fetchable " http://[::1]:1" = .ok loopback ∧ ¬ HidesScheme " http://[::1]:1") ∧
      fetch ["ht\tTP:[::1]:1"] context namesakes = Outcome.success "ho" ∧
      fetch [" http://[::1]:1"] context namesakes = Outcome.failure 1
        "fetch: request failed: error sending request for url (http://[::1]:1/)" := by
  intro context
  have htabbed : fetchable "ht\tTP:[::1]:1" = .ok loopback := by rfl
  have hhides : HidesScheme "ht\tTP:[::1]:1" := by decide
  have hmarked : fetchable " http://[::1]:1" = .ok loopback := by rfl
  have hshows : ¬ HidesScheme " http://[::1]:1" := by decide
  have hlocal := (fetch_routes htabbed [] context).2 hhides namesakes
  have hremote := ((fetch_routes hmarked [] context).1 hshows).1 namesakes
  exact ⟨⟨htabbed, hhides, hmarked, hshows⟩, hlocal.trans (by decide +kernel),
    hremote.trans (by decide +kernel)⟩

/-- Not every address that may be fetched is requested: behind a blank, one without `://` is read
as a file. -/
theorem fetch_astray :
    let context : Context := ⟨.standard, [Path.slash], none, .line 0⟩
    fetchable " http:[::1]:1" = .ok loopback ∧
      fetch [" http:[::1]:1"] context namesakes = Outcome.success "hi" ∧
      ¬ ∀ (target : String) (url : Url), fetchable target = .ok url →
        ∀ (rest : List String) (context : Context) (machine : Machine),
          fetch (target :: rest) context machine =
            outcomeOf "fetch" (fetchRemote url context machine) := by
  intro context
  have haccepted : fetchable " http:[::1]:1" = .ok loopback := by rfl
  have hread : fetch [" http:[::1]:1"] context namesakes = Outcome.success "hi" := by
    decide +kernel
  refine ⟨haccepted, hread, fun hall => ?_⟩
  have hremote := hall _ _ haccepted [] context namesakes
  rw [hread] at hremote
  have hfails : Outcome.success "hi" ≠
      outcomeOf "fetch" (fetchRemote loopback context namesakes) := by decide +kernel
  exact hfails hremote

end Conch.Builtin
