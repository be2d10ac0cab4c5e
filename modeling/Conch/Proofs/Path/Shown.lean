import Conch.Proofs.Path.Folding
import Conch.Proofs.Text.Lossy

/-!
# Paths that are shown

A path is shown as a text, and that text spells a path again: the same one if the path is a text,
and otherwise another one, which can name something else or nothing.  The respelt path has as many
segments, and each of them is respelt by itself.  What says nothing and what goes up stays as it
is, so a path is folded alike before it is respelt and behind.
-/

namespace Conch

namespace Path

open Text

theorem toList_shown (path : Path) : (shown path).toList = Utf8.decodeLossy path :=
  String.toList_ofList

@[simp]
theorem shown_ofText (text : String) : shown (ofText text) = text := by
  rw [shown, ofText, Utf8.decodeLossy_encode, String.ofList_toList]

/-- The path that the text spells as which a path is shown. -/
def respell (path : Path) : Path :=
  ofText (shown path)

/-- A path that is a text. -/
def IsText (path : Path) : Prop :=
  respell path = path

instance (path : Path) : Decidable (IsText path) :=
  inferInstanceAs (Decidable (respell path = path))

theorem respell_eq (path : Path) : respell path = Utf8.encode (Utf8.decodeLossy path) := by
  rw [respell, ofText, toList_shown]

theorem isText_ofText (text : String) : IsText (ofText text) := by
  rw [IsText, respell, shown_ofText]

theorem shown_respell (path : Path) : shown (respell path) = shown path :=
  shown_ofText _

theorem isText_respell (path : Path) : IsText (respell path) :=
  isText_ofText _

/-- Only a path of ASCII is respelt to itself. -/
theorem respell_eq_iff (text : String) (hascii : ∀ c ∈ text.toList, c.toNat < 0x80)
    (path : Path) : respell path = ofText text ↔ path = ofText text := by
  constructor
  · intro h
    have hshown : shown path = text := by rw [← shown_respell, h, shown_ofText]
    rw [← String.toList_inj, toList_shown] at hshown
    exact (Utf8.decodeLossy_eq_iff hascii path).mp hshown
  · rintro rfl
    exact isText_ofText text

theorem ofText_eq_nil_iff (text : String) : ofText text = [] ↔ text = "" := by
  constructor
  · intro h
    rw [← shown_ofText text, h]
    rfl
  · rintro rfl
    rfl

theorem ofText_append_slash (first later : String) :
    ofText (first ++ "/" ++ later) = ofText first ++ slash :: ofText later := by
  have hslash : Utf8.encodeChar '/' = [slash] := rfl
  simp [ofText, Utf8.encode, hslash]

/-! ## Segments -/

theorem slash_ascii (c : Char) (h : decide (c = '/') = true) : c.toNat < 0x80 := by
  obtain rfl := of_decide_eq_true h
  decide

theorem onOctets_slash : Utf8.onOctets (· = '/') = (· = slash) :=
  Utf8.onOctets_char '/' (by decide)

/-- The segments of the path that a text spells are its pieces between slashes. -/
theorem segments_ofText (text : String) :
    segments (ofText text) = (splitBy (· = '/') text.toList).map Utf8.encode := by
  rw [segments, ← onOctets_slash]
  exact Utf8.splitBy_encode slash_ascii text.toList

/-- The pieces between slashes that a path is shown with are its segments. -/
theorem splitBy_shown (path : Path) :
    splitBy (· = '/') (shown path).toList = (segments path).map Utf8.decodeLossy := by
  rw [segments, ← onOctets_slash, toList_shown]
  exact Utf8.splitBy_decodeLossy slash_ascii path

theorem segments_respell (path : Path) :
    segments (respell path) = (segments path).map respell := by
  rw [respell, segments_ofText, splitBy_shown, List.map_map]
  exact List.map_congr_left fun segment _ => (respell_eq segment).symm

theorem respell_append_slash (first later : Path) :
    respell (first ++ slash :: later) = respell first ++ slash :: respell later := by
  have hstart : Utf8.State.IsSound .start := trivial
  have hdecoded : Utf8.decodeLossy (first ++ slash :: later) =
      Utf8.decodeLossy first ++ '/' :: Utf8.decodeLossy later :=
    Utf8.decodeFrom_append_cons hstart (by decide) first later
  simp only [respell_eq, hdecoded, Utf8.encode, List.flatMap_append, List.flatMap_cons]
  rfl

theorem respell_eq_nil_iff (path : Path) : respell path = [] ↔ path = [] := by
  have hnil : ofText "" = [] := by decide
  rw [← hnil]
  exact respell_eq_iff "" (by simp) path

theorem respell_eq_here_iff (path : Path) : respell path = here ↔ path = here := by
  have hhere : ofText "." = here := by decide
  rw [← hhere]
  exact respell_eq_iff "." (by simp) path

theorem respell_eq_upward_iff (path : Path) : respell path = upward ↔ path = upward := by
  have hupward : ofText ".." = upward := by decide
  rw [← hupward]
  exact respell_eq_iff ".." (by simp) path

/-- A respelt path goes up where the path does. -/
theorem upward_mem_segments_respell_iff (path : Path) :
    upward ∈ segments (respell path) ↔ upward ∈ segments path := by
  rw [segments_respell, List.mem_map]
  constructor
  · rintro ⟨segment, hmem, hup⟩
    rwa [← (respell_eq_upward_iff segment).mp hup]
  · exact fun hmem => ⟨upward, hmem, (respell_eq_upward_iff upward).mpr rfl⟩

theorem isAbsolute_iff (path : Path) :
    isAbsolute path = true ↔ ∃ first later, segments path = [] :: first :: later := by
  constructor
  · intro h
    obtain ⟨rest, rfl⟩ := exists_of_isAbsolute h
    obtain ⟨first, later, hrest⟩ := List.exists_cons_of_ne_nil (splitBy_ne_nil (· = slash) rest)
    exact ⟨first, later, by rw [segments_slash, segments, hrest]⟩
  · rintro ⟨first, later, h⟩
    cases path with
    | nil => cases h
    | cons b rest =>
        by_cases hb : b = slash
        · rw [hb]
          rfl
        · obtain ⟨piece, pieces, hrest⟩ :=
            List.exists_cons_of_ne_nil (splitBy_ne_nil (· = slash) rest)
          simp [segments, splitBy, hb, hrest] at h

theorem isAbsolute_respell (path : Path) : isAbsolute (respell path) = isAbsolute path := by
  rw [Bool.eq_iff_iff, isAbsolute_iff, isAbsolute_iff, segments_respell]
  constructor
  · rintro ⟨first, later, h⟩
    obtain ⟨segment, rest, hsegments, hnil, hrest⟩ := List.map_eq_cons_iff.mp h
    obtain ⟨next, others, rfl, -, -⟩ := List.map_eq_cons_iff.mp hrest
    obtain rfl := (respell_eq_nil_iff segment).mp hnil
    exact ⟨next, others, hsegments⟩
  · rintro ⟨first, later, h⟩
    exact ⟨respell first, later.map respell, by rw [h]; rfl⟩

theorem shown_ne_empty {path : Path} (h : isAbsolute path = true) : shown path ≠ "" := by
  intro hempty
  have hnil : respell path = [] := by
    rw [respell, hempty]
    rfl
  rw [(respell_eq_nil_iff path).mp hnil] at h
  cases h

/-- A rooted path is shown as one. -/
theorem Rooted.respell {path : Path} (h : Rooted path) : Rooted (respell path) :=
  ⟨(isAbsolute_respell path).trans h.absolute,
    fun hup => h.never_up ((upward_mem_segments_respell_iff path).mp hup)⟩

/-! ## Folding -/

/-- A part with its name respelt. -/
def Part.respelt : Part → Part
  | .up => .up
  | .name octets => .name (respell octets)

theorem Part.segment_respelt (part : Part) : part.respelt.segment = respell part.segment := by
  cases part with
  | up => exact ((respell_eq_upward_iff upward).mpr rfl).symm
  | name octets => rfl

theorem Part.of?_respell (segment : Path) :
    Part.of? (respell segment) = (Part.of? segment).map Part.respelt := by
  simp only [Part.of?, respell_eq_nil_iff, respell_eq_here_iff, respell_eq_upward_iff]
  split
  · rfl
  · split <;> rfl

theorem parts_respell (path : Path) : parts (respell path) = (parts path).map Part.respelt := by
  rw [parts, segments_respell, parts, List.filterMap_map, List.map_filterMap]
  exact List.filterMap_congr fun segment _ => Part.of?_respell segment

theorem foldPart_respelt (absolute : Bool) (folded : List Part) (part : Part) :
    foldPart absolute (folded.map Part.respelt) part.respelt =
      (foldPart absolute folded part).map Part.respelt := by
  cases part with
  | name octets => rfl
  | up =>
      cases folded with
      | nil => cases absolute <;> rfl
      | cons last before =>
          cases last with
          | name octets => rfl
          | up => cases absolute <;> rfl

theorem foldParts_respelt (absolute : Bool) (ps : List Part) :
    foldParts absolute (ps.map Part.respelt) = (foldParts absolute ps).map Part.respelt := by
  have hfold : ∀ folded : List Part,
      (ps.map Part.respelt).foldl (foldPart absolute) (folded.map Part.respelt) =
        (ps.foldl (foldPart absolute) folded).map Part.respelt := by
    intro folded
    induction ps generalizing folded with
    | nil => rfl
    | cons first later ih =>
        rw [List.map_cons, List.foldl_cons, foldPart_respelt, ih, List.foldl_cons]
  have hwhole := hfold []
  rw [List.map_nil] at hwhole
  rw [foldParts, foldParts, hwhole, List.map_reverse]

theorem intercalate_respell (pieces : List Path) :
    respell ([slash].intercalate pieces) = [slash].intercalate (pieces.map respell) := by
  induction pieces with
  | nil => exact (respell_eq_nil_iff []).mpr rfl
  | cons first later ih =>
      cases later with
      | nil => simp
      | cons next others =>
          rw [List.intercalate_cons_cons, List.append_assoc, List.singleton_append,
            respell_append_slash, ih, List.map_cons, List.map_cons, List.map_cons,
            List.intercalate_cons_cons, List.append_assoc]
          rfl

theorem write_respelt (absolute : Bool) (ps : List Part) :
    write absolute (ps.map Part.respelt) = respell (write absolute ps) := by
  have hsegments : (ps.map Part.respelt).map Part.segment =
      (ps.map Part.segment).map respell := by
    rw [List.map_map, List.map_map]
    exact List.map_congr_left fun part _ => part.segment_respelt
  rw [write, write, hsegments, ← intercalate_respell]
  cases absolute with
  | false => rfl
  | true =>
      have hnil : respell [] = [] := (respell_eq_nil_iff []).mpr rfl
      have hslash := respell_append_slash [] ([slash].intercalate (ps.map Part.segment))
      rw [hnil, List.nil_append, List.nil_append] at hslash
      exact hslash.symm

/-- It is the same whether a path is folded before it is respelt or behind. -/
theorem normalize_respell (path : Path) : normalize (respell path) = respell (normalize path) := by
  rw [normalize, isAbsolute_respell, parts_respell, foldParts_respelt, write_respelt, normalize]

theorem IsText.normalize {path : Path} (h : IsText path) : IsText (normalize path) := by
  rw [IsText, ← normalize_respell, h]

/-- A path with the parts of a text is a text, however it is spelt. -/
theorem IsText.of_parts {path other : Path} (h : IsText other) (hparts : parts path = parts other) :
    IsText path := by
  have hrespelt : (parts path).map Part.respelt = (parts path).map id := by
    rw [hparts, ← parts_respell, h, List.map_id]
  -- a segment that says nothing is empty or a dot, and any other one is what its part says
  have hsegment : ∀ segment ∈ segments path, respell segment = segment := by
    intro segment hmem
    cases hsaid : Part.of? segment with
    | none =>
        unfold Part.of? at hsaid
        split at hsaid
        · next hsilent =>
            rcases hsilent with rfl | rfl
            · exact (respell_eq_nil_iff []).mpr rfl
            · exact (respell_eq_here_iff here).mpr rfl
        · split at hsaid <;> cases hsaid
    | some part =>
        have hpart : part ∈ parts path := List.mem_filterMap.mpr ⟨segment, hmem, hsaid⟩
        have hsame : part.respelt = part := List.map_inj_left.mp hrespelt part hpart
        rw [← Part.segment_of_of? hsaid, ← Part.segment_respelt, hsame]
  have hsegments : segments (respell path) = segments path := by
    rw [segments_respell]
    exact (List.map_congr_left hsegment).trans (List.map_id _)
  -- a path is its segments with slashes between them
  have hwhole := intercalate_splitBy slash (respell path)
  rw [← segments, hsegments, segments, intercalate_splitBy] at hwhole
  exact hwhole.symm

/-! ## Joining -/

/-- A respelt path ends in a slash only if the path does. -/
theorem getLast?_of_respell {path : Path} (h : (respell path).getLast? = some slash) :
    path.getLast? = some slash := by
  obtain ⟨front, hfront⟩ := List.getLast?_eq_some_iff.mp h
  have hsegments := segments_respell path
  rw [hfront, segments_append_slash front []] at hsegments
  -- the last segment is empty, and another one is before it
  have hlast : (segments path).getLast? = some [] := by
    have hmapped := congrArg List.getLast? hsegments
    rw [List.getLast?_append, List.getLast?_map] at hmapped
    obtain ⟨segment, hsegment, hnil⟩ := Option.map_eq_some_iff.mp hmapped.symm
    rw [hsegment, (respell_eq_nil_iff segment).mp hnil]
  obtain ⟨others, hothers⟩ := List.getLast?_eq_some_iff.mp hlast
  have hwhole := intercalate_splitBy slash path
  rw [← segments, hothers] at hwhole
  cases others with
  | nil =>
      rw [List.nil_append, List.intercalate_singleton] at hwhole
      subst hwhole
      rw [(respell_eq_nil_iff []).mpr rfl] at h
      cases h
  | cons first rest =>
      rw [intercalate_concat (List.cons_ne_nil first rest), List.append_nil] at hwhole
      rw [← hwhole, List.getLast?_append]
      rfl

theorem respell_join (base target : Path) :
    respell (join base target) = join (respell base) (respell target) := by
  have hnil : respell [] = [] := (respell_eq_nil_iff []).mpr rfl
  cases habsolute : isAbsolute target with
  | true => rw [join, join, isAbsolute_respell, habsolute, if_pos rfl, if_pos rfl]
  | false =>
      have hrelative := (isAbsolute_respell target).trans habsolute
      by_cases hbase : base = []
      · obtain rfl := hbase
        simp [join, habsolute, hrelative, hnil]
      · have hsome : respell base ≠ [] := fun h => hbase ((respell_eq_nil_iff base).mp h)
        obtain ⟨before, hjoin, hbefore⟩ := exists_join_of_ne_nil hbase habsolute
        rw [hjoin, respell_append_slash]
        rcases hbefore with ⟨rfl, hends⟩ | rfl
        · have hopen : (respell base).getLast? ≠ some slash :=
            fun h => hends (getLast?_of_respell h)
          simp [join, hrelative, hsome, hopen]
        · rw [respell_append_slash, hnil]
          simp [join, hrelative]

theorem IsText.join {base target : Path} (hbase : IsText base) (htarget : IsText target) :
    IsText (join base target) := by
  rw [IsText, respell_join, hbase, htarget]

end Path

end Conch
