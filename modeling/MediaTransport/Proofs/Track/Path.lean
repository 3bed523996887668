import MediaTransport.Proofs.Text.Utf8
import MediaTransport.Track.Namespace
import Mathlib.Data.List.Basic

/-!
# Namespaces as paths

`TrackNamespace.IsSegment` says which fields a path can name.  A namespace of such fields is
read back from its path, and no path names any other field.

`TrackNamespace.paths_round_trip`: a path that is read and written again has lost the slashes
that lead, trail or follow another (`dropSlashes`), and nothing else.
-/

namespace MediaTransport

namespace TrackNamespace

/-! ## Segments -/

theorem segments_ne_nil (chars : List Char) : segments chars ≠ [] := by
  cases chars with
  | nil => nofun
  | cons c chars =>
      unfold segments
      split
      · nofun
      · split <;> nofun

/-- A character that is no slash goes to the segment that begins behind it. -/
theorem segments_cons {c : Char} (other : c ≠ '/') (chars : List Char) :
    ∃ first others, segments chars = first :: others ∧
      segments (c :: chars) = (c :: first) :: others := by
  obtain ⟨first, others, parted⟩ := List.exists_cons_of_ne_nil (segments_ne_nil chars)
  refine ⟨first, others, parted, ?_⟩
  rw [segments, if_neg other, parted]

/-- A separator in front has an empty segment before it. -/
theorem segments_slash (chars : List Char) : segments ('/' :: chars) = [] :: segments chars := by
  rw [segments, if_pos rfl]

/-- No segment holds the separator. -/
theorem not_mem_of_mem_segments {chars segment : List Char} (member : segment ∈ segments chars) :
    '/' ∉ segment := by
  induction chars generalizing segment with
  | nil =>
      obtain rfl := List.mem_singleton.mp member
      exact List.not_mem_nil
  | cons c chars ih =>
      by_cases slash : c = '/'
      · subst slash
        rw [segments_slash] at member
        rcases List.mem_cons.mp member with rfl | later
        · exact List.not_mem_nil
        · exact ih later
      · obtain ⟨first, others, parted, joined⟩ := segments_cons slash chars
        rw [parted] at ih
        rw [joined] at member
        rcases List.mem_cons.mp member with rfl | later
        · have clean := ih List.mem_cons_self
          simpa [Ne.symm slash] using clean
        · exact ih (List.mem_cons_of_mem _ later)

/-- A segment ends with the first slash behind it. -/
theorem segments_append {segment : List Char} (clean : '/' ∉ segment) (later : List Char) :
    segments (segment ++ '/' :: later) = segment :: segments later := by
  induction segment with
  | nil => exact segments_slash later
  | cons c segment ih =>
      obtain ⟨other, clean⟩ := List.ne_and_not_mem_of_not_mem_cons clean
      rw [List.cons_append, segments, if_neg (Ne.symm other), ih clean]

/-- Without a separator there is one segment. -/
theorem segments_of_clean {segment : List Char} (clean : '/' ∉ segment) :
    segments segment = [segment] := by
  induction segment with
  | nil => rfl
  | cons c segment ih =>
      obtain ⟨other, clean⟩ := List.ne_and_not_mem_of_not_mem_cons clean
      rw [segments, if_neg (Ne.symm other), ih clean]

/-- The segments that are no empty ones. -/
def filled (chars : List Char) : List (List Char) :=
  (segments chars).filter (!·.isEmpty)

theorem mem_filled {chars segment : List Char} (member : segment ∈ filled chars) :
    segment ≠ [] ∧ '/' ∉ segment := by
  obtain ⟨inSegments, nonempty⟩ := List.mem_filter.mp member
  exact ⟨by simpa using nonempty, not_mem_of_mem_segments inSegments⟩

/-- Segments that are joined by slashes are found again. -/
theorem filled_intercalate {parts : List (List Char)}
    (clean : ∀ part ∈ parts, part ≠ [] ∧ '/' ∉ part) :
    filled (['/'].intercalate parts) = parts := by
  unfold filled
  induction parts with
  | nil => rfl
  | cons part parts ih =>
      obtain ⟨⟨nonempty, noSlash⟩, cleanRest⟩ := List.forall_mem_cons.mp clean
      have kept : (!part.isEmpty) = true := by simpa using nonempty
      cases parts with
      | nil =>
          rw [List.intercalate_singleton, segments_of_clean noSlash, List.filter_cons, if_pos kept]
          rfl
      | cons next parts =>
          rw [List.intercalate_cons_cons, List.append_assoc, List.singleton_append,
            segments_append noSlash, List.filter_cons, if_pos kept, ih cleanRest]

/-! ## Fields -/

/-- A field that a path can name: text that is not empty and has no slash. -/
structure IsSegment (field : Bytes) : Prop where
  nonempty : field ≠ []
  text : ∃ text, Utf8.decode field = .ok text ∧ '/' ∉ text.toList

/-- A field stands for a segment if it is the encoding of some text without a separator, and not
empty. -/
theorem isSegment_iff {field : Bytes} :
    IsSegment field ↔
      ∃ chars, (chars ≠ [] ∧ '/' ∉ chars) ∧ Utf8.encodeChars chars = field := by
  constructor
  · rintro ⟨nonempty, text, read, clean⟩
    have encoded := Utf8.encode_of_decode read
    refine ⟨text.toList, ⟨?_, clean⟩, encoded⟩
    intro empty
    rw [Utf8.encode, empty] at encoded
    exact nonempty encoded.symm
  · rintro ⟨chars, ⟨nonempty, clean⟩, rfl⟩
    refine ⟨?_, String.ofList chars, ?_, by rwa [String.toList_ofList]⟩
    · intro empty
      have enough := Utf8.length_le_length_encodeChars chars
      rw [empty] at enough
      exact nonempty (List.length_eq_zero_iff.mp (Nat.le_zero.mp enough))
    · have read := Utf8.decode_encode (String.ofList chars)
      rwa [Utf8.encode, String.toList_ofList] at read

theorem exists_segments {fields : List Bytes} (named : ∀ field ∈ fields, IsSegment field) :
    ∃ parts : List (List Char), (∀ part ∈ parts, part ≠ [] ∧ '/' ∉ part) ∧
      parts.map Utf8.encodeChars = fields := by
  induction fields with
  | nil => exact ⟨[], nofun, rfl⟩
  | cons field fields ih =>
      obtain ⟨namedFirst, namedRest⟩ := List.forall_mem_cons.mp named
      obtain ⟨chars, clean, rfl⟩ := isSegment_iff.mp namedFirst
      obtain ⟨parts, cleanRest, rfl⟩ := ih namedRest
      exact ⟨chars :: parts, List.forall_mem_cons.mpr ⟨clean, cleanRest⟩, rfl⟩

/-! ## Paths -/

/-- The fields that are read of a path can all be written as segments. -/
theorem isSegment_of_mem_ofPath {text : String} {field : Bytes}
    (member : field ∈ (ofPath text).fields) : IsSegment field := by
  obtain ⟨part, inFilled, rfl⟩ := List.mem_map.mp member
  exact isSegment_iff.mpr ⟨part, mem_filled inFilled, rfl⟩

theorem repair_encodeChars (chars : List Char) :
    Utf8.repair (Utf8.encodeChars chars) = String.ofList chars := by
  have read := Utf8.repair_encode (String.ofList chars)
  rwa [Utf8.encode, String.toList_ofList] at read

/-- The path of fields that are text joins the texts by slashes. -/
theorem toList_path (parts : List (List Char)) :
    (path ⟨parts.map Utf8.encodeChars⟩).toList = ['/'].intercalate parts := by
  show (String.intercalate "/" _).toList = _
  rw [String.toList_intercalate, List.map_map, List.map_map]
  refine congrArg ['/'].intercalate ((List.map_congr_left fun part _ => ?_).trans (List.map_id _))
  show (Utf8.repair (Utf8.encodeChars part)).toList = part
  rw [repair_encodeChars, String.toList_ofList]

/-- A path that was written of such fields is read as these. -/
theorem ofPath_path {trackNamespace : TrackNamespace}
    (named : ∀ field ∈ trackNamespace.fields, IsSegment field) :
    ofPath trackNamespace.path = trackNamespace := by
  obtain ⟨fields⟩ := trackNamespace
  obtain ⟨parts, clean, rfl⟩ := exists_segments named
  refine congrArg TrackNamespace.mk ?_
  show (filled (path _).toList).map Utf8.encodeChars = _
  rw [toList_path, filled_intercalate clean]

/-! ## Slashes -/

/-- The characters without the slashes that lead, trail or follow another.  `begun` says
whether a segment stands before them. -/
def dropSlashes (begun : Bool) : List Char → List Char
  | [] => []
  | c :: rest =>
    if c ≠ '/' then c :: dropSlashes true rest
    else if begun && rest.head?.any (· ≠ '/') then '/' :: dropSlashes true rest
    else dropSlashes begun rest

theorem intercalate_cons (part : List Char) (parts : List (List Char)) :
    ['/'].intercalate (part :: parts) = part ++ parts.flatMap ('/' :: ·) := by
  induction parts generalizing part with
  | nil => simp
  | cons next parts ih => rw [List.intercalate_cons_cons, ih]; simp

/-- A segment begins where no slash follows. -/
theorem head_any_eq {chars first : List Char} {others : List (List Char)}
    (parted : segments chars = first :: others) :
    chars.head?.any (· ≠ '/') = !first.isEmpty := by
  cases chars with
  | nil =>
      cases parted
      rfl
  | cons c chars =>
      by_cases slash : c = '/'
      · subst slash
        rw [segments_slash] at parted
        cases parted
        rfl
      · obtain ⟨_, _, _, joined⟩ := segments_cons slash chars
        rw [joined] at parted
        cases parted
        exact decide_eq_true slash

/-- The slashes that are left are those between segments.  Where a segment has begun before,
the first part goes on with it. -/
theorem dropSlashes_eq {chars first : List Char} {others : List (List Char)}
    (parted : segments chars = first :: others) :
    dropSlashes true chars = first ++ (others.filter (!·.isEmpty)).flatMap ('/' :: ·) ∧
      dropSlashes false chars = ['/'].intercalate (filled chars) := by
  induction chars generalizing first others with
  | nil =>
      cases parted
      exact ⟨rfl, rfl⟩
  | cons c chars ih =>
      by_cases slash : c = '/'
      · subst slash
        have skipped : filled ('/' :: chars) = filled chars := by
          rw [filled, segments_slash]
          rfl
        rw [segments_slash] at parted
        obtain ⟨rfl, rfl⟩ := List.cons.inj parted
        obtain ⟨next, later, parted⟩ : ∃ next later, segments chars = next :: later :=
          List.exists_cons_of_ne_nil (segments_ne_nil chars)
        obtain ⟨begun, fresh⟩ := ih parted
        refine ⟨?_, ?_⟩
        · rw [dropSlashes, if_neg (not_not.mpr rfl), head_any_eq parted, Bool.true_and, parted,
            List.filter_cons]
          -- The slash stays if a segment follows it at once.
          split
          · rw [begun, List.flatMap_cons, List.nil_append, List.cons_append]
          · next empty =>
            have empty : next = [] := by simpa using empty
            rw [begun, empty]
        · rw [dropSlashes, if_neg (not_not.mpr rfl), Bool.false_and, if_neg Bool.false_ne_true,
            fresh, skipped]
      · obtain ⟨next, later, partedRest, joined⟩ := segments_cons slash chars
        rw [joined] at parted
        obtain ⟨rfl, rfl⟩ := List.cons.inj parted
        obtain ⟨begun, _⟩ := ih partedRest
        refine ⟨?_, ?_⟩
        · rw [dropSlashes, if_pos slash, begun]
          rfl
        · have kept : (!(c :: next).isEmpty) = true := rfl
          rw [dropSlashes, if_pos slash, begun, filled, joined, List.filter_cons, if_pos kept,
            intercalate_cons]
          rfl

/-- A path that is read and written again loses slashes, and nothing else. -/
theorem path_ofPath (text : String) :
    (ofPath text).path = String.ofList (dropSlashes false text.toList) := by
  obtain ⟨first, others, parted⟩ := List.exists_cons_of_ne_nil (segments_ne_nil text.toList)
  rw [(dropSlashes_eq parted).2, ← toList_path, String.ofList_toList]
  rfl

/-- The namespaces that are read back from their paths are those that some path names, and a
path that is read and written again names the same. -/
theorem paths_round_trip (trackNamespace : TrackNamespace) (text : String) :
    (ofPath trackNamespace.path = trackNamespace ↔
        ∀ field ∈ trackNamespace.fields, IsSegment field) ∧
      (∀ field ∈ (ofPath text).fields, IsSegment field) ∧
      ofPath (ofPath text).path = ofPath text ∧
      (ofPath text).path = String.ofList (dropSlashes false text.toList) := by
  refine ⟨⟨fun kept field member => ?_, ofPath_path⟩, fun _ => isSegment_of_mem_ofPath,
    ofPath_path fun _ => isSegment_of_mem_ofPath, path_ofPath text⟩
  rw [← kept] at member
  exact isSegment_of_mem_ofPath member

example : dropSlashes false "/a//bc/".toList = "a/bc".toList := by decide

end TrackNamespace

end MediaTransport
