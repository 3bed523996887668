import MediaTransport.Media.Loc
import MediaTransport.Proofs.Wire.Decoder
import Mathlib.Logic.Function.Iterate

/-!
# The typed view of extensions

Extensions are taken into the typed view one after the other: the last of a registered type
counts, and what does not fit a packed header is dropped.  The view written out again has the
registered types in front, each at most once.

* `LocHeaders.Reflects`: what the view holds of the extensions, kept by each of them
  (`Reflects.add`).
* `LocHeaders.ofExtensions_toExtensions_iff`: the views that are what they are read as again.
* `LocHeaders.projection`: every view of extensions is such a one.
-/

namespace MediaTransport

/-! ## Packed headers -/

/-- A bit as a flag. -/
theorem toNat_decide_mod_two (bits : Nat) : (decide (bits % 2 = 1)).toNat = bits % 2 := by
  rcases Nat.mod_two_eq_zero_or_one bits with clear | set
  · rw [clear]
    rfl
  · rw [set]
    rfl

namespace VideoFrameMarking

/-- Eight bits are all that is kept of a marking. -/
theorem toBits_ofBits (bits : Nat) : (ofBits bits).toBits = bits % 256 := by
  simp only [toBits, ofBits, toNat_decide_mod_two]
  omega

theorem ofBits_mod (bits : Nat) : ofBits (bits % 256) = ofBits bits := by
  simp only [ofBits, mk.injEq, decide_eq_decide]
  omega

/-- What is dropped is dropped once. -/
theorem ofBits_toBits_ofBits (bits : Nat) : ofBits (ofBits bits).toBits = ofBits bits := by
  rw [toBits_ofBits, ofBits_mod]

end VideoFrameMarking

namespace AudioLevel

/-- Of an audio level as well. -/
theorem toBits_ofBits (bits : Nat) : (ofBits bits).toBits = bits % 256 := by
  simp only [toBits, ofBits, toNat_decide_mod_two]
  omega

theorem ofBits_mod (bits : Nat) : ofBits (bits % 256) = ofBits bits := by
  simp only [ofBits, mk.injEq, decide_eq_decide]
  omega

/-- What is dropped is dropped once. -/
theorem ofBits_toBits_ofBits (bits : Nat) : ofBits (ofBits bits).toBits = ofBits bits := by
  rw [toBits_ofBits, ofBits_mod]

end AudioLevel

/-! ## The last of a type -/

theorem LocType.ofNat?_eq_some_iff {number : Nat} {type : LocType} :
    ofNat? number = some type ↔ number = type.toNat := by
  constructor
  · intro known
    unfold ofNat? at known
    split at known <;> cases known <;> rfl
  · rintro rfl
    cases type <;> rfl

/-- The value of the last entry of a type. -/
def LocType.last? (type : LocType) (entries : List (Nat × ExtensionValue)) :
    Option ExtensionValue :=
  entries.reverse.lookup type.toNat

/-- A later entry of a type takes the place of the earlier. -/
theorem LocType.last?_append (type : LocType) (entries : List (Nat × ExtensionValue))
    (entry : Nat × ExtensionValue) :
    type.last? (entries ++ [entry]) =
      if ofNat? entry.1 = some type then some entry.2 else type.last? entries := by
  unfold last?
  rw [List.reverse_append, List.reverse_singleton, List.singleton_append, List.lookup_cons]
  simp only [ofNat?_eq_some_iff]
  by_cases same : entry.1 = type.toNat
  · simp [same]
  · simp [same, beq_eq_false_iff_ne.mpr (Ne.symm same)]

namespace LocHeaders

variable {headers after : LocHeaders} {entries : List (Nat × ExtensionValue)}
  {entry : Nat × ExtensionValue}

/-! ## One more extension -/

/-- What becomes of the view with one more extension. -/
inductive Added (headers : LocHeaders) (entry : Nat × ExtensionValue) : LocHeaders → Prop
  | other (unregistered : LocType.ofNat? entry.1 = none) (fits : entry.2.fits entry.1) :
      Added headers entry { headers with other := ⟨headers.other.entries ++ [entry]⟩ }
  | captureTimestamp (known : LocType.ofNat? entry.1 = some .captureTimestamp)
      {timestamp : CaptureTimestamp} (number : entry.2.varint? = some timestamp.micros) :
      Added headers entry { headers with captureTimestamp := some timestamp }
  | videoFrameMarking (known : LocType.ofNat? entry.1 = some .videoFrameMarking) {bits : Nat}
      (number : entry.2.varint? = some bits) :
      Added headers entry { headers with videoFrameMarking := some (.ofBits bits) }
  | audioLevel (known : LocType.ofNat? entry.1 = some .audioLevel) {bits : Nat}
      (number : entry.2.varint? = some bits) :
      Added headers entry { headers with audioLevel := some (.ofBits bits) }
  | videoConfig (known : LocType.ofNat? entry.1 = some .videoConfig) {config : Bytes}
      (block : entry.2.block? = some config) :
      Added headers entry { headers with videoConfig := some config }

theorem requireVarint_eq_ok {value : ExtensionValue} {number : Nat} :
    requireVarint value = .ok number ↔ value.varint? = some number := by
  unfold requireVarint
  cases value.varint? with
  | none => exact ⟨nofun, nofun⟩
  | some other => simp only [Except.ok.injEq, Option.some.injEq]

/-- Taking in an entry sets the field of its type. -/
theorem added_of_add (added : headers.add entry = .ok after) : Added headers entry after := by
  unfold add at added
  split at added
  · next unregistered =>
    unfold Extensions.push at added
    by_cases fits : entry.2.fits entry.1
    · rw [if_pos fits] at added
      cases added
      exact .other unregistered fits
    · rw [if_neg fits] at added
      cases added
  · next known =>
    obtain ⟨number, required, added⟩ := Except.bind_eq_ok.mp added
    unfold CaptureTimestamp.ofMicros at added
    by_cases inRange : number < Varint.bound
    · rw [dif_pos inRange] at added
      cases added
      exact .captureTimestamp known (requireVarint_eq_ok.mp required)
    · rw [dif_neg inRange] at added
      cases added
  · next known =>
    obtain ⟨bits, required, added⟩ := Except.bind_eq_ok.mp added
    cases added
    exact .videoFrameMarking known (requireVarint_eq_ok.mp required)
  · next known =>
    obtain ⟨bits, required, added⟩ := Except.bind_eq_ok.mp added
    cases added
    exact .audioLevel known (requireVarint_eq_ok.mp required)
  · next known =>
    split at added
    · next block =>
      cases added
      exact .videoConfig known block
    · cases added

theorem Added.add (added : Added headers entry after) : headers.add entry = .ok after := by
  unfold LocHeaders.add
  cases added with
  | other unregistered fits =>
      rw [unregistered]
      simp only [Extensions.push, if_pos fits]
  | captureTimestamp known number =>
      rw [known]
      refine Except.bind_eq_ok.mpr ⟨_, requireVarint_eq_ok.mpr number, ?_⟩
      simp only [CaptureTimestamp.ofMicros, dif_pos (CaptureTimestamp.inRange _)]
      rfl
  | videoFrameMarking known number =>
      rw [known]
      exact Except.bind_eq_ok.mpr ⟨_, requireVarint_eq_ok.mpr number, rfl⟩
  | audioLevel known number =>
      rw [known]
      exact Except.bind_eq_ok.mpr ⟨_, requireVarint_eq_ok.mpr number, rfl⟩
  | videoConfig known block =>
      rw [known]
      simp only [block]

/-! ## What the view holds -/

/-- The view holds, of each registered type, what the last entry says, and all the entries
of other types as they are. -/
structure Reflects (headers : LocHeaders) (entries : List (Nat × ExtensionValue)) : Prop where
  captureTimestamp : (LocType.captureTimestamp.last? entries).map (·.varint?) =
    headers.captureTimestamp.map (some ·.micros)
  videoFrameMarking : (LocType.videoFrameMarking.last? entries).map (·.varint?.map .ofBits) =
    headers.videoFrameMarking.map some
  audioLevel : (LocType.audioLevel.last? entries).map (·.varint?.map .ofBits) =
    headers.audioLevel.map some
  videoConfig : (LocType.videoConfig.last? entries).map (·.block?) = headers.videoConfig.map some
  other : headers.other.entries = entries.filter fun entry => (LocType.ofNat? entry.1).isNone

theorem Reflects.nil : Reflects {} [] := ⟨rfl, rfl, rfl, rfl, rfl⟩

/-- Headers that reflect some entries reflect one more when they have taken it in. -/
theorem Reflects.append (reflects : headers.Reflects entries)
    (added : Added headers entry after) : after.Reflects (entries ++ [entry]) := by
  have last (type : LocType) := LocType.last?_append type entries entry
  obtain ⟨captureTimestamp, videoFrameMarking, audioLevel, videoConfig, other⟩ := reflects
  -- An entry changes what is held of its own type only.
  cases added with
  | other unregistered fits =>
      constructor
      all_goals simp only [last, unregistered, reduceCtorEq, if_false, List.filter_append]
      case other => simp [other, unregistered]
      all_goals assumption
  | captureTimestamp known number =>
      constructor
      all_goals
        simp only [last, known, Option.some.injEq, reduceCtorEq, if_false, List.filter_append]
      case captureTimestamp => simp [number]
      case other => simp [other, known]
      all_goals assumption
  | videoFrameMarking known number =>
      constructor
      all_goals
        simp only [last, known, Option.some.injEq, reduceCtorEq, if_false, List.filter_append]
      case videoFrameMarking => simp [number]
      case other => simp [other, known]
      all_goals assumption
  | audioLevel known number =>
      constructor
      all_goals
        simp only [last, known, Option.some.injEq, reduceCtorEq, if_false, List.filter_append]
      case audioLevel => simp [number]
      case other => simp [other, known]
      all_goals assumption
  | videoConfig known block =>
      constructor
      all_goals
        simp only [last, known, Option.some.injEq, reduceCtorEq, if_false, List.filter_append]
      case videoConfig => simp [block]
      case other => simp [other, known]
      all_goals assumption

/-! ## Views that are read as again -/

/-- The packed headers have no more than the bits that are kept, and the other extensions are
of types that are not registered, with values that suit them. -/
structure Canonical (headers : LocHeaders) : Prop where
  videoFrameMarking : ∀ {marking}, headers.videoFrameMarking = some marking →
    .ofBits marking.toBits = marking
  audioLevel : ∀ {audio}, headers.audioLevel = some audio → .ofBits audio.toBits = audio
  other : ∀ entry ∈ headers.other.entries,
    LocType.ofNat? entry.1 = none ∧ entry.2.fits entry.1 = true

theorem Canonical.empty : Canonical {} where
  videoFrameMarking := nofun
  audioLevel := nofun
  other := nofun

/-- Headers that are canonical stay so when they take in an entry. -/
theorem Canonical.append (canonical : headers.Canonical) (added : Added headers entry after) :
    after.Canonical := by
  cases added with
  | other unregistered fits =>
      refine { canonical with other := fun other member => ?_ }
      obtain before | here := List.mem_append.mp member
      · exact canonical.other other before
      · rw [List.mem_singleton.mp here]
        exact ⟨unregistered, fits⟩
  | captureTimestamp known number => exact { canonical with }
  | videoFrameMarking known number =>
      refine { canonical with videoFrameMarking := fun packed => ?_ }
      cases packed
      exact VideoFrameMarking.ofBits_toBits_ofBits _
  | audioLevel known number =>
      refine { canonical with audioLevel := fun packed => ?_ }
      cases packed
      exact AudioLevel.ofBits_toBits_ofBits _
  | videoConfig known block => exact { canonical with }

/-- From one extension to the next, the view reflects those taken in so far. -/
theorem reflects_foldlM {done : List (Nat × ExtensionValue)} (reflects : headers.Reflects done)
    (canonical : headers.Canonical) (read : entries.foldlM add headers = .ok after) :
    after.Reflects (done ++ entries) ∧ after.Canonical := by
  induction entries generalizing headers done with
  | nil =>
      cases read
      rw [List.append_nil]
      exact ⟨reflects, canonical⟩
  | cons entry entries ih =>
      rw [List.foldlM_cons] at read
      obtain ⟨middle, addedFirst, read⟩ := Except.bind_eq_ok.mp read
      have added := added_of_add addedFirst
      rw [List.append_cons]
      exact ih (reflects.append added) (canonical.append added) read

/-- Entries of other types are all kept, in their order. -/
theorem foldlM_other (headers : LocHeaders)
    (unknown : ∀ entry ∈ entries, LocType.ofNat? entry.1 = none ∧ entry.2.fits entry.1 = true) :
    entries.foldlM add headers =
      .ok { headers with other := ⟨headers.other.entries ++ entries⟩ } := by
  induction entries generalizing headers with
  | nil =>
      rw [List.append_nil]
      rfl
  | cons entry entries ih =>
      obtain ⟨unregistered, fits⟩ := unknown entry List.mem_cons_self
      rw [List.foldlM_cons, (Added.other unregistered fits).add]
      refine (ih _ fun other member => unknown other (List.mem_cons_of_mem _ member)).trans ?_
      simp

/-- A registered type, which is written if there is a value. -/
theorem foldlM_registered {α : Type} {type : LocType} {wrap : α → ExtensionValue}
    {value : Option α} (view : Option α → LocHeaders)
    (added : ∀ content, value = some content →
      Added (view none) (type.toNat, wrap content) (view (some content))) :
    ((value.map wrap).map fun value => (type.toNat, value)).toList.foldlM add (view none) =
      .ok (view value) := by
  cases value with
  | none => rfl
  | some content =>
      show List.foldlM add (view none) [(type.toNat, wrap content)] = _
      rw [List.foldlM_cons, (added content rfl).add]
      rfl

/-- Headers that are canonical are read back from the extensions that they are written to. -/
theorem Canonical.ofExtensions_toExtensions (canonical : headers.Canonical) :
    ofExtensions headers.toExtensions = .ok headers := by
  obtain ⟨timestamp, marking, audio, config, other⟩ := headers
  unfold ofExtensions toExtensions
  simp only [List.foldlM_append]
  -- From the last of what is written to the first.
  refine Except.bind_eq_ok.mpr ⟨⟨timestamp, marking, audio, config, {}⟩, ?_,
    foldlM_other _ canonical.other⟩
  refine Except.bind_eq_ok.mpr ⟨⟨timestamp, marking, audio, none, {}⟩, ?_,
    foldlM_registered (⟨timestamp, marking, audio, ·, {}⟩) fun _ _ => .videoConfig rfl rfl⟩
  refine Except.bind_eq_ok.mpr ⟨⟨timestamp, marking, none, none, {}⟩, ?_,
    foldlM_registered (⟨timestamp, marking, ·, none, {}⟩) fun packed isPacked => ?_⟩
  · refine Except.bind_eq_ok.mpr ⟨⟨timestamp, none, none, none, {}⟩, ?_,
      foldlM_registered (⟨timestamp, ·, none, none, {}⟩) fun packed isPacked => ?_⟩
    · exact foldlM_registered (⟨·, none, none, none, {}⟩) fun _ _ => .captureTimestamp rfl rfl
    · have same := canonical.videoFrameMarking isPacked
      suffices Added _ _ ⟨timestamp, some (.ofBits packed.toBits), none, none, {}⟩ by
        rwa [same] at this
      exact .videoFrameMarking rfl rfl
  · have same := canonical.audioLevel isPacked
    suffices Added _ _ ⟨timestamp, marking, some (.ofBits packed.toBits), none, {}⟩ by
      rwa [same] at this
    exact .audioLevel rfl rfl

/-- Only these are read back. -/
theorem ofExtensions_toExtensions_iff :
    ofExtensions headers.toExtensions = .ok headers ↔ headers.Canonical := by
  refine ⟨fun read => ?_, Canonical.ofExtensions_toExtensions⟩
  exact (reflects_foldlM .nil .empty read).2

/-- The view that is read of a view. -/
def reread (headers : LocHeaders) : Except DecodeError LocHeaders :=
  ofExtensions headers.toExtensions

/-- The view of extensions holds the last of each registered type and all the others in order,
and however often it is written as extensions and read again, it stays as it is. -/
theorem projection {extensions : Extensions} (read : ofExtensions extensions = .ok headers) :
    headers.Reflects extensions.entries ∧ ofExtensions headers.toExtensions = .ok headers ∧
      ∀ times, (· >>= reread)^[times] (ofExtensions extensions) = .ok headers := by
  obtain ⟨reflects, canonical⟩ := reflects_foldlM .nil .empty read
  have again := canonical.ofExtensions_toExtensions
  refine ⟨reflects, again, fun times => ?_⟩
  rw [read]
  exact Function.iterate_fixed again times

/-- Types that are there twice, numbers in more bytes than they need and with more bits than are
kept, and other types between them. -/
def mixed : Extensions where
  entries := [(4, .raw [0x44, 0x01]), (9, .block [1]), (2, .varint 5), (4, .varint 0x1ff),
    (8, .raw [0x40, 0x01]), (6, .varint 300), (2, .raw [0x40, 0x07]), (13, .block [7, 7]),
    (9, .block [])]

def mixedView : LocHeaders where
  captureTimestamp := some ⟨7, by decide⟩
  videoFrameMarking := some ⟨true, true, true, 7, 3⟩
  audioLevel := some ⟨false, 44⟩
  videoConfig := some [7, 7]
  other := ⟨[(9, .block [1]), (8, .raw [0x40, 0x01]), (9, .block [])]⟩

theorem projection_mixed : ofExtensions mixed = .ok mixedView ∧
    mixedView.Reflects mixed.entries ∧ ofExtensions mixedView.toExtensions = .ok mixedView ∧
      ∀ times, (· >>= reread)^[times] (ofExtensions mixed) = .ok mixedView := by
  have read : ofExtensions mixed = .ok mixedView := rfl
  exact ⟨read, projection read⟩

end LocHeaders

end MediaTransport
