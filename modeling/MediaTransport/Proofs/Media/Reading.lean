import MediaTransport.Media.Reading
import MediaTransport.Proofs.Action
import MediaTransport.Proofs.Media.Streaming

/-!
# Ways to read a stream

A stream of objects may be read in four ways.  Its type is read with the header or before
there is a reader, and its header with the first object or on its own.  The header is
remembered at different moments then, and from bytes that are cut differently.

* `StreamReader.Models.tryHeader_eq` and `tryNext_eq`: a call does what the decoder of the
  header or of the object says, and changes the reader only with a value.
* `every_way_reads_alike`: all four ways give the same objects and stop for the same reason,
  and a call that gives nothing may be made again.
-/

namespace MediaTransport

open Decoder

namespace StreamReader

variable {ρ η ι α : Type} {kind : StreamReader ρ η ι} {readHeader : ρ → Decoder (η × ρ)}
  {next : ρ → Decoder (Object × ρ)} {reader : ρ} {buffer : Bytes}

/-! ## One call -/

/-- The answer to a call, and the reader after it: only a value changes it. -/
def settle (reader : ρ) (buffer : Bytes) : Except DecodeError (Option ((α × ρ) × Bytes)) →
    EStateM.Result DecodeError ρ (Decoded α)
  | .ok none => .ok .needMore reader
  | .error error => .error error reader
  | .ok (some ((value, after), rest)) => .ok (.item value (buffer.length - rest.length)) after

variable {after : ρ} {found : Except DecodeError (Option ((α × ρ) × Bytes))}

theorem eq_of_settle_needMore (settled : settle reader buffer found = .ok .needMore after) :
    after = reader := by
  unfold settle at settled
  split at settled
  all_goals cases settled
  rfl

theorem eq_of_settle_error {error : DecodeError}
    (settled : settle reader buffer found = .error error after) : after = reader := by
  unfold settle at settled
  split at settled
  all_goals cases settled
  rfl

/-- What is not there, or is refused, ends the call, and otherwise the call goes on. -/
theorem settle_bind {β : Type} {decoder : Decoder β} {later : β → Decoder (α × ρ)}
    {bytes : Bytes} {next : Option (β × Bytes) → Call ρ (Decoded α)}
    (stops : next none = pure .needMore)
    (goes : ∀ value rest,
      next (some (value, rest)) reader = settle reader buffer ((later value).attempt rest)) :
    (MonadExcept.ofExcept (decoder.attempt bytes) >>= next) reader =
      settle reader buffer ((decoder >>= later).attempt bytes) := by
  obtain ⟨error, attempted⟩ | attempted | ⟨value, rest, attempted⟩ := attempt_cases decoder bytes
  · obtain ⟨refused, proper⟩ := attempt_eq_error.mp attempted
    rw [attempted, attempt_eq_error.mpr ⟨bind_error refused, proper⟩]
    rfl
  · rw [attempted, attempt_eq_none.mpr (bind_error (attempt_eq_none.mp attempted))]
    show next none reader = _
    rw [stops]
    rfl
  · rw [attempted]
    unfold attempt
    rw [bind_ok (attempt_eq_some.mp attempted)]
    exact goes value rest

/-- A call that gives no value changes nothing, and made again it gives the same answer. -/
structure Patient (call : Bytes → Call ρ (Decoded α)) : Prop where
  needMore : ∀ {buffer reader after}, call buffer reader = .ok .needMore after →
    after = reader ∧ call buffer after = .ok .needMore reader
  error : ∀ {buffer reader error after}, call buffer reader = .error error after →
    after = reader ∧ call buffer after = .error error reader

theorem Patient.of_settle {call : Bytes → Call ρ (Decoded α)} {read : ρ → Decoder (α × ρ)}
    (settles : ∀ buffer reader, call buffer reader = settle reader buffer
      ((read reader).attempt buffer)) : Patient call where
  needMore {buffer reader after} run := by
    have same := eq_of_settle_needMore ((settles buffer reader).symm.trans run)
    rw [same] at run ⊢
    exact ⟨rfl, run⟩
  error {buffer reader error after} run := by
    have same := eq_of_settle_error ((settles buffer reader).symm.trans run)
    rw [same] at run ⊢
    exact ⟨rfl, run⟩

/-- The kind reads what the decoders read of a header and of the next object, and readers that
are alike read the same of an object. -/
structure Models (kind : StreamReader ρ η ι) (alike : ρ → ρ → Prop)
    (readHeader : ρ → Decoder (η × ρ)) (next : ρ → Decoder (Object × ρ)) : Prop
    extends Headed readHeader next where
  readHeader_eq : ∀ reader, readHeader reader =
    (kind.opening reader >>= fun header => pure (header, kind.setHeader header reader))
  next_eq : ∀ reader, next reader = (kind.opening reader >>= fun header =>
    kind.decodeObject reader header >>= fun item =>
      pure (kind.object item, kind.setObject item (kind.setHeader header reader)))
  setHeader_known : ∀ {header reader}, kind.header reader = some header →
    kind.setHeader header reader = reader
  header_setHeader : ∀ header reader, kind.header (kind.setHeader header reader) = some header
  header_setObject : ∀ item reader, kind.header (kind.setObject item reader) = kind.header reader
  decodeObject_eq : ∀ {first second}, alike first second →
    kind.decodeObject first = kind.decodeObject second
  alike_setHeader : ∀ header reader, alike reader (kind.setHeader header reader)
  alike_object : ∀ {first second} header item, alike first second →
    alike (kind.setObject item (kind.setHeader header first))
      (kind.setObject item (kind.setHeader header second))

/-- What the ways to read a stream give: its type with the header or before there is a reader,
and its header with the first object or on its own. -/
def ways (kind : StreamReader ρ η ι) (untyped : ρ) (typed : (type : Nat) → ρ) (bytes : Bytes) :
    List (List Object × Option DecodeError) :=
  [(kind.readObjects untyped bytes).outcome,
    (kind.readBehindHeader untyped bytes).outcome,
    readBehindType (fun type => kind.readObjects (typed type)) bytes,
    readBehindType (fun type => kind.readBehindHeader (typed type)) bytes]

namespace Models

variable {alike : ρ → ρ → Prop}

/-- A call for the header does what the decoder of the header does, and changes the reader only
when it has come in full. -/
theorem tryHeader_eq (models : Models kind alike readHeader next) (buffer : Bytes) (reader : ρ) :
    kind.tryHeader buffer reader = settle reader buffer ((readHeader reader).attempt buffer) := by
  rw [models.readHeader_eq]
  unfold tryHeader opening
  rw [EStateM.get_bind]
  cases known : kind.header reader with
  | some header =>
      have same := models.setHeader_known known
      show EStateM.Result.ok (Decoded.item header 0) reader =
        .ok (Decoded.item header (buffer.length - buffer.length)) (kind.setHeader header reader)
      rw [same, Nat.sub_self]
  | none =>
      exact settle_bind rfl fun header rest => rfl

/-- A call for an object does what the decoder of the header and the object does, and changes the
reader only when all has come. -/
theorem tryNext_eq (models : Models kind alike readHeader next) (buffer : Bytes) (reader : ρ) :
    kind.tryNext buffer reader = settle reader buffer ((next reader).attempt buffer) := by
  rw [models.next_eq]
  unfold tryNext
  rw [EStateM.get_bind]
  refine settle_bind rfl fun header body => ?_
  exact settle_bind rfl fun item rest => rfl

/-! ## The calls over a buffer -/

/-- What a call says it has used is what lies before the rest. -/
theorem drop_used {rest buffer : Bytes} (suffix : rest <:+ buffer) :
    buffer.drop (buffer.length - rest.length) = rest :=
  (List.suffix_iff_eq_drop.mp suffix).symm

theorem readSteps_eq (models : Models kind alike readHeader next) (fuel : Nat) (reader : ρ)
    (buffer : Bytes) : kind.readSteps fuel reader buffer = drainSteps next fuel reader buffer := by
  induction fuel generalizing reader buffer with
  | zero => rfl
  | succ fuel ih =>
      unfold readSteps drainSteps
      rw [models.tryNext_eq]
      obtain ⟨error, attempted⟩ | attempted | ⟨⟨object, after⟩, rest, attempted⟩ :=
        attempt_cases (next reader) buffer
      · rw [attempted]
        rfl
      · rw [attempted]
        rfl
      · have suffix := (models.stepping.streaming reader).suffix (attempt_eq_some.mp attempted)
        rw [attempted]
        show (kind.readSteps fuel after (buffer.drop (buffer.length - rest.length))).push object = _
        rw [drop_used suffix, ih]

/-- Calling until there is no more is draining. -/
theorem readObjects_eq_drain (models : Models kind alike readHeader next) :
    kind.readObjects = drain next := by
  funext reader buffer
  exact models.readSteps_eq _ reader buffer

section Alike

variable {first second after : ρ} {left right rest : Bytes} {object : Object}

/-- Readers that are alike refuse alike. -/
theorem next_refused (models : Models kind alike readHeader next) (same : alike first second)
    (opens : kind.opening first left = kind.opening second right) {error : DecodeError}
    (refused : next first left = .error error) : next second right = .error error := by
  rw [models.next_eq] at refused ⊢
  cases opened : kind.opening first left with
  | error other =>
      rw [bind_error opened] at refused
      exact (bind_error (opens ▸ opened)).trans refused
  | ok item =>
      obtain ⟨header, body⟩ := item
      rw [bind_ok opened] at refused
      rw [bind_ok (opens ▸ opened), ← models.decodeObject_eq same]
      cases read : kind.decodeObject first header body with
      | error other =>
          rw [bind_error read] at refused
          exact (bind_error read).trans refused
      | ok item =>
          rw [bind_ok read] at refused
          cases refused

/-- Both remember the header then. -/
theorem next_taken (models : Models kind alike readHeader next) (same : alike first second)
    (opens : kind.opening first left = kind.opening second right)
    (taken : next first left = .ok ((object, after), rest)) :
    ∃ other, next second right = .ok ((object, other), rest) ∧ alike after other ∧
      kind.opening after = kind.opening other := by
  rw [models.next_eq] at taken
  obtain ⟨header, body, opened, taken⟩ := bind_eq_ok.mp taken
  obtain ⟨item, _, read, joined⟩ := bind_eq_ok.mp taken
  cases joined
  have remembers : ∀ reader, kind.opening
      (kind.setObject item (kind.setHeader header reader)) = pure header := by
    intro reader
    rw [opening, models.header_setObject, models.header_setHeader]
  refine ⟨kind.setObject item (kind.setHeader header second), ?_,
    models.alike_object header item same, (remembers first).trans (remembers second).symm⟩
  rw [models.next_eq, bind_ok (opens ▸ opened), ← models.decodeObject_eq same, bind_ok read]
  rfl

/-- Readers that are alike, with the same header in front of the same bytes, read the same
objects and stop for the same reason. -/
theorem outcome_eq (models : Models kind alike readHeader next) (same : alike first second)
    (opens : kind.opening first left = kind.opening second right) :
    (drain next first left).outcome = (drain next second right).outcome := by
  revert same opens
  refine drain_induction models.stepping
    (motive := fun first left drained => ∀ {second right}, alike first second →
      kind.opening first left = kind.opening second right →
      drained.outcome = (drain next second right).outcome)
    ?stop ?refuse ?take first left
  case stop =>
    intro first left attempted second right same opens
    have refused := models.next_refused same opens (attempt_eq_none.mp attempted)
    rw [drain_of_attempt_none (attempt_eq_none.mpr refused)]
    rfl
  case refuse =>
    intro first left error attempted second right same opens
    obtain ⟨refused, proper⟩ := attempt_eq_error.mp attempted
    have refused := models.next_refused same opens refused
    rw [drain_of_attempt_error (attempt_eq_error.mpr ⟨refused, proper⟩)]
    rfl
  case take =>
    intro first left object after rest attempted ih second right same opens
    obtain ⟨other, taken, alikeAfter, remembers⟩ :=
      models.next_taken same opens (attempt_eq_some.mp attempted)
    rw [drain_of_attempt_some models.stepping (attempt_eq_some.mpr taken)]
    have later := ih alikeAfter (congrFun remembers rest)
    exact congrArg (fun outcome : List Object × Option DecodeError =>
      (object :: outcome.1, outcome.2)) later

end Alike

/-- There is no object without a header. -/
theorem outcome_unopened (models : Models kind alike readHeader next) {error : DecodeError}
    (refused : kind.opening reader buffer = .error error) :
    (drain next reader buffer).outcome = ([], if error = .truncated then none else some error) := by
  have unread : next reader buffer = .error error := by
    rw [models.next_eq, bind_error refused]
  split
  · next cut =>
    subst cut
    rw [drain_of_attempt_none (attempt_eq_none.mpr unread)]
    rfl
  · next proper =>
    rw [drain_of_attempt_error (attempt_eq_error.mpr ⟨unread, proper⟩)]
    rfl

/-- The header on its own, or with the first object. -/
theorem readBehindHeader_outcome (models : Models kind alike readHeader next) (reader : ρ)
    (buffer : Bytes) :
    (kind.readBehindHeader reader buffer).outcome = (drain next reader buffer).outcome := by
  unfold readBehindHeader
  rw [models.tryHeader_eq]
  cases opens : kind.opening reader buffer with
  | error error =>
      have unread : readHeader reader buffer = .error error := by
        rw [models.readHeader_eq, bind_error opens]
      rw [models.outcome_unopened opens]
      by_cases cut : error = .truncated
      · subst cut
        rw [attempt_eq_none.mpr unread]
        rfl
      · rw [attempt_eq_error.mpr ⟨unread, cut⟩, if_neg cut]
        rfl
  | ok item =>
      obtain ⟨header, body⟩ := item
      have read : readHeader reader buffer =
          .ok ((header, kind.setHeader header reader), body) := by
        rw [models.readHeader_eq, bind_ok opens]
        rfl
      have suffix := (models.streaming reader).suffix read
      rw [attempt_eq_some.mpr read]
      show (kind.readObjects _ (buffer.drop (buffer.length - body.length))).outcome = _
      rw [drop_used suffix, models.readObjects_eq_drain]
      refine (models.outcome_eq (models.alike_setHeader header reader) ?_).symm
      rw [opens, opening, models.header_setHeader]
      rfl

/-- The type before there is a reader, or with the header. -/
theorem readBehindType_eq (models : Models kind alike readHeader next)
    {headerOf : (type : Nat) → Decoder η} {read : (type : Nat) → Bytes → Drained ρ Object}
    (typed : kind.opening reader = (Varint.decode >>= headerOf))
    (reads : ∀ type rest, Varint.decode buffer = .ok (type, rest) →
      (read type rest).outcome = (drain next reader buffer).outcome) :
    readBehindType read buffer = (drain next reader buffer).outcome := by
  unfold readBehindType
  obtain ⟨error, attempted⟩ | attempted | ⟨type, rest, attempted⟩ :=
    attempt_cases Varint.decode buffer
  · obtain ⟨refused, proper⟩ := attempt_eq_error.mp attempted
    rw [attempted, models.outcome_unopened (typed ▸ bind_error refused), if_neg proper]
  · have cut := attempt_eq_none.mp attempted
    rw [attempted, models.outcome_unopened (typed ▸ bind_error cut), if_pos rfl]
  · rw [attempted]
    exact reads type rest (attempt_eq_some.mp attempted)

/-- All the ways give what a reader gives that reads the type with the header, if a reader that
is handed the type goes on as that one does. -/
theorem ways_agree (models : Models kind alike readHeader next) {typed : (type : Nat) → ρ}
    {headerOf : (type : Nat) → Decoder η}
    (opens : kind.opening reader = (Varint.decode >>= headerOf))
    (goesOn : ∀ type rest, Varint.decode buffer = .ok (type, rest) →
      alike (typed type) reader ∧ kind.opening (typed type) rest = headerOf type rest) :
    ∀ outcome ∈ kind.ways reader typed buffer, outcome = (drain next reader buffer).outcome := by
  have same : ∀ type rest, Varint.decode buffer = .ok (type, rest) →
      (drain next (typed type) rest).outcome = (drain next reader buffer).outcome := by
    intro type rest read
    obtain ⟨same, header⟩ := goesOn type rest read
    refine models.outcome_eq same ?_
    rw [header, opens, bind_ok read]
  simp only [ways, List.forall_mem_cons, models.readObjects_eq_drain]
  refine ⟨trivial, models.readBehindHeader_outcome reader buffer, ?_, ?_, nofun⟩
  · exact models.readBehindType_eq opens same
  · refine models.readBehindType_eq opens fun type rest read => ?_
    exact (models.readBehindHeader_outcome _ rest).trans (same type rest read)

end Models

end StreamReader

/-! ## Subgroups and fetches -/

namespace SubgroupReader

/-- What the reader remembers of the objects, and how it reads their extensions, is the same. -/
def Alike (first second : SubgroupReader) : Prop :=
  first.policy = second.policy ∧ first.firstObject = second.firstObject ∧
    first.lastObject = second.lastObject

theorem decodeObject_eq_of_alike {first second : SubgroupReader} (same : first.Alike second) :
    first.decodeObject = second.decodeObject := by
  obtain ⟨type, policy, header, firstObject, lastObject⟩ := first
  obtain ⟨_, _, _, _, _⟩ := second
  obtain ⟨rfl, rfl, rfl⟩ := same
  rfl

/-- The header of a subgroup is read once and kept. -/
theorem readHeader_eq (reader : SubgroupReader) : reader.readHeader = (calls.opening reader >>=
    fun header => pure (header, calls.setHeader header reader)) := by
  obtain ⟨type, policy, header | header, firstObject, lastObject⟩ := reader
  · rfl
  · rfl

theorem models : calls.Models Alike readHeader next where
  toHeaded := headed
  readHeader_eq := readHeader_eq
  next_eq reader := by
    unfold next
    rw [readHeader_eq]
    simp only [bind_assoc, pure_bind]
    rfl
  setHeader_known {header reader} known := by
    obtain ⟨type, policy, _, firstObject, lastObject⟩ := reader
    cases known
    rfl
  header_setHeader _ _ := rfl
  header_setObject _ _ := rfl
  decodeObject_eq := decodeObject_eq_of_alike
  alike_setHeader _ _ := ⟨rfl, rfl, rfl⟩
  alike_object header object same := by
    obtain ⟨policy, firstObject, _⟩ := same
    refine ⟨policy, ?_, rfl⟩
    exact congrArg (fun id : Option Nat => some (id.getD object.objectId)) firstObject

end SubgroupReader

namespace FetchReader

/-- What the reader remembers of the objects, and how it reads their extensions, is the same. -/
def Alike (first second : FetchReader) : Prop :=
  first.policy = second.policy ∧ first.prior = second.prior

theorem decodeObject_eq_of_alike {first second : FetchReader} (same : first.Alike second) :
    first.decodeObject = second.decodeObject := by
  obtain ⟨expectsType, policy, requestId, prior⟩ := first
  obtain ⟨_, _, _, _⟩ := second
  obtain ⟨rfl, rfl⟩ := same
  rfl

/-- So is the header of a fetch. -/
theorem readHeader_eq (reader : FetchReader) : reader.readHeader = (calls.opening reader >>=
    fun requestId => pure (requestId, calls.setHeader requestId reader)) := by
  obtain ⟨_ | _, policy, requestId | requestId, prior⟩ := reader
  · rfl
  · rfl
  · rfl
  · rfl

theorem models : calls.Models Alike readHeader next where
  toHeaded := headed
  readHeader_eq := readHeader_eq
  next_eq reader := by
    unfold next
    rw [readHeader_eq]
    simp only [bind_assoc, pure_bind]
    rfl
  setHeader_known {requestId reader} known := by
    obtain ⟨expectsType, policy, _, prior⟩ := reader
    cases known
    rfl
  header_setHeader _ _ := rfl
  header_setObject _ _ := rfl
  decodeObject_eq same := congrArg (fun decode _ => decode) (decodeObject_eq_of_alike same)
  alike_setHeader _ _ := ⟨rfl, rfl⟩
  alike_object _ _ same := ⟨same.1, rfl⟩

end FetchReader

/-! ## The ways to read a stream -/

def SubgroupReader.ways (policy : ExtensionPolicy) (bytes : Bytes) :
    List (List Object × Option DecodeError) :=
  calls.ways { policy } (fun type => { streamType := some type, policy }) bytes

def FetchReader.ways (policy : ExtensionPolicy) (bytes : Bytes) :
    List (List Object × Option DecodeError) :=
  calls.ways { expectsType := true, policy } (fun _ => { expectsType := false, policy }) bytes

/-- All ways of reading a subgroup stream give what draining it gives. -/
theorem SubgroupReader.ways_agree (policy : ExtensionPolicy) (bytes : Bytes) :
    ∀ outcome ∈ ways policy bytes, outcome = (drain { policy } bytes).outcome := by
  have opens : calls.opening { policy } = (Varint.decode >>= SubgroupHeader.decodeBody) := rfl
  exact models.ways_agree opens fun type rest _ => ⟨⟨rfl, rfl, rfl⟩, rfl⟩

/-- All ways of reading a fetch stream do, if it is one. -/
theorem FetchReader.ways_agree (policy : ExtensionPolicy) {bytes : Bytes}
    (typed : ∀ type rest, Varint.decode bytes = .ok (type, rest) → type = fetchStreamType) :
    ∀ outcome ∈ ways policy bytes,
      outcome = (drain { expectsType := true, policy } bytes).outcome := by
  have opens : calls.opening { expectsType := true, policy } = (Varint.decode >>= fun type =>
      if type = fetchStreamType then Varint.decode else Decoder.fail .invalidValue) := rfl
  refine models.ways_agree opens fun type rest read => ⟨⟨rfl, rfl⟩, ?_⟩
  rw [if_pos (typed type rest read)]
  rfl

/-- All the ways to read a stream give the same objects and then the same error, or ask for
more bytes.  For a fetch the bytes begin with its stream type, as far as they go. -/
theorem every_way_reads_alike (policy : ExtensionPolicy) (bytes : Bytes) :
    (∀ outcome ∈ SubgroupReader.ways policy bytes,
      outcome = (SubgroupReader.drain { policy } bytes).outcome) ∧
    ((∀ type rest, Varint.decode bytes = .ok (type, rest) → type = fetchStreamType) →
      ∀ outcome ∈ FetchReader.ways policy bytes,
        outcome = (FetchReader.drain { expectsType := true, policy } bytes).outcome) ∧
    StreamReader.Patient SubgroupReader.calls.tryHeader ∧
    StreamReader.Patient SubgroupReader.calls.tryNext ∧
    StreamReader.Patient FetchReader.calls.tryHeader ∧
    StreamReader.Patient FetchReader.calls.tryNext :=
  ⟨SubgroupReader.ways_agree policy bytes, FetchReader.ways_agree policy,
    .of_settle SubgroupReader.models.tryHeader_eq, .of_settle SubgroupReader.models.tryNext_eq,
    .of_settle FetchReader.models.tryHeader_eq, .of_settle FetchReader.models.tryNext_eq⟩

/-- A fetch stream with one object and the flags of another. -/
theorem every_way_reads_alike_fetch :
    (∀ type rest, Varint.decode [5, 7, 28, 3, 4, 128, 1, 97, 0] = .ok (type, rest) →
      type = fetchStreamType) ∧
    ∀ outcome ∈ FetchReader.ways .preserve [5, 7, 28, 3, 4, 128, 1, 97, 0],
      outcome =
        ([{ groupId := 3, objectId := 4, priority := some 128, payload := [97] }], none) := by
  have typed : ∀ type rest, Varint.decode [5, 7, 28, 3, 4, 128, 1, 97, 0] = .ok (type, rest) →
      type = fetchStreamType := by
    intro type rest read
    cases read
    rfl
  refine ⟨typed, fun outcome way => ?_⟩
  rw [(every_way_reads_alike .preserve _).2.1 typed outcome way]
  decide

end MediaTransport
