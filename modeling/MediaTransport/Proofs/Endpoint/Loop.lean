import MediaTransport.Proofs.Endpoint.Fatal
import MediaTransport.Proofs.Endpoint.Loss
import MediaTransport.Proofs.Endpoint.Progress
import Mathlib.Algebra.Order.BigOperators.Group.List

/-!
# The loop over a stream

`Endpoint.drain` takes all that is there of a stream at once, and deals with it then.  An endpoint
that works in turns takes one item, deals with it, and looks for the next; it need not know how
many there are, and whether it stops is a question.

`Endpoint.Loop` is that loop, turn by turn, and `Endpoint.Drains` has the header of the stream
before it.  `Endpoint.progresses`: the loop stops for every stream and every endpoint, it comes to
what `drain` answers and to nothing else, it takes at most half as many items as there are bytes,
and what it does not take of the bytes it leaves.  Each turn leads to the next by
`Endpoint.drain_eq_turn`.

`Endpoint.Feeds` is the same for a stream that arrives in chunks, where what one drain leaves is in
front of what comes next.
-/

namespace MediaTransport

open Decoder

namespace Decoder

/-- An attempt whose value is only wrapped. -/
theorem attempt_wrap {α β : Type} (decoder : Decoder α) (wrap : α → β) (bytes : Bytes) :
    (decoder >>= fun value => pure (wrap value)).attempt bytes =
      (decoder.attempt bytes).map (Option.map fun taken => (wrap taken.1, taken.2)) := by
  unfold attempt
  cases read : decoder bytes with
  | ok item =>
      rw [bind_ok read]
      rfl
  | error error =>
      rw [bind_error read]
      cases error <;> rfl

end Decoder

namespace Message

variable {skipUnknown : Bool} {bytes rest : Bytes} {message : Message} {error : DecodeError}

/-- Without a whole frame nothing is drained. -/
theorem drain_of_attempt_none (attempted : (decode skipUnknown).attempt bytes = .ok none) :
    drain skipUnknown bytes = .nothing () bytes none := by
  refine Decoder.drain_of_attempt_none ?_
  rw [attempt_wrap, attempt_decodeSized_eq_none.mpr attempted]
  rfl

theorem drain_of_attempt_error (attempted : (decode skipUnknown).attempt bytes = .error error) :
    drain skipUnknown bytes = .nothing () bytes (some error) := by
  refine Decoder.drain_of_attempt_error ?_
  rw [attempt_wrap, attempt_decodeSized_eq_error.mpr attempted]
  rfl

/-- A whole frame is the first item, and the rest is drained after it. -/
theorem drain_of_attempt_some
    (attempted : (decode skipUnknown).attempt bytes = .ok (some (message, rest))) :
    drain skipUnknown bytes =
      (drain skipUnknown rest).push (message, bytes.length - rest.length) := by
  refine Decoder.drain_of_attempt_some (drain_stepping skipUnknown) ?_
  rw [attempt_wrap, attempt_decodeSized_eq_some.mpr ⟨attempted, rfl⟩]
  rfl

end Message

/-! ## Turns -/

/-- What stands at the front of a stream. -/
inductive StreamItem where
  | frame (message : Message)
  | subgroupObject (object : Object)
  | fetchObject (requestId : Option Nat) (object : Object)

/-- What comes of an item: a message is applied to the session, and an object is told of. -/
def StreamItem.settle : StreamItem → Endpoint.Action (List Event)
  | .frame message => Endpoint.onSession (Endpoint.applyMessages [message])
  | .subgroupObject object => do return ((← get).subgroupEvent? object).toList
  | .fetchObject requestId object => return [.object requestId object]

/-- An item leaves the configuration. -/
theorem StreamItem.config_of_settle {item : StreamItem} {endpoint after : Endpoint}
    {events : List Event} (settled : item.settle endpoint = .ok events after) :
    after.session.config = endpoint.session.config := by
  cases item with
  | frame message =>
      rw [settle, Endpoint.onSession] at settled
      split at settled
      · next applied =>
        cases settled
        exact (Endpoint.applyMessages_keeps applied).1
      · cases settled
  | subgroupObject object | fetchObject requestId object =>
      cases settled
      rfl

namespace StreamDecoder

/-- Reads the header of a stream of objects, which takes no bytes if it was read before. -/
def opening : StreamDecoder → Decoder StreamDecoder
  | .subgroup reader => do return .subgroup (← reader.readHeader).2
  | .fetch reader => do return .fetch (← reader.readHeader).2
  | decoder => return decoder

/-- Reads the next item.  A stream that has no type yet, or has failed, has none. -/
def next (skipUnknown : Bool) : StreamDecoder → Decoder (StreamItem × StreamDecoder)
  | .undetermined | .failed => Decoder.fail .truncated
  | .control => do return (.frame (← Message.decode skipUnknown), .control)
  | .subgroup reader => do
    let taken ← reader.next
    return (.subgroupObject taken.1, .subgroup taken.2)
  | .fetch reader => do
    let taken ← reader.next
    return (.fetchObject taken.2.requestId taken.1, .fetch taken.2)

/-- The header, if there is one, has been read. -/
def IsOpen : StreamDecoder → Prop
  | .subgroup reader => ∃ header, reader.header = some header
  | .fetch reader => ∃ requestId, reader.requestId = some requestId
  | _ => True

theorem next_streaming (skipUnknown : Bool) (decoder : StreamDecoder) :
    (decoder.next skipUnknown).Streaming := by
  cases decoder with
  | undetermined => exact .fail _
  | control => exact (Message.decode_streaming skipUnknown).bind fun _ => .pure _
  | subgroup reader => exact (SubgroupReader.next_stepping.streaming reader).bind fun _ => .pure _
  | fetch reader => exact (FetchReader.next_stepping.streaming reader).bind fun _ => .pure _
  | failed => exact .fail _

/-- Every item takes at least two bytes. -/
theorem next_spends (skipUnknown : Bool) (decoder : StreamDecoder) :
    (decoder.next skipUnknown).Spends 2 := by
  cases decoder with
  | undetermined => exact .fail _
  | control => exact (Message.decode_spends skipUnknown).bind fun _ => .pure _
  | subgroup reader => exact reader.next_spends.bind fun _ => .pure _
  | fetch reader => exact reader.next_spends.bind fun _ => .pure _
  | failed => exact .fail _

/-- A reader that has taken an item knows its header. -/
theorem isOpen_of_next {skipUnknown : Bool} {decoder after : StreamDecoder} {bytes rest : Bytes}
    {item : StreamItem} (read : decoder.next skipUnknown bytes = .ok ((item, after), rest)) :
    after.IsOpen := by
  cases decoder with
  | undetermined | failed => cases read
  | control =>
      obtain ⟨_, _, _, joined⟩ := bind_eq_ok.mp read
      cases joined
      trivial
  | subgroup reader =>
      obtain ⟨_, _, readObject, joined⟩ := bind_eq_ok.mp read
      cases joined
      obtain ⟨header, _, _, readHeader, _, same⟩ := SubgroupReader.next_eq_ok readObject
      refine ⟨header, ?_⟩
      rw [same, SubgroupReader.eq_of_readHeader readHeader]
  | fetch reader =>
      obtain ⟨_, _, readObject, joined⟩ := bind_eq_ok.mp read
      cases joined
      obtain ⟨requestId, _, _, _, readHeader, _, same⟩ := FetchReader.next_eq_ok readObject
      refine ⟨requestId, ?_⟩
      rw [same, FetchReader.eq_of_readHeader readHeader]

/-- Once its header is read a stream is open. -/
theorem isOpen_of_opening {decoder opened : StreamDecoder} {bytes rest : Bytes}
    (read : decoder.opening bytes = .ok (opened, rest)) : opened.IsOpen := by
  cases decoder with
  | undetermined | control | failed =>
      cases read
      trivial
  | subgroup reader =>
      obtain ⟨⟨header, _⟩, _, readHeader, joined⟩ := bind_eq_ok.mp read
      cases joined
      exact ⟨header, by rw [SubgroupReader.eq_of_readHeader readHeader]⟩
  | fetch reader =>
      obtain ⟨⟨requestId, _⟩, _, readHeader, joined⟩ := bind_eq_ok.mp read
      cases joined
      exact ⟨requestId, by rw [FetchReader.eq_of_readHeader readHeader]⟩

theorem opening_streaming (decoder : StreamDecoder) : decoder.opening.Streaming := by
  cases decoder with
  | undetermined | control | failed => exact .pure _
  | subgroup reader => exact reader.readHeader_streaming.bind fun _ => .pure _
  | fetch reader => exact reader.readHeader_streaming.bind fun _ => .pure _

end StreamDecoder

namespace Endpoint

/-- A control stream that does not decode takes the session with it. -/
def breakOff (endpoint : Endpoint) : StreamDecoder → Endpoint
  | .control => { endpoint with session := endpoint.session.close }
  | _ => endpoint

/-! ## A turn of draining -/

section Objects

variable {σ η : Type} {readHeader : σ → Decoder (η × σ)} {next : σ → Decoder (Object × σ)}
  {wrap : σ → StreamDecoder} {give : η → Endpoint → List Object → List Event}

/-- Once the header is known, an object is taken and told of, and the objects after it then. -/
theorem drainObjects_eq_turn (headed : Headed readHeader next)
    (gives_nil : ∀ header endpoint, give header endpoint [] = [])
    (gives : ∀ header endpoint first later, give header endpoint (first ++ later) =
      give header endpoint first ++ give header endpoint later)
    {header : η} {reader : σ} (remembers : Remembers readHeader header reader) (bytes : Bytes)
    (endpoint : Endpoint) :
    drainObjects readHeader next wrap give reader ⟨bytes⟩ endpoint =
      match (next reader).attempt bytes with
      | .ok none => .ok ([], { buffer := ⟨bytes⟩, decoder := wrap reader }) endpoint
      | .error error => .error (.decode error) endpoint
      | .ok (some ((object, after), rest)) =>
        (prepend (give header endpoint [object]) <$>
          drainObjects readHeader next wrap give after ⟨rest⟩) endpoint := by
  -- Both drains ask for the header again, and a reader that remembers it gives it for no bytes.
  have known : ∀ {reader}, Remembers readHeader header reader → ∀ bytes,
      (readHeader reader).attempt bytes = .ok (some ((header, reader), bytes)) :=
    fun remembers bytes => attempt_eq_some.mpr (remembers bytes)
  obtain ⟨error, attempted⟩ | attempted | ⟨⟨object, after⟩, rest, attempted⟩ :=
    attempt_cases (next reader) bytes
  · have drained := drain_of_attempt_error attempted
    rw [attempted, drainObjects_of_failure endpoint (known remembers bytes) (by rw [drained]; rfl)]
  · have drained := drain_of_attempt_none attempted
    rw [attempted, drainObjects_of_some endpoint (known remembers bytes) (by rw [drained]; rfl),
      drained]
    exact congrArg (fun events => EStateM.Result.ok (events, _) endpoint)
      (gives_nil header endpoint)
  · have drained := drain_of_attempt_some headed.stepping attempted
    have still := headed.keeps (attempt_eq_some.mp attempted) remembers
    rw [attempted]
    dsimp only
    -- An object that does not decode takes the events of those before it with it.
    cases failed : (Decoder.drain next after rest).failure with
    | some error =>
        rw [drainObjects_of_failure endpoint (known remembers bytes)
            (by rw [drained]; exact failed),
          EStateM.map_error _ (drainObjects_of_failure endpoint (known still rest) failed)]
    | none =>
        rw [drainObjects_of_some endpoint (known remembers bytes) (by rw [drained]; exact failed),
          EStateM.map_ok _ (drainObjects_of_some endpoint (known still rest) failed), drained]
        have told := gives header endpoint [object] (Decoder.drain next after rest).items
        exact congrArg (fun events => EStateM.Result.ok (events, _) endpoint) told

/-- The header is read first.  Draining what is behind it finds the header remembered. -/
theorem drain_eq_opening_of_objects (headed : Headed readHeader next)
    (dispatch : ∀ reader buffer, drain { buffer, decoder := wrap reader } =
      drainObjects readHeader next wrap give reader buffer)
    (reader : σ) (bytes : Bytes) (endpoint : Endpoint) :
    drain { buffer := ⟨bytes⟩, decoder := wrap reader } endpoint =
      match (do return wrap (← readHeader reader).2 : Decoder StreamDecoder).attempt bytes with
      | .ok none => .ok ([], { buffer := ⟨bytes⟩, decoder := wrap reader }) endpoint
      | .error error => .error (.decode error) endpoint
      | .ok (some (opened, rest)) => drain { buffer := ⟨rest⟩, decoder := opened } endpoint := by
  rw [attempt_wrap, dispatch]
  obtain ⟨error, attempted⟩ | attempted | ⟨⟨header, opened⟩, rest, attempted⟩ :=
    attempt_cases (readHeader reader) bytes
  · rw [drainObjects_of_error endpoint attempted, attempted]
    rfl
  · rw [drainObjects_of_none endpoint attempted, attempted]
    rfl
  · have known := headed.remembers (attempt_eq_some.mp attempted) rest
    rw [attempted]
    dsimp only [Except.map, Option.map]
    rw [dispatch, drainObjects, drainObjects, attempted, attempt_eq_some.mpr known]

end Objects

variable {skipUnknown : Bool} {endpoint : Endpoint} {bytes : Bytes}

/-- What draining a stream comes to, if its first turn is as given. -/
def turn (skipUnknown : Bool) (stream : IncomingStream) :
    Action (List Event × IncomingStream) := fun endpoint =>
  match (stream.decoder.next skipUnknown).attempt stream.buffer.bytes with
  | .ok none => .ok ([], stream) endpoint
  | .error error => .error (.decode error) (endpoint.breakOff stream.decoder)
  | .ok (some ((item, after), rest)) =>
    (do
      let own ← item.settle
      prepend own <$> drain { buffer := ⟨rest⟩, decoder := after } : Action _) endpoint

/-- A subgroup stream behind its header is drained turn by turn. -/
theorem drain_subgroup_eq_turn {reader : SubgroupReader} {header : SubgroupHeader}
    (known : reader.header = some header) :
    drain { buffer := ⟨bytes⟩, decoder := .subgroup reader } endpoint =
      turn skipUnknown { buffer := ⟨bytes⟩, decoder := .subgroup reader } endpoint := by
  unfold turn StreamDecoder.next
  rw [attempt_wrap, drain_subgroup, drainObjects_eq_turn SubgroupReader.headed (fun _ _ => rfl)
    (fun _ _ _ _ => List.filterMap_append) (SubgroupReader.remembers_iff.mpr known)]
  obtain ⟨error, attempted⟩ | attempted | ⟨⟨object, after⟩, rest, attempted⟩ :=
    attempt_cases reader.next bytes
  · rw [attempted]
    rfl
  · rw [attempted]
    rfl
  · rw [attempted]
    have told : [object].filterMap endpoint.subgroupEvent? =
        (endpoint.subgroupEvent? object).toList := by
      cases told : endpoint.subgroupEvent? object <;> simp [told]
    dsimp only [Except.map, Option.map]
    rw [told, ← drain_subgroup]
    rfl

/-- So is a fetch stream. -/
theorem drain_fetch_eq_turn {reader : FetchReader} {requestId : Nat}
    (known : reader.requestId = some requestId) :
    drain { buffer := ⟨bytes⟩, decoder := .fetch reader } endpoint =
      turn skipUnknown { buffer := ⟨bytes⟩, decoder := .fetch reader } endpoint := by
  have remembers := FetchReader.remembers_iff.mpr known
  unfold turn StreamDecoder.next
  rw [attempt_wrap, drain_fetch, drainObjects_eq_turn FetchReader.headed (fun _ _ => rfl)
    (fun _ _ _ _ => List.map_append) remembers]
  obtain ⟨error, attempted⟩ | attempted | ⟨⟨object, after⟩, rest, attempted⟩ :=
    attempt_cases reader.next bytes
  · rw [attempted]
    rfl
  · rw [attempted]
    rfl
  · have still := FetchReader.remembers_iff.mp
      (FetchReader.headed.keeps (attempt_eq_some.mp attempted) remembers)
    rw [attempted]
    dsimp only [Except.map, Option.map]
    rw [still, ← drain_fetch]
    rfl

/-- So is the control stream, whose frames may be fatal. -/
theorem drain_control_eq_turn
    (skips : endpoint.session.config.skipUnknownMessages = skipUnknown) :
    drain { buffer := ⟨bytes⟩, decoder := .control } endpoint =
      turn skipUnknown { buffer := ⟨bytes⟩, decoder := .control } endpoint := by
  unfold turn StreamDecoder.next
  rw [attempt_wrap, drain_control, drainControl_eq, skips]
  obtain ⟨error, attempted⟩ | attempted | ⟨message, rest, attempted⟩ :=
    attempt_cases (Message.decode skipUnknown) bytes
  · rw [attempted, Message.drain_of_attempt_error attempted]
    rfl
  · rw [attempted, Message.drain_of_attempt_none attempted]
    rfl
  · rw [attempted, Message.drain_of_attempt_some attempted]
    dsimp only [Except.map, Option.map]
    cases applied : applyMessages [message] endpoint.session with
    | error error session =>
        have refused : StreamItem.settle (.frame message) endpoint =
            .error error { endpoint with session } := by
          rw [StreamItem.settle, onSession, applied]
        rw [EStateM.bind_error refused]
        exact applyFrames_of_error (applyMessages_append_of_error applied _)
    | ok own session =>
        have settled : StreamItem.settle (.frame message) endpoint =
            .ok own { endpoint with session } := by
          rw [StreamItem.settle, onSession, applied]
        have config : session.config = endpoint.session.config := (applyMessages_keeps applied).1
        -- The next turn asks the session again whether to skip unknown messages.
        have first : applyMessages ([(message, bytes.length - rest.length)].map (·.1))
            endpoint.session = .ok own session := applied
        rw [EStateM.bind_ok settled]
        refine (applyFrames_prepend first _).trans (EStateM.map_congr _ ?_)
        rw [drain_control, drainControl_eq]
        dsimp only
        rw [config, skips]

/-- Draining a stream whose header is known takes one turn, and then drains what is left. -/
theorem drain_eq_turn {stream : IncomingStream} (isOpen : stream.decoder.IsOpen)
    (skips : endpoint.session.config.skipUnknownMessages = skipUnknown) :
    drain stream endpoint = turn skipUnknown stream endpoint := by
  obtain ⟨⟨bytes⟩, decoder⟩ := stream
  cases decoder with
  | undetermined | failed => rfl
  | control => exact drain_control_eq_turn skips
  | subgroup reader =>
      obtain ⟨header, known⟩ := isOpen
      exact drain_subgroup_eq_turn known
  | fetch reader =>
      obtain ⟨requestId, known⟩ := isOpen
      exact drain_fetch_eq_turn known

/-! ## The loop -/

/-- The loop over a stream whose header is known, from the events that it has come to so far.
`pieces` are the bytes of the items that it takes, one for each turn but the last. -/
inductive Loop (skipUnknown : Bool) : IncomingStream → List Event → Endpoint → List Bytes →
    EStateM.Result SessionError Endpoint (List Event × IncomingStream) → Prop
  /-- No item is there in full. -/
  | waits {stream : IncomingStream} {events : List Event} {endpoint : Endpoint} :
    (stream.decoder.next skipUnknown).attempt stream.buffer.bytes = .ok none →
    Loop skipUnknown stream events endpoint [] (.ok (events, stream) endpoint)
  /-- What is there is no item. -/
  | refuses {stream : IncomingStream} {events : List Event} {endpoint : Endpoint}
    {error : DecodeError} :
    (stream.decoder.next skipUnknown).attempt stream.buffer.bytes = .error error →
    Loop skipUnknown stream events endpoint []
      (.error (.decode error) (endpoint.breakOff stream.decoder))
  /-- An item is taken, and it is fatal. -/
  | fails {decoder next : StreamDecoder} {piece rest : Bytes} {item : StreamItem}
    {events : List Event} {endpoint after : Endpoint} {error : SessionError} :
    (decoder.next skipUnknown).attempt (piece ++ rest) = .ok (some ((item, next), rest)) →
    item.settle endpoint = .error error after →
    Loop skipUnknown { buffer := ⟨piece ++ rest⟩, decoder } events endpoint [piece]
      (.error error after)
  /-- An item is taken and dealt with, and the loop goes on. -/
  | turns {decoder next : StreamDecoder} {piece rest : Bytes} {item : StreamItem}
    {events own : List Event} {endpoint between : Endpoint} {pieces : List Bytes}
    {result : EStateM.Result SessionError Endpoint (List Event × IncomingStream)} :
    (decoder.next skipUnknown).attempt (piece ++ rest) = .ok (some ((item, next), rest)) →
    item.settle endpoint = .ok own between →
    Loop skipUnknown { buffer := ⟨rest⟩, decoder := next } (events ++ own) between pieces result →
    Loop skipUnknown { buffer := ⟨piece ++ rest⟩, decoder } events endpoint (piece :: pieces) result

namespace Loop

variable {stream left : IncomingStream} {events all : List Event} {after : Endpoint}
  {pieces : List Bytes}
  {result : EStateM.Result SessionError Endpoint (List Event × IncomingStream)}

/-- An item takes at least two bytes. -/
theorem two_le (loop : Loop skipUnknown stream events endpoint pieces result) :
    ∀ piece ∈ pieces, 2 ≤ piece.length := by
  have spent : ∀ {decoder next : StreamDecoder} {piece rest : Bytes} {item : StreamItem},
      (decoder.next skipUnknown).attempt (piece ++ rest) = .ok (some ((item, next), rest)) →
      2 ≤ piece.length := by
    intro decoder next piece rest item attempted
    have spent := decoder.next_spends skipUnknown (attempt_eq_some.mp attempted)
    rw [List.length_append] at spent
    omega
  induction loop with
  | waits | refuses => exact nofun
  | fails attempted _ => exact List.forall_mem_singleton.mpr (spent attempted)
  | turns attempted _ _ ih => exact List.forall_mem_cons.mpr ⟨spent attempted, ih⟩

/-- The items stand one after the other in front of the bytes. -/
theorem flatten_prefix (loop : Loop skipUnknown stream events endpoint pieces result) :
    pieces.flatten <+: stream.buffer.bytes := by
  induction loop with
  | waits | refuses => exact List.nil_prefix
  | fails _ _ =>
      rw [List.flatten_singleton]
      exact List.prefix_append _ _
  | turns _ _ _ ih =>
      rw [List.flatten_cons]
      exact (List.prefix_append_right_inj _).mpr ih

/-- What the items do not take is left in the buffer. -/
theorem bytes_eq (loop : Loop skipUnknown stream events endpoint pieces (.ok (all, left) after)) :
    stream.buffer.bytes = pieces.flatten ++ left.buffer.bytes := by
  generalize same : EStateM.Result.ok (all, left) after = result at loop
  induction loop with
  | waits _ =>
      cases same
      rfl
  | refuses _ => cases same
  | fails _ _ => cases same
  | turns _ _ _ ih =>
      rw [List.flatten_cons, List.append_assoc, ← ih same]

/-- The loop ends, by induction on the bytes that are left. -/
theorem exists_loop (skipUnknown : Bool) (stream : IncomingStream) (events : List Event)
    (endpoint : Endpoint) :
    ∃ pieces result, Loop skipUnknown stream events endpoint pieces result := by
  generalize lengthEq : stream.buffer.bytes.length = length
  induction length using Nat.strongRecOn generalizing stream events endpoint with
  | _ length ih =>
      obtain ⟨⟨bytes⟩, decoder⟩ := stream
      obtain ⟨error, attempted⟩ | attempted | ⟨⟨item, next⟩, rest, attempted⟩ :=
        attempt_cases (decoder.next skipUnknown) bytes
      · exact ⟨[], _, .refuses attempted⟩
      · exact ⟨[], _, .waits attempted⟩
      · have read := attempt_eq_some.mp attempted
        obtain ⟨piece, rfl⟩ := (decoder.next_streaming skipUnknown).suffix read
        -- An item leaves fewer bytes than there were, which is all that stops the loop.
        cases settled : item.settle endpoint with
        | error error after => exact ⟨[piece], _, .fails attempted settled⟩
        | ok own between =>
            have spent := decoder.next_spends skipUnknown read
            obtain ⟨pieces, result, loop⟩ := ih rest.length (by simp at lengthEq spent; omega)
              { buffer := ⟨rest⟩, decoder := next } (events ++ own) between rfl
            exact ⟨piece :: pieces, result, .turns attempted settled loop⟩

/-- What the loop comes to is what draining answers. -/
theorem result_eq (loop : Loop skipUnknown stream events endpoint pieces result)
    (isOpen : stream.decoder.IsOpen)
    (skips : endpoint.session.config.skipUnknownMessages = skipUnknown) :
    result = (prepend events <$> drain stream) endpoint := by
  induction loop with
  | @waits stream events endpoint attempted =>
      have run : drain stream endpoint = .ok ([], stream) endpoint := by
        rw [drain_eq_turn isOpen skips, turn, attempted]
      rw [EStateM.map_ok _ run, prepend, List.append_nil]
  | @refuses stream events endpoint error attempted =>
      have run : drain stream endpoint =
          .error (.decode error) (endpoint.breakOff stream.decoder) := by
        rw [drain_eq_turn isOpen skips, turn, attempted]
      rw [EStateM.map_error _ run]
  | @fails decoder next piece rest item events endpoint after error attempted failed =>
      have run : drain { buffer := ⟨piece ++ rest⟩, decoder } endpoint = .error error after := by
        rw [drain_eq_turn isOpen skips, turn, attempted]
        exact EStateM.bind_error failed
      rw [EStateM.map_error _ run]
  | @turns decoder next piece rest item events own endpoint between pieces result attempted settled
      later ih =>
      have run : drain { buffer := ⟨piece ++ rest⟩, decoder } endpoint =
          (prepend own <$> drain { buffer := ⟨rest⟩, decoder := next }) between := by
        rw [drain_eq_turn isOpen skips, turn, attempted]
        exact EStateM.bind_ok settled
      have config := StreamItem.config_of_settle settled
      have both := ih (StreamDecoder.isOpen_of_next (attempt_eq_some.mp attempted))
        (by rw [config, skips])
      have joined : ∀ taken, prepend events (prepend own taken) = prepend (events ++ own) taken :=
        fun taken => by rw [prepend, prepend, prepend, List.append_assoc]
      rw [both, EStateM.map_congr _ run, Functor.map_map]
      simp only [joined]

end Loop

/-! ## The header, and then the loop -/

/-- The header stands in front of what the loop goes over. -/
theorem drain_eq_opening (stream : IncomingStream) (endpoint : Endpoint) :
    drain stream endpoint =
      match stream.decoder.opening.attempt stream.buffer.bytes with
      | .ok none => .ok ([], stream) endpoint
      | .error error => .error (.decode error) endpoint
      | .ok (some (opened, rest)) => drain { buffer := ⟨rest⟩, decoder := opened } endpoint := by
  obtain ⟨⟨bytes⟩, decoder⟩ := stream
  cases decoder with
  | undetermined | control | failed => rfl
  | subgroup reader =>
      exact drain_eq_opening_of_objects SubgroupReader.headed drain_subgroup reader bytes endpoint
  | fetch reader =>
      exact drain_eq_opening_of_objects FetchReader.headed drain_fetch reader bytes endpoint

/-- Draining a stream: its header, and then the loop over the items behind it.  `header` are the
bytes of the header, none if it was read before, and `pieces` those of the items. -/
inductive Drains (stream : IncomingStream) (endpoint : Endpoint) : Bytes → List Bytes →
    EStateM.Result SessionError Endpoint (List Event × IncomingStream) → Prop
  /-- The header is not there in full. -/
  | waits : stream.decoder.opening.attempt stream.buffer.bytes = .ok none →
    Drains stream endpoint [] [] (.ok ([], stream) endpoint)
  | refuses {error : DecodeError} :
    stream.decoder.opening.attempt stream.buffer.bytes = .error error →
    Drains stream endpoint [] [] (.error (.decode error) endpoint)
  | loops {opened : StreamDecoder} {header rest : Bytes} {pieces : List Bytes}
    {result : EStateM.Result SessionError Endpoint (List Event × IncomingStream)} :
    stream.decoder.opening.attempt stream.buffer.bytes = .ok (some (opened, rest)) →
    stream.buffer.bytes = header ++ rest →
    Loop endpoint.session.config.skipUnknownMessages { buffer := ⟨rest⟩, decoder := opened } []
      endpoint pieces result →
    Drains stream endpoint header pieces result

namespace Drains

variable {stream left : IncomingStream} {events : List Event} {after : Endpoint} {header : Bytes}
  {pieces : List Bytes}
  {result : EStateM.Result SessionError Endpoint (List Event × IncomingStream)}

theorem result_eq (drains : Drains stream endpoint header pieces result) :
    result = drain stream endpoint := by
  rw [drain_eq_opening]
  cases drains with
  | waits attempted => rw [attempted]
  | refuses attempted => rw [attempted]
  | loops attempted _ loop =>
      rw [attempted, loop.result_eq (StreamDecoder.isOpen_of_opening (attempt_eq_some.mp attempted))
        rfl]
      exact congrFun (id_map _) endpoint

theorem two_le (drains : Drains stream endpoint header pieces result) :
    ∀ piece ∈ pieces, 2 ≤ piece.length := by
  cases drains with
  | waits _ | refuses _ => exact nofun
  | loops _ _ loop => exact loop.two_le

theorem bytes_eq (drains : Drains stream endpoint header pieces (.ok (events, left) after)) :
    stream.buffer.bytes = header ++ pieces.flatten ++ left.buffer.bytes := by
  cases drains with
  | waits _ => rfl
  | loops _ split loop => rw [split, List.append_assoc, ← loop.bytes_eq]

/-- The header and the items stand at the front of the bytes. -/
theorem append_flatten_prefix (drains : Drains stream endpoint header pieces result) :
    header ++ pieces.flatten <+: stream.buffer.bytes := by
  cases drains with
  | waits _ | refuses _ => exact List.nil_prefix
  | loops _ split loop =>
      rw [split]
      exact (List.prefix_append_right_inj header).mpr loop.flatten_prefix

end Drains

/-- Draining comes to an end, and to what `drain` answers. -/
theorem drains_drain (stream : IncomingStream) (endpoint : Endpoint) :
    ∃ header pieces, Drains stream endpoint header pieces (drain stream endpoint) := by
  suffices ends : ∃ header pieces result, Drains stream endpoint header pieces result by
    obtain ⟨header, pieces, result, drains⟩ := ends
    exact ⟨header, pieces, drains.result_eq ▸ drains⟩
  obtain ⟨error, attempted⟩ | attempted | ⟨opened, rest, attempted⟩ :=
    attempt_cases stream.decoder.opening stream.buffer.bytes
  · exact ⟨[], [], _, .refuses attempted⟩
  · exact ⟨[], [], _, .waits attempted⟩
  · obtain ⟨header, split⟩ := stream.decoder.opening_streaming.suffix (attempt_eq_some.mp attempted)
    obtain ⟨pieces, result, loop⟩ :=
      Loop.exists_loop endpoint.session.config.skipUnknownMessages
        { buffer := ⟨rest⟩, decoder := opened } [] endpoint
    exact ⟨header, pieces, result, .loops attempted split.symm loop⟩

/-- If an item takes at least two bytes, there are at most half as many as bytes. -/
theorem two_mul_length_le {pieces : List Bytes} (long : ∀ piece ∈ pieces, 2 ≤ piece.length) :
    2 * pieces.length ≤ pieces.flatten.length := by
  have sizes : ∀ size ∈ pieces.map List.length, 2 ≤ size := List.forall_mem_map.mpr long
  have sum := List.card_nsmul_le_sum (pieces.map List.length) 2 sizes
  rw [List.length_flatten]
  simpa [Nat.mul_comm] using sum

/-- Draining a stream comes to an end, since every item brings it on. -/
structure Progresses (stream : IncomingStream) (endpoint : Endpoint) : Prop where
  /-- The loop stops, and then has come to what `drain` answers. -/
  ends : ∃ header pieces, Drains stream endpoint header pieces (drain stream endpoint)
  /-- It comes to nothing else. -/
  answers {header : Bytes} {pieces : List Bytes}
    {result : EStateM.Result SessionError Endpoint (List Event × IncomingStream)} :
    Drains stream endpoint header pieces result → result = drain stream endpoint
  /-- The header and the items stand in front of the bytes, whatever becomes of them. -/
  front {header : Bytes} {pieces : List Bytes}
    {result : EStateM.Result SessionError Endpoint (List Event × IncomingStream)} :
    Drains stream endpoint header pieces result →
    header ++ pieces.flatten <+: stream.buffer.bytes
  /-- There are at most half as many items as bytes. -/
  halves {header : Bytes} {pieces : List Bytes}
    {result : EStateM.Result SessionError Endpoint (List Event × IncomingStream)} :
    Drains stream endpoint header pieces result →
    2 * pieces.length ≤ stream.buffer.bytes.length
  /-- The header, the items and what is left are all the bytes there were. -/
  conserves {header : Bytes} {pieces : List Bytes} {events : List Event} {left : IncomingStream}
    {after : Endpoint} :
    Drains stream endpoint header pieces (.ok (events, left) after) →
    header ++ pieces.flatten ++ left.buffer.bytes = stream.buffer.bytes

/-- The facts about one stream put together. -/
theorem progresses (stream : IncomingStream) (endpoint : Endpoint) :
    Progresses stream endpoint where
  ends := drains_drain stream endpoint
  answers := Drains.result_eq
  front := Drains.append_flatten_prefix
  halves drains := by
    have long := two_mul_length_le drains.two_le
    have most := drains.append_flatten_prefix.length_le
    rw [List.length_append] at most
    omega
  conserves drains := drains.bytes_eq.symm

/-! ## Chunk after chunk -/

/-- The bytes of a stream that have arrived and were not used. -/
def waiting (endpoint : Endpoint) (id : Nat) : Bytes :=
  ((endpoint.streams.get? id).getD {}).buffer.bytes

/-- Chunks of a stream that are taken in, one after the other.  `used` are the bytes that leave its
buffer, those of its type and of its header and of its items, and `items` is how many these are. -/
inductive Feeds (id : Nat) : Endpoint → List Bytes → Bytes → Nat → Endpoint → Prop
  | done (endpoint : Endpoint) : Feeds id endpoint [] [] 0 endpoint
  | chunk {endpoint typed between after : Endpoint} {first type header used : Bytes}
    {chunks pieces : List Bytes} {stream left : IncomingStream} {events : List Event}
    {items : Nat} :
    determine id (endpoint.arriving id first) endpoint = .ok stream typed →
    (endpoint.arriving id first).buffer.bytes = type ++ stream.buffer.bytes →
    Drains stream typed header pieces (.ok (events, left) between) →
    Feeds id (between.settle id left false) chunks used items after →
    Feeds id endpoint (first :: chunks) (type ++ header ++ pieces.flatten ++ used)
      (pieces.length + items) after

section Chunks

variable {id items : Nat} {after : Endpoint} {chunks : List Bytes} {used : Bytes}
  {events : List Event} {stream : IncomingStream}

/-- No byte is lost: those used and those that wait are those that came. -/
theorem Feeds.bytes_eq (feeds : Feeds id endpoint chunks used items after) :
    endpoint.waiting id ++ chunks.flatten = used ++ after.waiting id := by
  induction feeds with
  | done endpoint => rw [List.flatten_nil, List.append_nil, List.nil_append]
  | @chunk endpoint _ between _ first _ _ _ _ _ _ left _ _ _ split drains _ ih =>
      have kept : (between.settle id left false).waiting id = left.buffer.bytes := by
        simp [waiting, settle]
      have arrived : endpoint.waiting id ++ first = (endpoint.arriving id first).buffer.bytes := rfl
      rw [kept] at ih
      rw [List.flatten_cons, ← List.append_assoc, arrived, split, drains.bytes_eq]
      simp only [List.append_assoc, ih]

/-- There are at most half as many items as bytes used. -/
theorem Feeds.length_le (feeds : Feeds id endpoint chunks used items after) :
    2 * items ≤ used.length := by
  induction feeds with
  | done endpoint => exact Nat.zero_le _
  | chunk _ _ drains _ ih =>
      have long := two_mul_length_le drains.two_le
      simp only [List.length_append]
      omega

/-- The type of a stream stands in front of what it is determined by. -/
theorem determine_split {determined : IncomingStream}
    (run : determine id stream endpoint = .ok determined after) :
    ∃ type, stream.buffer.bytes = type ++ determined.buffer.bytes := by
  obtain ⟨⟨bytes⟩, decoder⟩ := stream
  by_cases undetermined : decoder = .undetermined
  · subst undetermined
    rw [determine_undetermined] at run
    obtain ⟨error, attempted⟩ | attempted | ⟨type, rest, attempted⟩ :=
      attempt_cases Varint.decode bytes
    · rw [attempted] at run
      cases run
    · rw [attempted] at run
      cases run
      exact ⟨[], rfl⟩
    · rw [attempted] at run
      obtain ⟨_, _, _, joined⟩ := EStateM.bind_eq_ok.mp run
      cases joined
      obtain ⟨front, split⟩ := Varint.decode_streaming.suffix (attempt_eq_some.mp attempted)
      exact ⟨front, split.symm⟩
  · rw [determine_of_determined (by exact undetermined)] at run
    cases run
    exact ⟨[], rfl⟩

/-- What a stream that has not failed takes in feeds it. -/
theorem feeds_of_receiveChunks
    (alive : ((endpoint.streams.get? id).getD {}).decoder ≠ .failed)
    (taken : receiveChunks id false chunks endpoint = .ok events after) :
    ∃ used items, Feeds id endpoint chunks used items after := by
  induction chunks generalizing endpoint events with
  | nil =>
      cases taken
      exact ⟨[], 0, .done _⟩
  | cons first chunks ih =>
      obtain ⟨_, middle, _, run, taken, _⟩ := of_receiveChunks_cons taken
      unfold receive at run
      split at run
      · next own _ between processed =>
        cases run
        rw [process_eq alive] at processed
        obtain ⟨_, _, absorbed, concluded⟩ := EStateM.bind_eq_ok.mp processed
        cases concluded
        obtain ⟨determined, typed, determines, drained⟩ := EStateM.bind_eq_ok.mp absorbed
        obtain ⟨type, split⟩ := determine_split determines
        obtain ⟨header, pieces, drains⟩ := drains_drain determined typed
        rw [drained] at drains
        have still := (absorb_append_of_ok alive absorbed []).1
        have kept : ∀ left, ((between.settle id left false).streams.get? id).getD {} = left := by
          simp [settle]
        obtain ⟨used, items, feeds⟩ := ih (by rw [kept]; exact still) taken
        exact ⟨_, _, .chunk determines split drains feeds⟩
      · cases run

end Chunks

end Endpoint

end MediaTransport
