import MediaTransport.Proofs.Endpoint.Chunking

/-!
# Events that are lost

A call of `Endpoint.receive` that fails answers with its error alone, so the events of what its
bytes complete before the error are lost, though a session keeps what the messages among them
have changed.

`Endpoint.receiveAll_singly`: had the same bytes arrived one at a time, the error and the
endpoint would be the same, and the events those that were delivered and after them the lost
ones (`Endpoint.Completes`).  It is only within the failing call that events are lost.
-/

namespace MediaTransport

namespace Endpoint

/-! ## Chunks that may fail -/

/-- What comes of the chunks of a stream. -/
structure Outcome where
  events : List Event
  errors : List SessionError
  endpoint : Endpoint

/-- Events of earlier chunks stand in front. -/
def Outcome.prepend (events : List Event) (outcome : Outcome) : Outcome :=
  { outcome with events := events ++ outcome.events }

/-- The chunks of a stream arrive one after the other, whatever comes of each, and the last may
be the end of the stream. -/
def receiveAll (id : Nat) (final : Bool) : List Bytes → Endpoint → Outcome
  | [], endpoint => ⟨[], [], endpoint⟩
  | chunk :: rest, endpoint =>
    match receive id chunk (final && rest.isEmpty) endpoint with
    | .ok events after => (receiveAll id final rest after).prepend events
    | .error error after =>
      let later := receiveAll id final rest after
      { later with errors := error :: later.errors }

/-- The bytes one at a time, and then the end. -/
def singly (bytes : Bytes) : List Bytes := bytes.map ([·]) ++ [[]]

/-- A part of the chunk is taken in, and comes to these events. -/
def Completes (endpoint : Endpoint) (id : Nat) (chunk : Bytes) (events : List Event) : Prop :=
  ∃ first later after, chunk = first ++ later ∧ receive id first false endpoint = .ok events after

/-- Nothing on the stream waits to be taken in. -/
def AtRest (endpoint : Endpoint) (id : Nat) : Prop :=
  ∃ after, receive id [] false endpoint = .ok [] after

variable {id : Nat} {final : Bool} {chunk : Bytes} {pieces : List Bytes}
  {endpoint between after : Endpoint} {events : List Event} {error : SessionError}

theorem Outcome.prepend_nil (outcome : Outcome) : outcome.prepend [] = outcome := rfl

/-- Earlier events stand in front of later ones. -/
theorem Outcome.prepend_prepend (first later : List Event) (outcome : Outcome) :
    (outcome.prepend later).prepend first = outcome.prepend (first ++ later) := by
  rw [prepend, prepend, prepend, List.append_assoc]

/-- A chunk that is taken in gives its events before those of the chunks after it. -/
theorem receiveAll_of_ok
    (run : receive id chunk (final && pieces.isEmpty) endpoint = .ok events after) :
    receiveAll id final (chunk :: pieces) endpoint =
      (receiveAll id final pieces after).prepend events := by
  rw [receiveAll, run]

/-- One that fails gives its error, and no events. -/
theorem receiveAll_of_error
    (run : receive id chunk (final && pieces.isEmpty) endpoint = .error error after) :
    receiveAll id final (chunk :: pieces) endpoint =
      { receiveAll id final pieces after with
        errors := error :: (receiveAll id final pieces after).errors } := by
  rw [receiveAll, run]

/-- A stream that has failed drops all its chunks. -/
theorem receiveAll_of_failed (some_ : pieces ≠ [])
    (failed : endpoint.streams.get? id = some .failed) :
    receiveAll id final pieces endpoint = ⟨[], [], endpoint.settle id .failed final⟩ := by
  induction pieces generalizing endpoint with
  | nil => exact absurd rfl some_
  | cons chunk rest ih =>
      rw [receiveAll_of_ok (receive_of_failed failed chunk _)]
      cases rest with
      | nil =>
          rw [List.isEmpty_nil, Bool.and_true]
          rfl
      | cons second others =>
          rw [List.isEmpty_cons, Bool.and_false, ih (List.cons_ne_nil _ _) (by simp [settle])]
          cases final with
          | false => simp [settle, Outcome.prepend, Table.insert_insert]
          | true => simp [settle, Outcome.prepend, Table.erase_insert]

/-! ## Streams at rest -/

/-- What has been taken in leaves nothing that waits. -/
theorem atRest_of_receive (run : receive id chunk false endpoint = .ok events after) :
    after.AtRest id := by
  have whole := receive_append_of_ok run [] false
  rw [List.append_nil, run] at whole
  rcases EStateM.map_eq_ok.mp whole.symm with ⟨others, again, joined⟩
  -- The same bytes with none after them come to the same events, so none are left to come.
  have silent : others = [] := by simpa using joined
  subst silent
  exact ⟨after, again⟩

/-- On a new stream nothing waits. -/
theorem atRest_of_fresh (fresh : endpoint.streams.get? id = none) : endpoint.AtRest id := by
  have run : process id {} [] false endpoint = .ok ([], {}) endpoint := rfl
  refine ⟨endpoint.settle id {} false, ?_⟩
  rw [receive, fresh, Option.getD_none, run]

/-- Where nothing waits, a chunk comes to no less than no events. -/
theorem AtRest.completes_nil (rest : endpoint.AtRest id) (chunk : Bytes) :
    endpoint.Completes id chunk [] := by
  rcases rest with ⟨after, run⟩
  exact ⟨[], chunk, after, rfl, run⟩

theorem AtRest.events_eq_nil (rest : endpoint.AtRest id)
    (run : receive id [] false endpoint = .ok events after) : events = [] := by
  rcases rest with ⟨_, same⟩
  rw [same] at run
  cases run
  rfl

/-! ## One byte at a time -/

/-- A chunk that is taken in may be cut into its bytes. -/
theorem receiveAll_bytes (rest : endpoint.AtRest id)
    (run : receive id chunk false endpoint = .ok events after) (some_ : pieces ≠ []) :
    receiveAll id final (chunk.map ([·]) ++ pieces) endpoint =
      (receiveAll id final pieces after).prepend events := by
  induction chunk generalizing endpoint events with
  | nil =>
      rcases rest with ⟨_, same⟩
      rw [same] at run
      cases run
      rcases List.exists_cons_of_ne_nil some_ with ⟨piece, others, rfl⟩
      have moved := receive_append_of_ok same piece (final && others.isEmpty)
      rw [List.nil_append] at moved
      rw [List.map_nil, List.nil_append, Outcome.prepend_nil]
      cases runPiece : receive id piece (final && others.isEmpty) after with
      | ok own last =>
          rw [EStateM.map_ok _ runPiece, List.nil_append] at moved
          rw [receiveAll_of_ok moved, receiveAll_of_ok runPiece]
      | error error last =>
          rw [EStateM.map_error _ runPiece] at moved
          rw [receiveAll_of_error moved, receiveAll_of_error runPiece]
  | cons byte bytes ih =>
      have later : (bytes.map ([·]) ++ pieces).isEmpty = false := by simp [some_]
      cases runByte : receive id [byte] false endpoint with
      | error error middle =>
          have whole := (receive_append_of_error runByte bytes false).2
          exact nomatch (run.symm.trans whole)
      | ok own middle =>
          have whole := receive_append_of_ok runByte bytes false
          rw [List.singleton_append, run] at whole
          rcases EStateM.map_eq_ok.mp whole.symm with ⟨others, runBytes, rfl⟩
          rw [List.map_cons, List.cons_append]
          rw [receiveAll_of_ok (by rw [later, Bool.and_false]; exact runByte)]
          rw [ih (atRest_of_receive runByte) runBytes, Outcome.prepend_prepend]

/-- Bytes that fail in one call fail one at a time, after the events of those before the
error. -/
theorem receiveAll_failing (rest : endpoint.AtRest id)
    (failed : receive id chunk final endpoint = .error error after) :
    ∃ lost, endpoint.Completes id chunk lost ∧
      (∀ {own}, endpoint.Completes id chunk own → own <+: lost) ∧
      receiveAll id final (singly chunk) endpoint = ⟨lost, [error], after⟩ := by
  induction chunk generalizing endpoint with
  | nil =>
      refine ⟨[], rest.completes_nil [], ?_, ?_⟩
      · rintro own ⟨first, later, _, split, run⟩
        rw [List.append_eq_nil_iff.mp split.symm |>.1] at run
        rw [rest.events_eq_nil run]
      · exact receiveAll_of_error (by rw [List.isEmpty_nil, Bool.and_true]; exact failed)
  | cons byte bytes ih =>
      have later : (singly bytes).isEmpty = false := by simp [singly]
      -- Either the first byte is refused, or the bytes after it fail where it has been taken in.
      cases runByte : receive id [byte] false endpoint with
      | ok own middle =>
          have whole := receive_append_of_ok runByte bytes final
          rw [List.singleton_append, failed] at whole
          cases runBytes : receive id bytes final middle with
          | ok others last =>
              rw [EStateM.map_ok _ runBytes] at whole
              cases whole
          | error other last =>
              rw [EStateM.map_error _ runBytes] at whole
              cases whole
              rcases ih (atRest_of_receive runByte) runBytes with
                ⟨lost, completes, longest, received⟩
              refine ⟨own ++ lost, ?_, ?_, ?_⟩
              · rcases completes with ⟨first, others, last, rfl, run⟩
                refine ⟨byte :: first, others, last, rfl, ?_⟩
                rw [← List.singleton_append, receive_append_of_ok runByte]
                exact EStateM.map_ok _ run
              · rintro theirs ⟨first, others, last, split, run⟩
                rcases first with _ | ⟨head, first⟩
                · rw [rest.events_eq_nil run]
                  exact List.nil_prefix
                · rw [List.cons_append] at split
                  cases split
                  rw [← List.singleton_append, receive_append_of_ok runByte] at run
                  rcases EStateM.map_eq_ok.mp run with ⟨more, runFirst, rfl⟩
                  have within := longest ⟨first, others, last, rfl, runFirst⟩
                  exact (List.prefix_append_right_inj own).mpr within
              · show receiveAll id final ([byte] :: singly bytes) endpoint = _
                rw [receiveAll_of_ok (by rw [later, Bool.and_false]; exact runByte), received]
                rfl
      | error refusal middle =>
          obtain ⟨stopped, whole⟩ := receive_append_of_error runByte bytes final
          rw [List.singleton_append, failed] at whole
          cases whole
          refine ⟨[], rest.completes_nil _, ?_, ?_⟩
          · rintro theirs ⟨first, others, last, split, run⟩
            rcases first with _ | ⟨head, first⟩
            · rw [rest.events_eq_nil run]
            · rw [List.cons_append] at split
              cases split
              have refused := (receive_append_of_error runByte first false).2
              exact nomatch (run.symm.trans refused)
          · show receiveAll id final ([byte] :: singly bytes) endpoint = _
            rw [receiveAll_of_error (by rw [later, Bool.and_false]; exact runByte)]
            rw [receiveAll_of_failed (by simp [singly]) stopped]

/-! ## All chunks -/

/-- Chunks that are taken in are taken in one by one. -/
theorem of_receiveChunks_cons {chunks : List Bytes}
    (run : receiveChunks id false (chunk :: chunks) endpoint = .ok events between) :
    ∃ own middle others, receive id chunk false endpoint = .ok own middle ∧
      receiveChunks id false chunks middle = .ok others between ∧ events = own ++ others := by
  cases chunks with
  | nil => exact ⟨events, between, [], run, rfl, (List.append_nil _).symm⟩
  | cons second others =>
      rcases EStateM.bind_eq_ok.mp run with ⟨own, middle, runFirst, run⟩
      rcases EStateM.bind_eq_ok.mp run with ⟨others, last, runOthers, joined⟩
      cases joined
      exact ⟨own, middle, others, runFirst, runOthers, rfl⟩

/-- Where nothing waited before a chunk was taken in, nothing waits after it. -/
theorem AtRest.receiveChunks {chunks : List Bytes} (rest : endpoint.AtRest id)
    (taken : receiveChunks id false chunks endpoint = .ok events between) : between.AtRest id := by
  induction chunks generalizing endpoint events with
  | nil =>
      cases taken
      exact rest
  | cons chunk chunks ih =>
      rcases of_receiveChunks_cons taken with ⟨_, _, _, runChunk, runRest, _⟩
      exact ih (atRest_of_receive runChunk) runRest

/-- Chunks that are taken in may be cut into their bytes. -/
theorem receiveAll_chunks {chunks : List Bytes} (rest : endpoint.AtRest id)
    (taken : receiveChunks id false chunks endpoint = .ok events between)
    (some_ : pieces ≠ []) :
    receiveAll id final (chunks ++ pieces) endpoint =
        (receiveAll id final pieces between).prepend events ∧
      receiveAll id final (chunks.flatten.map ([·]) ++ pieces) endpoint =
        (receiveAll id final pieces between).prepend events := by
  induction chunks generalizing endpoint events with
  | nil =>
      cases taken
      exact ⟨rfl, rfl⟩
  | cons chunk chunks ih =>
      rcases of_receiveChunks_cons taken with ⟨own, middle, others, runChunk, runRest, rfl⟩
      rcases ih (atRest_of_receive runChunk) runRest with ⟨whole, bytes⟩
      have later : (chunks ++ pieces).isEmpty = false := by simp [some_]
      constructor
      · rw [List.cons_append]
        rw [receiveAll_of_ok (by rw [later, Bool.and_false]; exact runChunk), whole,
          Outcome.prepend_prepend]
      · rw [List.flatten_cons, List.map_append, List.append_assoc]
        rw [receiveAll_bytes rest runChunk (by simp [some_]), bytes, Outcome.prepend_prepend]

/-- A call fails after others that did not.  One at a time, the bytes of the stream come to the
same error and the same endpoint, and to the events of the calls before it followed by the lost
ones: those of the longest part of the chunk that is taken in. -/
theorem receiveAll_singly {early : List Bytes} (fresh : endpoint.streams.get? id = none)
    (taken : receiveChunks id false early endpoint = .ok events between)
    (failed : receive id chunk final between = .error error after) :
    ∃ lost, between.Completes id chunk lost ∧
      (∀ {own}, between.Completes id chunk own → own <+: lost) ∧
      receiveAll id final (early ++ [chunk]) endpoint = ⟨events, [error], after⟩ ∧
      receiveAll id final (singly (early ++ [chunk]).flatten) endpoint =
        ⟨events ++ lost, [error], after⟩ := by
  have rest := atRest_of_fresh fresh
  rcases receiveAll_failing (rest.receiveChunks taken) failed with
    ⟨lost, completes, longest, received⟩
  refine ⟨lost, completes, longest, ?_, ?_⟩
  · have alone : receiveAll id final [chunk] between = ⟨[], [error], after⟩ :=
      receiveAll_of_error (by rw [List.isEmpty_nil, Bool.and_true]; exact failed)
    rw [(receiveAll_chunks rest taken (List.cons_ne_nil _ _)).1, alone, Outcome.prepend,
      List.append_nil]
  · have cut : singly (early ++ [chunk]).flatten = early.flatten.map ([·]) ++ singly chunk := by
      simp [singly]
    have some_ : singly chunk ≠ [] := by simp [singly]
    rw [cut, (receiveAll_chunks rest taken some_).2, received]
    rfl

/-- The header of a subgroup stream. -/
def goodHeader : Bytes := [0x10, 1, 0, 128]

/-- An object, and after it an object of no known status. -/
def spoiledObjects : Bytes := [0, 2, 5, 6, 0, 0, 2]

/-- An endpoint that has the header and waits for objects. -/
def headed : Endpoint := EStateM.after (receive 2 goodHeader false) (create {})

/-- An endpoint with a stream that has failed. -/
def spoiled : Endpoint := (create {}).settle 2 .failed false

/-- The object that is complete is told of byte by byte, and lost with the chunk that fails. -/
theorem receiveAll_spoiledObjects :
    receiveChunks 2 false [goodHeader] (create {}) = .ok [] headed ∧
      receive 2 spoiledObjects false headed = .error (.decode .invalidValue) spoiled ∧
      headed.Completes 2 spoiledObjects [.object none (cutObject 0 [5, 6])] ∧
      ∃ lost, [.object none (cutObject 0 [5, 6])] <+: lost ∧
        receiveAll 2 false [goodHeader, spoiledObjects] (create {}) =
          ⟨[], [.decode .invalidValue], spoiled⟩ ∧
        receiveAll 2 false (singly (goodHeader ++ spoiledObjects)) (create {}) =
          ⟨lost, [.decode .invalidValue], spoiled⟩ := by
  have taken : receiveChunks 2 false [goodHeader] (create {}) = .ok [] headed := rfl
  have failed : receive 2 spoiledObjects false headed = .error (.decode .invalidValue) spoiled := by
    rfl
  have completes : headed.Completes 2 spoiledObjects [.object none (cutObject 0 [5, 6])] :=
    ⟨[0, 2, 5, 6], [0, 0, 2], EStateM.after (receive 2 [0, 2, 5, 6] false) headed, rfl, rfl⟩
  have fresh : (create {}).streams.get? 2 = none := rfl
  rcases receiveAll_singly fresh taken failed with ⟨lost, _, longest, whole, bytes⟩
  exact ⟨taken, failed, completes, lost, longest completes, whole, bytes⟩

/-- An object arrives in full, but in the same call as one that is refused. -/
theorem events_lost :
    ¬ ∀ {id : Nat} {final : Bool} {early : List Bytes} {chunk : Bytes}
        {endpoint between after : Endpoint} {events : List Event} {error : SessionError},
      endpoint.streams.get? id = none →
      receiveChunks id false early endpoint = .ok events between →
      receive id chunk final between = .error error after →
      (receiveAll id final (singly (early ++ [chunk]).flatten) endpoint).events = events := by
  intro delivered
  have taken : receiveChunks 2 false [goodHeader] (create {}) = .ok [] headed := rfl
  have failed : receive 2 spoiledObjects false headed = .error (.decode .invalidValue) spoiled := by
    rfl
  have nothing := delivered (show (create {}).streams.get? 2 = none from rfl) taken failed
  have bytes : (receiveAll 2 false (singly ([goodHeader] ++ [spoiledObjects]).flatten)
      (create {})).events = [.object none (cutObject 0 [5, 6])] := rfl
  cases bytes.symm.trans nothing

end Endpoint

end MediaTransport
