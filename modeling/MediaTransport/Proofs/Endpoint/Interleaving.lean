import MediaTransport.Proofs.Endpoint.DataStream

/-!
# Interleaved data streams

The bytes of several streams arrive in turns.  What the calls for one stream do depends on what
the streams share, which data does not change, and on the request of the fetch that the stream
may carry, which is no other stream's.  So an endpoint answers each stream as if there were no
others (`Endpoint.Alike`).

`Endpoint.interleavings_agree`: in whatever order the bytes of new data streams come, each stream
gets the same answers, failures included, and the endpoint is the same in the end.
-/

namespace MediaTransport

/-- Bytes of one stream arrive, and may be the last. -/
structure Arrival where
  stream : Nat
  chunk : Bytes
  final : Bool := false

namespace Arrival

def step (arrival : Arrival) : Endpoint.Step := .receive arrival.stream arrival.chunk arrival.final

/-- What arrives on one stream. -/
def on (stream : Nat) (arrivals : List Arrival) : List Arrival :=
  arrivals.filter (·.stream = stream)

/-- The bytes that arrive on one stream. -/
def brought (stream : Nat) (arrivals : List Arrival) : Bytes :=
  (on stream arrivals).flatMap (·.chunk)

theorem on_append (stream : Nat) (first later : List Arrival) :
    on stream (first ++ later) = on stream first ++ on stream later := List.filter_append _ _

/-- The bytes of a stream come one after the other, whatever comes between them. -/
theorem brought_append (stream : Nat) (first later : List Arrival) :
    brought stream (first ++ later) = brought stream first ++ brought stream later := by
  unfold brought
  rw [on_append, List.flatMap_append]

theorem on_singleton (stream : Nat) (arrival : Arrival) :
    on stream [arrival] = if arrival.stream = stream then [arrival] else [] := by
  by_cases own : arrival.stream = stream <;> simp [on, own]

theorem brought_own (arrival : Arrival) : brought arrival.stream [arrival] = arrival.chunk := by
  simp [brought, on_singleton]

theorem brought_other {stream : Nat} {arrival : Arrival} (other : arrival.stream ≠ stream) :
    brought stream [arrival] = [] := by
  simp [brought, on_singleton, other]

end Arrival

namespace Endpoint

open Arrival

/-- What an endpoint makes of arrivals. -/
def arrive (endpoint : Endpoint) (arrivals : List Arrival) : Endpoint :=
  endpoint.run (arrivals.map step)

/-- What an endpoint answers to one arrival. -/
def reply (endpoint : Endpoint) (arrival : Arrival) : Except SessionError (List Event) :=
  match receive arrival.stream arrival.chunk arrival.final endpoint with
  | .ok events _ => .ok events
  | .error error _ => .error error

/-- What an endpoint answers to the arrivals on one stream. -/
def replies (stream : Nat) : Endpoint → List Arrival → List (Except SessionError (List Event))
  | _, [] => []
  | endpoint, arrival :: later =>
    (if arrival.stream = stream then [endpoint.reply arrival] else []) ++
      replies stream (endpoint.take arrival.step) later

/-- Arrivals go on from where those before them left the endpoint. -/
theorem arrive_append (endpoint : Endpoint) (first later : List Arrival) :
    endpoint.arrive (first ++ later) = (endpoint.arrive first).arrive later := by
  unfold arrive
  rw [List.map_append, run_append]

/-- So do the replies. -/
theorem replies_append (stream : Nat) (endpoint : Endpoint) (first later : List Arrival) :
    endpoint.replies stream (first ++ later) =
      endpoint.replies stream first ++ (endpoint.arrive first).replies stream later := by
  induction first generalizing endpoint with
  | nil => rfl
  | cons arrival first ih =>
      rw [List.cons_append, replies, replies, ih, List.append_assoc]
      rfl

/-- Streams that are new to the endpoint, whose bytes are no control messages, and no two of
which carry the same fetch. -/
structure DataStreams (endpoint : Endpoint) (arrivals : List Arrival) : Prop where
  new : ∀ arrival ∈ arrivals, endpoint.streams.get? arrival.stream = none
  /-- Nothing arrives on a stream behind its end. -/
  ends : ∀ stream, (on stream arrivals).Pairwise fun earlier _ => earlier.final = false
  data : ∀ stream rest,
    Varint.decode (brought stream arrivals) ≠ .ok (StreamType.controlType, rest)
  apart : ∀ {first second requestId rest left},
    FetchReader.decodeTypedHeader (brought first arrivals) = .ok (requestId, rest) →
    FetchReader.decodeTypedHeader (brought second arrivals) = .ok (requestId, left) →
    first = second

variable {endpoint : Endpoint} {arrivals first later : List Arrival}

/-- A header that has arrived stays at the front. -/
theorem header_append {stream requestId : Nat} {rest : Bytes}
    (header : FetchReader.decodeTypedHeader (brought stream first) = .ok (requestId, rest))
    (later : List Arrival) :
    FetchReader.decodeTypedHeader (brought stream (first ++ later)) =
      .ok (requestId, rest ++ brought stream later) := by
  rw [brought_append]
  exact FetchReader.decodeTypedHeader_streaming.ok _ header

namespace DataStreams

/-- Of streams of data the first arrivals are such, too. -/
theorem left (streams : endpoint.DataStreams (first ++ later)) : endpoint.DataStreams first where
  new arrival member := streams.new arrival (List.mem_append_left _ member)
  ends stream := by
    have whole := streams.ends stream
    rw [on_append] at whole
    exact (List.pairwise_append.mp whole).1
  data stream rest read := by
    refine streams.data stream (rest ++ brought stream later) ?_
    rw [brought_append]
    exact Varint.decode_streaming.ok _ read
  apart header other :=
    streams.apart (header_append header later) (header_append other later)

/-- Streams of data are so in every order that keeps each of them. -/
theorem congr {second : List Arrival} (streams : endpoint.DataStreams first)
    (same : ∀ stream, on stream first = on stream second) : endpoint.DataStreams second where
  new arrival member := by
    have own : arrival ∈ on arrival.stream second := List.mem_filter.mpr ⟨member, by simp⟩
    rw [← same] at own
    exact streams.new arrival (List.mem_of_mem_filter own)
  ends stream := same stream ▸ streams.ends stream
  data stream := by
    unfold brought
    rw [← same]
    exact streams.data stream
  apart := by
    unfold brought
    simp only [← same]
    exact streams.apart

end DataStreams

/-! ## One more arrival -/

/-- What the streams share is untouched, and the streams have kept what arrived on them. -/
structure Stands (endpoint : Endpoint) (arrivals : List Arrival) : Prop where
  outline : (endpoint.arrive arrivals).outline = endpoint.outline
  accounts : ∀ stream, endpoint.streams.get? stream = none →
    (∀ arrival ∈ on stream arrivals, arrival.final = false) →
      (((endpoint.arrive arrivals).streams.get? stream).getD {}).Accounts (brought stream arrivals)

section Step

variable {arrival : Arrival}

/-- Nothing on the stream of the last arrival was final before. -/
theorem DataStreams.not_final (streams : endpoint.DataStreams (arrivals ++ [arrival])) :
    ∀ earlier ∈ on arrival.stream arrivals, earlier.final = false := by
  have pairs := streams.ends arrival.stream
  rw [on_append, on_singleton, if_pos rfl] at pairs
  exact fun earlier member => (List.pairwise_append.mp pairs).2.2 earlier member arrival
    List.mem_cons_self

theorem brought_append_own :
    brought arrival.stream (arrivals ++ [arrival]) =
      brought arrival.stream arrivals ++ arrival.chunk := by
  rw [brought_append, brought_own]

theorem brought_append_other {stream : Nat} (other : arrival.stream ≠ stream) :
    brought stream (arrivals ++ [arrival]) = brought stream arrivals := by
  rw [brought_append, brought_other other, List.append_nil]

/-- What one more arrival does follows from its stream and from what the streams share. -/
theorem Stands.exists_verdict (stands : endpoint.Stands arrivals)
    (streams : endpoint.DataStreams (arrivals ++ [arrival])) :
    ∃ verdict : Verdict, verdict.Judges (brought arrival.stream (arrivals ++ [arrival])) ∧
      ∀ other : Endpoint, other.outline = endpoint.outline →
        other.streams.get? arrival.stream =
          (endpoint.arrive arrivals).streams.get? arrival.stream →
        other.take arrival.step = verdict.leave arrival.stream arrival.final other ∧
          other.reply arrival = verdict.reply other := by
  have new := streams.new arrival (by simp)
  have accounts := stands.accounts arrival.stream new streams.not_final
  have data := streams.data arrival.stream
  rw [brought_append_own] at data ⊢
  obtain ⟨verdict, judges, receives⟩ :=
    receive_data accounts data arrival.stream arrival.final endpoint
  refine ⟨verdict, judges, fun other same kept => ?_⟩
  have received := receives other same (congrArg (·.getD {}) kept)
  have taken : other.take arrival.step = EStateM.after
      (receive arrival.stream arrival.chunk arrival.final) other := rfl
  unfold Verdict.perform at received
  unfold reply
  rw [taken, received]
  cases answered : verdict.reply other with
  | ok events =>
      rw [answered] at received
      exact ⟨EStateM.after_of_ok received, rfl⟩
  | error error =>
      rw [answered] at received
      exact ⟨EStateM.after_of_error received, rfl⟩

theorem arrive_snoc : endpoint.arrive (arrivals ++ [arrival]) =
    (endpoint.arrive arrivals).take arrival.step := by
  rw [arrive_append]
  rfl

/-- One more arrival leaves what the streams share, by its verdict. -/
theorem Stands.snoc (stands : endpoint.Stands arrivals)
    (streams : endpoint.DataStreams (arrivals ++ [arrival])) :
    endpoint.Stands (arrivals ++ [arrival]) := by
  obtain ⟨verdict, judges, carries⟩ := stands.exists_verdict streams
  obtain ⟨taken, _⟩ := carries _ stands.outline rfl
  constructor
  · rw [arrive_snoc, taken, Verdict.outline_leave]
    exact stands.outline
  · intro stream new unended
    rw [arrive_snoc, taken, Verdict.streams_leave]
    by_cases own : stream = arrival.stream
    · subst own
      have open_ : arrival.final = false := unended arrival (by simp [on_append, on_singleton])
      rw [if_pos rfl, open_]
      exact judges.accounts
    · have other : arrival.stream ≠ stream := fun same => own same.symm
      rw [if_neg own, brought_append_other other]
      refine stands.accounts stream new fun earlier member => unended earlier ?_
      rw [on_append]
      exact List.mem_append_left _ member

end Step

/-- So do all arrivals, by induction from the last. -/
theorem DataStreams.stands (streams : endpoint.DataStreams arrivals) :
    endpoint.Stands arrivals := by
  induction arrivals using List.reverseRecOn with
  | nil =>
      refine ⟨rfl, fun stream new _ => ?_⟩
      show ((endpoint.streams.get? stream).getD {}).Accounts []
      rw [new]
      exact rfl
  | append_singleton arrivals arrival ih => exact (ih streams.left).snoc streams

/-! ## One stream among others -/

/-- To one stream an endpoint on which the others arrive as well is like one on which they do
not: it keeps the same of this stream, and of all requests that no other stream carries. -/
structure Alike (stream : Nat) (arrivals : List Arrival) (mixed alone : Endpoint) : Prop where
  outline : mixed.outline = alone.outline
  kept : mixed.streams.get? stream = alone.streams.get? stream
  requests : ∀ requestId,
    (∀ other rest, FetchReader.decodeTypedHeader (brought other arrivals) = .ok (requestId, rest) →
      other = stream) →
    mixed.session.request? requestId = alone.session.request? requestId

section Step

variable {stream : Nat} {arrival : Arrival} {alone : Endpoint}

/-- Bytes of the stream itself do the same on both endpoints. -/
theorem Alike.own (alike : Alike arrival.stream arrivals (endpoint.arrive arrivals) alone)
    (stands : endpoint.Stands arrivals) (streams : endpoint.DataStreams (arrivals ++ [arrival])) :
    Alike arrival.stream (arrivals ++ [arrival]) ((endpoint.arrive arrivals).take arrival.step)
        (alone.take arrival.step) ∧
      (endpoint.arrive arrivals).reply arrival = alone.reply arrival := by
  obtain ⟨verdict, judges, carries⟩ := stands.exists_verdict streams
  obtain ⟨taken, replied⟩ := carries _ stands.outline rfl
  obtain ⟨takenAlone, repliedAlone⟩ :=
    carries alone (alike.outline.symm.trans stands.outline) alike.kept.symm
  have closes : ∀ requestId, verdict.finishes = some requestId →
      (endpoint.arrive arrivals).session.request? requestId = alone.session.request? requestId := by
    intro requestId finishes
    obtain ⟨rest, named⟩ := judges.finishes requestId finishes
    exact alike.requests requestId fun other left header =>
      streams.apart (header_append header [arrival]) named
  obtain ⟨told, changed⟩ := Verdict.close_congr closes
  rw [taken, takenAlone, replied, repliedAlone]
  refine ⟨⟨?_, ?_, ?_⟩, ?_⟩
  · rw [Verdict.outline_leave, Verdict.outline_leave]
    exact alike.outline
  · rw [Verdict.streams_leave, Verdict.streams_leave, if_pos rfl, if_pos rfl]
  · intro requestId free
    exact changed requestId (alike.requests requestId fun other rest header =>
      free other _ (header_append header [arrival]))
  · unfold Verdict.reply
    rw [told]

/-- Bytes of another stream do nothing to it. -/
theorem Alike.other (alike : Alike stream arrivals (endpoint.arrive arrivals) alone)
    (stands : endpoint.Stands arrivals) (streams : endpoint.DataStreams (arrivals ++ [arrival]))
    (distinct : arrival.stream ≠ stream) :
    Alike stream (arrivals ++ [arrival]) ((endpoint.arrive arrivals).take arrival.step) alone := by
  obtain ⟨verdict, judges, carries⟩ := stands.exists_verdict streams
  obtain ⟨taken, _⟩ := carries _ stands.outline rfl
  rw [taken]
  refine ⟨?_, ?_, ?_⟩
  · rw [Verdict.outline_leave]
    exact alike.outline
  · rw [Verdict.streams_leave, if_neg distinct.symm]
    exact alike.kept
  · intro requestId free
    have elsewhere : verdict.finishes ≠ some requestId := by
      intro finishes
      obtain ⟨rest, named⟩ := judges.finishes requestId finishes
      exact distinct (free arrival.stream rest named)
    rw [Verdict.request?_leave_of_ne elsewhere]
    exact alike.requests requestId fun other rest header =>
      free other _ (header_append header [arrival])

end Step

/-- Each stream is answered, and kept, as if there were no others. -/
theorem DataStreams.alike (streams : endpoint.DataStreams arrivals) (stream : Nat) :
    Alike stream arrivals (endpoint.arrive arrivals) (endpoint.arrive (on stream arrivals)) ∧
      endpoint.replies stream arrivals = endpoint.replies stream (on stream arrivals) := by
  induction arrivals using List.reverseRecOn with
  | nil => exact ⟨⟨rfl, rfl, fun _ _ => rfl⟩, rfl⟩
  | append_singleton arrivals arrival ih =>
      obtain ⟨alike, replied⟩ := ih streams.left
      have stands := streams.left.stands
      rw [on_append, on_singleton, arrive_snoc, replies_append]
      by_cases own : arrival.stream = stream
      · subst own
        obtain ⟨alike, same⟩ := alike.own stands streams
        rw [if_pos rfl, arrive_snoc, replies_append, replied]
        refine ⟨alike, ?_⟩
        simp [replies, same]
      · rw [if_neg own, List.append_nil]
        refine ⟨alike.other stands streams own, ?_⟩
        simp [replies, own, replied]

/-- The endpoint does not depend on how the streams are interleaved. -/
theorem DataStreams.arrive_congr {second : List Arrival} (streams : endpoint.DataStreams first)
    (same : ∀ stream, on stream first = on stream second) :
    endpoint.arrive first = endpoint.arrive second := by
  have others := streams.congr same
  have each : ∀ stream, Alike stream first (endpoint.arrive first)
      (endpoint.arrive (on stream first)) := fun stream => (streams.alike stream).1
  have eachOther : ∀ stream, Alike stream first (endpoint.arrive second)
      (endpoint.arrive (on stream first)) := by
    intro stream
    obtain ⟨outline, kept, requests⟩ := (others.alike stream).1
    rw [← same] at outline kept requests
    refine ⟨outline, kept, fun requestId free => requests requestId fun other rest => ?_⟩
    unfold brought
    rw [← same]
    exact free other rest
  refine ext_outline ?_ (fun stream => ?_) fun requestId => ?_
  · exact (each 0).outline.trans (eachOther 0).outline.symm
  · exact (each stream).kept.trans (eachOther stream).kept.symm
  · by_cases named : ∃ stream rest,
        FetchReader.decodeTypedHeader (brought stream first) = .ok (requestId, rest)
    · obtain ⟨stream, rest, header⟩ := named
      have free : ∀ other left,
          FetchReader.decodeTypedHeader (brought other first) = .ok (requestId, left) →
            other = stream := fun other left again => streams.apart again header
      exact ((each stream).requests requestId free).trans
        ((eachOther stream).requests requestId free).symm
    · have free : ∀ other left,
          FetchReader.decodeTypedHeader (brought other first) = .ok (requestId, left) →
            other = 0 := fun other left header => absurd ⟨other, left, header⟩ named
      exact ((each 0).requests requestId free).trans ((eachOther 0).requests requestId free).symm

/-- In whatever order the bytes of new data streams come, each stream gets the same answers,
which are those it gets where it is alone, and is kept as it is there, and the endpoint is the
same in the end. -/
theorem interleavings_agree (endpoint : Endpoint) (first second : List Arrival)
    (streams : endpoint.DataStreams first)
    (same : ∀ stream, on stream first = on stream second) :
    (∀ stream, endpoint.replies stream first = endpoint.replies stream second ∧
        endpoint.replies stream first = endpoint.replies stream (on stream first) ∧
        (endpoint.arrive first).streams.get? stream =
          (endpoint.arrive (on stream first)).streams.get? stream) ∧
      endpoint.arrive first = endpoint.arrive second := by
  refine ⟨fun stream => ?_, streams.arrive_congr same⟩
  obtain ⟨alike, alone⟩ := streams.alike stream
  obtain ⟨_, aloneSecond⟩ := (streams.congr same).alike stream
  refine ⟨?_, alone, alike.kept⟩
  rw [alone, aloneSecond, same]

/-- A fetch that ends, a subgroup whose second object does not decode, and a stream of a type that
is not known, in turns. -/
def woven : List Arrival := [
  { stream := 1, chunk := [5] },
  { stream := 3, chunk := [0x10, 1, 0, 128, 0, 2, 5, 6] },
  { stream := 5, chunk := [0x3f] },
  { stream := 3, chunk := [0, 0, 2] },
  { stream := 1, chunk := [0, 28, 0, 0, 128, 1, 9], final := true }]

/-- The same streams one after the other. -/
def unwoven : List Arrival := [
  { stream := 5, chunk := [0x3f] },
  { stream := 1, chunk := [5] },
  { stream := 1, chunk := [0, 28, 0, 0, 128, 1, 9], final := true },
  { stream := 3, chunk := [0x10, 1, 0, 128, 0, 2, 5, 6] },
  { stream := 3, chunk := [0, 0, 2] }]

theorem cases_woven (stream : Nat) :
    (stream = 1 ∨ stream = 3 ∨ stream = 5) ∨ on stream woven = [] ∧ on stream unwoven = [] := by
  by_cases named : stream = 1 ∨ stream = 3 ∨ stream = 5
  · exact .inl named
  · simp only [not_or] at named
    obtain ⟨one, three, five⟩ := named
    simp [on, woven, unwoven, one, three, five, Ne.symm one, Ne.symm three, Ne.symm five]

/-- Either way the same arrives on each stream. -/
theorem on_woven (stream : Nat) : on stream woven = on stream unwoven := by
  obtain (rfl | rfl | rfl) | ⟨first, second⟩ := cases_woven stream
  · rfl
  · rfl
  · rfl
  · rw [first, second]

/-- Only one of them is a fetch. -/
theorem header_woven {stream requestId : Nat} {rest : Bytes}
    (header : FetchReader.decodeTypedHeader (brought stream woven) = .ok (requestId, rest)) :
    stream = 1 := by
  obtain (rfl | rfl | rfl) | ⟨nothing, _⟩ := cases_woven stream
  · rfl
  · cases header
  · cases header
  · rw [brought, nothing] at header
    cases header

theorem dataStreams_woven : ((create {}).run asking).DataStreams woven where
  new arrival _ := by
    have none : ((create {}).run asking).streams = .empty := rfl
    rw [none, Table.get?_empty]
  ends stream := by
    obtain (rfl | rfl | rfl) | ⟨nothing, _⟩ := cases_woven stream
    · decide
    · decide
    · decide
    · rw [nothing]
      exact .nil
  data stream rest read := by
    obtain (rfl | rfl | rfl) | ⟨nothing, _⟩ := cases_woven stream
    · cases read
    · cases read
    · cases read
    · rw [brought, nothing] at read
      cases read
  apart header other := (header_woven header).trans (header_woven other).symm

theorem agree_woven :
    ((create {}).run asking).arrive woven = ((create {}).run asking).arrive unwoven ∧
      ((create {}).run asking).replies 3 woven = ((create {}).run asking).replies 3 unwoven ∧
      ((create {}).run asking).replies 1 woven =
        [.ok [], .ok [.object (some 0) { priority := some 128, payload := [9] },
          .fetchComplete 0 .ok]] := by
  obtain ⟨each, same⟩ :=
    interleavings_agree ((create {}).run asking) woven unwoven dataStreams_woven on_woven
  obtain ⟨_, alone, _⟩ := each 1
  refine ⟨same, (each 3).1, alone.trans ?_⟩
  rfl

end Endpoint

end MediaTransport
