import MediaTransport.Proofs.Session.Handle
import MediaTransport.Proofs.Session.Opening
import MediaTransport.Proofs.Text.Utf8

/-!
# Setting a connection up

The client opens with its versions and what it announces; the server takes the first of its
own versions that was offered and announces in turn.  Both messages go as frames, and
`Session.setup_agrees` says what the two sides hold in the end: one version, each the limit
of the other, and the server the path and the implementation of the client.
-/

namespace MediaTransport

/-! ## The version -/

namespace Version

/-- This is the first of our versions that the other side supports too. -/
def IsFirstCommon (ours theirs : List Version) (version : Version) : Prop :=
  ∃ before after, ours = before ++ version :: after ∧ version ∈ theirs ∧
    ∀ other ∈ before, other ∉ theirs

namespace IsFirstCommon

variable {ours theirs : List Version} {version : Version}

theorem mem_ours (first : IsFirstCommon ours theirs version) : version ∈ ours := by
  obtain ⟨before, after, rfl, _, _⟩ := first
  exact List.mem_append_right before List.mem_cons_self

theorem mem_theirs (first : IsFirstCommon ours theirs version) : version ∈ theirs := by
  obtain ⟨_, _, _, shared, _⟩ := first
  exact shared

end IsFirstCommon

/-- The version that is selected is the first common one. -/
theorem select_eq_some_iff {ours theirs : List Version} {version : Version} :
    select ours theirs = some version ↔ IsFirstCommon ours theirs version := by
  simp only [select, IsFirstCommon, List.find?_eq_some_iff_append, List.contains_eq_mem,
    decide_eq_true_eq, Bool.not_eq_true', decide_eq_false_iff_not]
  constructor
  · rintro ⟨shared, before, after, versionsEq, others⟩
    exact ⟨before, after, versionsEq, shared, others⟩
  · rintro ⟨before, after, versionsEq, shared, others⟩
    exact ⟨shared, before, after, versionsEq, others⟩

/-- None is selected if there is none in common. -/
theorem select_eq_none_iff {ours theirs : List Version} :
    select ours theirs = none ↔ ∀ version ∈ ours, version ∉ theirs := by
  simp [select]

/-- If there is a common version, there is a first one. -/
theorem exists_isFirstCommon {ours theirs : List Version} {version : Version}
    (supported : version ∈ ours) (shared : version ∈ theirs) :
    ∃ first, IsFirstCommon ours theirs first := by
  cases selected : select ours theirs with
  | none => exact absurd shared (select_eq_none_iff.mp selected version supported)
  | some first => exact ⟨first, select_eq_some_iff.mp selected⟩

end Version

/-! ## What the two sides announce -/

namespace SetupParameters

/-- A block that is set is found, and the others as before. -/
@[simp]
theorem block?_withBlock (parameters : SetupParameters) (kind other : SetupBlock) (bytes : Bytes) :
    (parameters.withBlock kind bytes).block? other =
      if other.toNat = kind.toNat then some bytes else parameters.block? other :=
  Table.get?_insert _ _ _ _

@[simp]
theorem block?_withNumber (parameters : SetupParameters) (kind : SetupNumber) (value : Nat)
    (other : SetupBlock) : (parameters.withNumber kind value).block? other =
      parameters.block? other :=
  rfl

@[simp]
theorem block?_empty (kind : SetupBlock) : empty.block? kind = none := rfl

end SetupParameters

/-- These parameters say of a client what its configuration says. -/
structure SessionConfig.Presents (client : SessionConfig) (parameters : SetupParameters) :
    Prop where
  limit : parameters.maxRequestId? = some client.maxRequestId
  pathBytes : parameters.block? .path = client.path.map Utf8.encode
  path : parameters.path? = client.path
  implementation : parameters.block? .implementation = client.implementation.map Utf8.encode

namespace Session

theorem block?_setupParameters_implementation (session : Session) :
    session.setupParameters.block? .implementation =
      session.config.implementation.map Utf8.encode := by
  unfold setupParameters
  cases session.config.implementation with
  | none => rfl
  | some implementation => simp

/-- A session does not present a path; only the setup of a client does. -/
theorem block?_setupParameters_path (session : Session) :
    session.setupParameters.block? .path = none := by
  unfold setupParameters
  cases session.config.implementation with
  | none => rfl
  | some implementation => simp [SetupBlock.toNat]

/-- The setup of a client says what its configuration says. -/
theorem presents_clientSetup (client : SessionConfig) :
    ∃ parameters, (create client).clientSetup = .clientSetup client.versions parameters ∧
      client.Presents parameters := by
  have limit := (announces_setupParameters (create client)).1
  have implementation := block?_setupParameters_implementation (create client)
  have bare := block?_setupParameters_path (create client)
  unfold clientSetup
  cases path : client.path with
  | none =>
      rw [show (create client).config.path = none from path]
      refine ⟨_, rfl, limit, ?_, ?_, implementation⟩
      · rw [path]
        exact bare
      · rw [path, SetupParameters.path?, bare]
        rfl
  | some name =>
      rw [show (create client).config.path = some name from path]
      refine ⟨_, rfl, limit, ?_, ?_, ?_⟩
      · simp [path]
      · simp [path, SetupParameters.path?, Utf8.repair_encode]
      · rw [SetupParameters.block?_withBlock, if_neg (by decide)]
        exact implementation

/-! ## The exchange -/

theorem isSetup_clientSetup {client : SessionConfig} (opens : client.role = .client) :
    client.IsSetup (create client).clientSetup := by
  rw [SessionConfig.IsSetup, opens]

theorem isSetup_serverSetup {server : SessionConfig} (answers : server.role = .server)
    {version : Version} (supported : version ∈ server.versions) :
    server.IsSetup (.serverSetup version (create server).setupParameters) := by
  rw [SessionConfig.IsSetup, answers]
  exact ⟨version, supported, rfl⟩

end Session

/-- The frame of a setup is read back as that setup. -/
theorem SessionConfig.IsSetup.decode {config : SessionConfig} {setup : Message}
    (opening : config.IsSetup setup) {frame : Bytes} (encoded : setup.encode = .ok frame)
    (skipUnknown : Bool) : Message.decode skipUnknown frame = .ok (setup, []) := by
  have typed : setup.type? ≠ none := by
    have isSetup := opening.isSetup
    cases setup with
    | unknown _ _ => cases isSetup
    | _ => exact nofun
  exact (Message.reads_encode opening.wellFormed (absurd · typed) encoded).run

/-- The two sides once each has taken the setup of the other. -/
structure SetUp (client server : SessionConfig) (version : Version) (joined served : Session) :
    Prop where
  clientPhase : joined.phase = .established
  serverPhase : served.phase = .established
  clientVersion : joined.version = version
  serverVersion : served.version = version
  clientLimit : joined.peerMaxRequestId = some server.maxRequestId
  serverLimit : served.peerMaxRequestId = some client.maxRequestId

namespace Session

/-- A client that has sent its setup and awaits the server's. -/
def connecting (client : SessionConfig) (opening : Bytes) : Session :=
  { (create client).queue opening with phase := .connecting }

/-- A new client that connects has queued its setup, and waits. -/
theorem connect_eq_ok {client : SessionConfig} (opens : client.role = .client) {opening : Bytes}
    (encoded : (create client).clientSetup.encode = .ok opening) :
    connect (create client) = .ok ⟨⟩ (connecting client opening) := by
  have ready : ¬ ((create client).config.role ≠ .client ∨ (create client).phase ≠ .idle) :=
    not_or.mpr ⟨not_not_intro opens, not_not_intro rfl⟩
  rw [connect, EStateM.get_bind, if_neg ready]
  dsimp only
  rw [EStateM.bind_ok (send_of_ok encoded (create client))]
  rfl

/-- A client connects, its setup goes to the server as bytes, and the answer comes back as
bytes.  If there is a version that both support, then both sides are set up with the
first of them in the server's order; if there is none, the server refuses and stays as it was
created. -/
theorem setup_agrees {client server : SessionConfig} (opens : client.role = .client)
    (answers : server.role = .server) {opening : Bytes}
    (encoded : (create client).clientSetup.encode = .ok opening)
    (encodes : ∀ version, Version.IsFirstCommon server.versions client.versions version →
      ∃ reply, (Message.serverSetup version (create server).setupParameters).encode = .ok reply) :
    ∃ waiting parameters,
      connect (create client) = .ok ⟨⟩ waiting ∧ waiting.outbox = [opening] ∧
      Message.decode server.skipUnknownMessages opening =
        .ok (.clientSetup client.versions parameters, []) ∧
      client.Presents parameters ∧
      ((∃ version ∈ server.versions, version ∈ client.versions) →
        ∃ version served reply announced joined,
          Version.IsFirstCommon server.versions client.versions version ∧
          handle (.clientSetup client.versions parameters) (create server) =
            .ok [.established version] served ∧
          served.outbox = [reply] ∧
          Message.decode client.skipUnknownMessages reply =
            .ok (.serverSetup version announced, []) ∧
          handle (.serverSetup version announced) waiting = .ok [.established version] joined ∧
          SetUp client server version joined served) ∧
      ((∀ version ∈ server.versions, version ∉ client.versions) →
        handle (.clientSetup client.versions parameters) (create server) =
          .error .version (create server)) := by
  obtain ⟨parameters, setup, presents⟩ := presents_clientSetup client
  have read := (isSetup_clientSetup opens).decode encoded server.skipUnknownMessages
  rw [setup] at read
  refine ⟨_, parameters, connect_eq_ok opens encoded, rfl, read, presents, ?_, ?_⟩
  · rintro ⟨_, supported, shared⟩
    obtain ⟨version, first⟩ := Version.exists_isFirstCommon supported shared
    obtain ⟨reply, encodedReply⟩ := encodes version first
    have selected := Version.select_eq_some_iff.mpr first
    have idle : (create server).phase = .idle := rfl
    have served := handle_clientSetup_eq parameters answers idle selected encodedReply
    have readReply := (isSetup_serverSetup answers first.mem_ours).decode encodedReply
      client.skipUnknownMessages
    have role : (connecting client opening).config.role = .client := opens
    have joined := handle_serverSetup_eq (create server).setupParameters
      role rfl first.mem_theirs
    have limit := (announces_setupParameters (create server)).1
    exact ⟨version, _, reply, _, _, first, served, rfl, readReply, joined,
      rfl, rfl, rfl, rfl, limit, presents.limit⟩
  · intro disjoint
    exact handle_clientSetup_of_none parameters answers rfl
      (Version.select_eq_none_iff.mpr disjoint)

/-- A client that offers one version twice and names a path. -/
def offering : SessionConfig where
  versions := [1, 2, 1, Version.draft15]
  path := some "/live"

/-- A server that supports two of these versions, and another one before them. -/
def choosing : SessionConfig where
  role := .server
  versions := [3, 2, 1]
  maxRequestId := 7

/-- They settle on the version that comes first with the server among those offered. -/
theorem setup_agrees_offering :
    ∃ joined served, SetUp offering choosing 2 joined served := by
  have encoded : (create offering).clientSetup.encode = .ok [0x20, 38, 4, 1, 2, 1,
      0xc0, 0, 0, 0, 0xff, 0, 0, 0x0f, 3, 1, 5, 47, 108, 105, 118, 101, 2, 0x40, 0x64,
      7, 13, 109, 111, 113, 116, 45, 114, 115, 47, 48, 46, 49, 46, 48] := rfl
  have reply : ∃ reply,
      (Message.serverSetup 2 (create choosing).setupParameters).encode = .ok reply := ⟨_, rfl⟩
  have onlyTwo : ∀ version, Version.IsFirstCommon choosing.versions offering.versions version →
      2 = version := by
    intro version first
    have selected : Version.select choosing.versions offering.versions = some 2 := rfl
    exact Option.some.inj (selected.symm.trans (Version.select_eq_some_iff.mpr first))
  have client : offering.role = .client := rfl
  have server : choosing.role = .server := rfl
  obtain ⟨_, _, _, _, _, _, agreed, _⟩ := setup_agrees client server encoded
    fun version first => onlyTwo version first ▸ reply
  have shared : 1 ∈ offering.versions := List.mem_cons_self
  have supported : 1 ∈ choosing.versions := by decide
  obtain ⟨version, served, _, _, joined, first, _, _, _, _, setUp⟩ := agreed ⟨1, supported, shared⟩
  exact ⟨joined, served, onlyTwo version first ▸ setUp⟩

end Session

end MediaTransport
