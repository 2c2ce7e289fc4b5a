import Seabolt.Loading
import Seabolt.PackStream.Emission

/-!
# Prepared messages

The messages that a protocol state keeps to be filled in and loaded again and
again.  The setters change the fields of two of them, and the others are what
they were from the start.

Two connections with the same prepared messages and the same access mode answer
a request alike: with the same result, the same prepared messages and the same
bytes in the transmit buffer (`simulates_transmit`).
-/

namespace Seabolt

open PackStream

/-- The prepared messages of a protocol state. -/
structure PreparedMessages where
  run_request : BoltMessage
  begin_request : BoltMessage
  commit_request : BoltMessage
  rollback_request : BoltMessage
  discard_request : BoltMessage
  pull_request : BoltMessage
  reset_request : BoltMessage

def BoltProtocolState.prepared (state : BoltProtocolState) : PreparedMessages where
  run_request := state.run_request
  begin_request := state.begin_request
  commit_request := state.commit_request
  rollback_request := state.rollback_request
  discard_request := state.discard_request
  pull_request := state.pull_request
  reset_request := state.reset_request

/-- The prepared messages of a new protocol. -/
def ProtocolVersion.fresh (version : ProtocolVersion) : PreparedMessages :=
  (BoltProtocol.create version).state.prepared

/-! ## The shape of the messages -/

/-- The messages differ in their fields only, and not in the first `fixed` of
them. -/
structure BoltMessage.Like (fixed : Nat) (message message' : BoltMessage) : Prop where
  code : message'.code = message.code
  length : message'.fields.length = message.fields.length
  fields : message'.fields.take fixed = message.fields.take fixed

/-- The fields of the prepared BEGIN that no setter changes: in the first
version it is the RUN of a statement. -/
def ProtocolVersion.fixedBegin : ProtocolVersion → Nat
  | .v1 | .v2 => 1
  | .v3 => 0

/-- The messages are those of a new protocol, apart from the fields that the
setters change. -/
structure PreparedMessages.Shaped (version : ProtocolVersion) (messages : PreparedMessages) :
    Prop where
  run_request : version.fresh.run_request.Like 0 messages.run_request
  begin_request : version.fresh.begin_request.Like version.fixedBegin messages.begin_request
  others : messages = { version.fresh with
    run_request := messages.run_request, begin_request := messages.begin_request }

/-- A change of a message that keeps its shape. -/
def Reshapes (fixed : Nat) (change : BoltMessage → Outcome BoltMessage) : Prop :=
  ∀ message status message', change message = some (status, message') → message.Like fixed message'

theorem BoltMessage.Like.refl (fixed : Nat) (message : BoltMessage) : message.Like fixed message :=
  ⟨rfl, rfl, rfl⟩

theorem BoltMessage.Like.trans {fixed : Nat} {m1 m2 m3 : BoltMessage} (h : m1.Like fixed m2)
    (h' : m2.Like fixed m3) : m1.Like fixed m3 :=
  ⟨h'.code.trans h.code, h'.length.trans h.length, h'.fields.trans h.fields⟩

theorem PreparedMessages.shaped_fresh (version : ProtocolVersion) :
    version.fresh.Shaped version :=
  ⟨.refl _ _, .refl _ _, rfl⟩

/-- A change of a field behind the fixed ones. -/
theorem reshapes_update {fixed index : Nat} (hindex : fixed ≤ index)
    (change : BoltValue → Outcome BoltValue) : Reshapes fixed (·.update index change) := by
  intro message status message' h
  dsimp only [BoltMessage.update] at h
  split at h
  · cases h
  · obtain ⟨⟨status', value⟩, -, hresult⟩ := Option.map_eq_some_iff.mp h
    obtain ⟨-, rfl⟩ := Prod.mk.inj hresult
    exact ⟨rfl, List.length_set, List.take_set_of_le hindex⟩

theorem Reshapes.TRY {fixed : Nat} {change change' : BoltMessage → Outcome BoltMessage}
    (h : Reshapes fixed change) (h' : Reshapes fixed change') :
    Reshapes fixed fun message => Outcome.TRY (change message) change' := by
  intro message status message' htry
  rcases Outcome.TRY_cases htry with ⟨-, hfirst⟩ | ⟨middle, hfirst, hsecond⟩
  · exact h _ _ _ hfirst
  · exact (h _ _ _ hfirst).trans (h' _ _ _ hsecond)

/-! ## Sessions that are alike -/

/-- The sessions agree in all that decides what a request loads. -/
structure Alike (version : ProtocolVersion) (s1 s2 : Session) : Prop where
  ready1 : s1.TxReady
  ready2 : s2.TxReady
  access_mode : s2.1.access_mode = s1.1.access_mode
  prepared : s2.2.prepared = s1.2.prepared
  shaped : s1.2.prepared.Shaped version

/-- The same bytes have been appended to the transmit buffers of both
sessions. -/
def SameBytes (s1 s2 s1' s2' : Session) : Prop :=
  ∃ bytes, s1'.1.tx_buffer.content = s1.1.tx_buffer.content ++ bytes ∧
    s2'.1.tx_buffer.content = s2.1.tx_buffer.content ++ bytes

/-- The function does the same to sessions that are alike. -/
def ActsAlike (version : ProtocolVersion) (f : Session → Outcome Session) : Prop :=
  ∀ s1 s2, Alike version s1 s2 → ∀ status s1', f s1 = some (status, s1') →
    ∃ s2', f s2 = some (status, s2') ∧ Alike version s1' s2' ∧ SameBytes s1 s2 s1' s2'

variable {version : ProtocolVersion} {s1 s2 s1' s2' : Session}

theorem SameBytes.refl (s1 s2 : Session) : SameBytes s1 s2 s1 s2 :=
  ⟨[], (List.append_nil _).symm, (List.append_nil _).symm⟩

theorem SameBytes.trans {s1'' s2'' : Session} (h : SameBytes s1 s2 s1' s2')
    (h' : SameBytes s1' s2' s1'' s2'') : SameBytes s1 s2 s1'' s2'' := by
  obtain ⟨first, hfirst1, hfirst2⟩ := h
  obtain ⟨second, hsecond1, hsecond2⟩ := h'
  refine ⟨first ++ second, ?_, ?_⟩
  · rw [hsecond1, hfirst1, List.append_assoc]
  · rw [hsecond2, hfirst2, List.append_assoc]

namespace ActsAlike

/-- A function that returns and changes nothing. -/
theorem status (status : Int) : ActsAlike version fun session => some (status, session) := by
  intro s1 s2 h status' s1' hresult
  obtain ⟨rfl, rfl⟩ := Prod.mk.inj (Option.some.inj hresult)
  exact ⟨s2, rfl, h, .refl _ _⟩

theorem TRY {f g : Session → Outcome Session} (hf : ActsAlike version f)
    (hg : ActsAlike version g) : ActsAlike version fun session => Outcome.TRY (f session) g := by
  intro s1 s2 h status s1' htry
  rcases Outcome.TRY_cases htry with ⟨hstatus, hfirst⟩ | ⟨m1, hfirst, hsecond⟩
  · obtain ⟨s2', hfirst2, halike, hbytes⟩ := hf s1 s2 h status s1' hfirst
    refine ⟨s2', ?_, halike, hbytes⟩
    simp only [hfirst2, Outcome.TRY_error hstatus]
  · obtain ⟨m2, hfirst2, halike, hbytes⟩ := hf s1 s2 h _ m1 hfirst
    obtain ⟨s2', hsecond2, halike', hbytes'⟩ := hg m1 m2 halike status s1' hsecond
    refine ⟨s2', ?_, halike', hbytes.trans hbytes'⟩
    simp only [hfirst2, Outcome.TRY_success, hsecond2]

/-- A function that looks at the access mode. -/
theorem mode {f : BoltAccessMode → Session → Outcome Session}
    (hf : ∀ access_mode, ActsAlike version (f access_mode)) :
    ActsAlike version fun session => f session.1.access_mode session := by
  intro s1 s2 h status s1' hresult
  obtain ⟨s2', hresult2, hrest⟩ := hf _ s1 s2 h status s1' hresult
  refine ⟨s2', ?_, hrest⟩
  simp only [h.access_mode, hresult2]

/-- A setter of the prepared RUN. -/
theorem onRunRequest {change : BoltMessage → Outcome BoltMessage} (hchange : Reshapes 0 change) :
    ActsAlike version (Seabolt.onRunRequest change) := by
  intro s1 s2 h status s1' hresult
  obtain ⟨message, hmessage, rfl⟩ := onRunRequest_eq hresult
  have hrun : s2.2.run_request = s1.2.run_request := congrArg PreparedMessages.run_request h.prepared
  have hprepared := h.prepared
  simp only [BoltProtocolState.prepared, PreparedMessages.mk.injEq] at hprepared
  refine ⟨s2.prepare message s2.2.begin_request, ?_, ⟨?_, ?_, h.access_mode, ?_, ?_⟩, .refl _ _⟩
  · simp only [Seabolt.onRunRequest, hrun, hmessage, Option.map_some]
    rfl
  · exact ⟨h.ready1.connection, h.ready1.state, h.ready1.drained⟩
  · exact ⟨h.ready2.connection, h.ready2.state, h.ready2.drained⟩
  · simp only [BoltProtocolState.prepared, Session.prepare, PreparedMessages.mk.injEq]
    exact ⟨trivial, hprepared.2⟩
  · refine ⟨h.shaped.run_request.trans (hchange _ _ _ hmessage), h.shaped.begin_request, ?_⟩
    have hothers := h.shaped.others
    simp only [BoltProtocolState.prepared, PreparedMessages.mk.injEq] at hothers
    simp only [BoltProtocolState.prepared, Session.prepare, PreparedMessages.mk.injEq]
    exact ⟨trivial, trivial, hothers.2.2⟩

/-- A setter of the prepared BEGIN. -/
theorem onBeginRequest {change : BoltMessage → Outcome BoltMessage}
    (hchange : Reshapes version.fixedBegin change) :
    ActsAlike version (Seabolt.onBeginRequest change) := by
  intro s1 s2 h status s1' hresult
  obtain ⟨message, hmessage, rfl⟩ := onBeginRequest_eq hresult
  have hbegin : s2.2.begin_request = s1.2.begin_request :=
    congrArg PreparedMessages.begin_request h.prepared
  have hprepared := h.prepared
  simp only [BoltProtocolState.prepared, PreparedMessages.mk.injEq] at hprepared
  refine ⟨s2.prepare s2.2.run_request message, ?_, ⟨?_, ?_, h.access_mode, ?_, ?_⟩, .refl _ _⟩
  · simp only [Seabolt.onBeginRequest, hbegin, hmessage, Option.map_some]
    rfl
  · exact ⟨h.ready1.connection, h.ready1.state, h.ready1.drained⟩
  · exact ⟨h.ready2.connection, h.ready2.state, h.ready2.drained⟩
  · simp only [BoltProtocolState.prepared, Session.prepare, PreparedMessages.mk.injEq]
    exact ⟨hprepared.1, trivial, hprepared.2.2⟩
  · refine ⟨h.shaped.run_request, h.shaped.begin_request.trans (hchange _ _ _ hmessage), ?_⟩
    have hothers := h.shaped.others
    simp only [BoltProtocolState.prepared, PreparedMessages.mk.injEq] at hothers
    simp only [BoltProtocolState.prepared, Session.prepare, PreparedMessages.mk.injEq]
    exact ⟨trivial, trivial, hothers.2.2⟩

end ActsAlike

/-! ## Loading -/

/-- Two sessions with intact transmit buffers load a message alike. -/
theorem loadMessage_alike {check : CheckStructSignature} {message : BoltMessage} {status : Int}
    (h1 : s1.TxReady) (h2 : s2.TxReady)
    (hload : loadMessage check message s1 = some (status, s1')) :
    ∃ s2', loadMessage check message s2 = some (status, s2') ∧ s1'.TxReady ∧ s2'.TxReady ∧
      SameBytes s1 s2 s1' s2' := by
  obtain ⟨c1, state1⟩ := s1
  obtain ⟨c2, state2⟩ := s2
  obtain ⟨emission, hemits⟩ := @uniform_load check (.struct message.code message.fields)
  have hemits1 := hemits state1.tx_buffer h1.state
  have hemits2 := hemits state2.tx_buffer h2.state
  rcases emission with _ | ⟨status', bytes⟩
  · simp only [loadMessage, writeMessage_eq_load, hemits1] at hload
    cases hload
  · obtain ⟨w1, hwrite1, hgrows1, hcontent1⟩ := hemits1
    obtain ⟨w2, hwrite2, hgrows2, hcontent2⟩ := hemits2
    by_cases hsuccess : status' = BOLT_SUCCESS
    · obtain ⟨m1, t1, hpush1, hm1, ht1, hempty1, hframe1⟩ :=
        pushToTransmission_spec hgrows1.wf h1.connection
      obtain ⟨m2, t2, hpush2, hm2, ht2, hempty2, hframe2⟩ :=
        pushToTransmission_spec hgrows2.wf h2.connection
      have hsame : w2.content = w1.content := by
        rw [hcontent1, hcontent2, show state1.tx_buffer.content = [] from h1.drained,
          show state2.tx_buffer.content = [] from h2.drained]
      simp only [loadMessage, writeMessage_eq_load, hwrite1, hsuccess, if_true, hpush1,
        Option.map_some] at hload
      obtain ⟨rfl, rfl⟩ := Prod.mk.inj (Option.some.inj hload)
      refine ⟨({ c2 with tx_buffer := t2 }, { state2 with
        tx_buffer := m2, next_request_id := state2.next_request_id + 1 }), ?_, ⟨ht1, hm1, hempty1⟩,
        ⟨ht2, hm2, hempty2⟩, _, hframe1, ?_⟩
      · simp only [loadMessage, writeMessage_eq_load, hwrite2, hsuccess, if_true, hpush2,
          Option.map_some]
      · rw [← hsame]
        exact hframe2
    · obtain ⟨hwf1, hrestored1⟩ := hgrows1.restore h1.state
      obtain ⟨hwf2, hrestored2⟩ := hgrows2.restore h2.state
      simp only [loadMessage, writeMessage_eq_load, hwrite1, hsuccess, if_false] at hload
      obtain ⟨rfl, rfl⟩ := Prod.mk.inj (Option.some.inj hload)
      refine ⟨(c2, { state2 with tx_buffer := { w2 with
        cursor := state2.tx_buffer.cursor, extent := state2.tx_buffer.extent } }), ?_,
        ⟨h1.connection, hwf1, hrestored1.trans h1.drained⟩,
        ⟨h2.connection, hwf2, hrestored2.trans h2.drained⟩, .refl _ _⟩
      simp only [loadMessage, writeMessage_eq_load, hwrite2, hsuccess, if_false]

/-- Loading leaves the prepared messages as they are. -/
theorem SameApartFromTx.prepared (h : SameApartFromTx s1 s1') :
    s1'.2.prepared = s1.2.prepared := by
  rw [h.state]
  rfl

theorem SameApartFromTx.access_mode (h : SameApartFromTx s1 s1') :
    s1'.1.access_mode = s1.1.access_mode := by
  rw [h.connection]

namespace ActsAlike

/-- Loading one of the prepared messages. -/
theorem load {check : CheckStructSignature} {select : BoltProtocolState → BoltMessage}
    (hselect : ∀ state state' : BoltProtocolState, state'.prepared = state.prepared →
      select state' = select state) :
    ActsAlike version fun session => loadMessage check (select session.2) session := by
  intro s1 s2 h status s1' hload
  obtain ⟨s2', hload2, hready1, hready2, hbytes⟩ := loadMessage_alike h.ready1 h.ready2 hload
  have hsame1 := loadMessage_same hload
  have hsame2 := loadMessage_same hload2
  refine ⟨s2', ?_, ⟨hready1, hready2, ?_, ?_, ?_⟩, hbytes⟩
  · show loadMessage check (select s2.2) s2 = _
    rw [hselect _ _ h.prepared]
    exact hload2
  · rw [hsame1.access_mode, hsame2.access_mode, h.access_mode]
  · rw [hsame1.prepared, hsame2.prepared, h.prepared]
  · rw [hsame1.prepared]
    exact h.shaped

theorem loadAll {check : CheckStructSignature} {select : BoltProtocolState → BoltMessage} (n : Int)
    (hselect : ∀ state state' : BoltProtocolState, state'.prepared = state.prepared →
      select state' = select state) : ActsAlike version (Seabolt.loadAll check select n) := by
  unfold Seabolt.loadAll
  split_ifs
  · exact .status _
  · exact .load hselect

theorem loadReset {check : CheckStructSignature} : ActsAlike version (Seabolt.loadReset check) := by
  refine TRY (load fun _ _ h => congrArg PreparedMessages.reset_request h) ?_
  intro s1 s2 h status s1' hresult
  obtain ⟨rfl, rfl⟩ := Prod.mk.inj (Option.some.inj hresult)
  refine ⟨_, rfl, ⟨?_, ?_, h.access_mode, h.prepared, h.shaped⟩, .refl _ _⟩
  · exact ⟨h.ready1.connection, h.ready1.state, h.ready1.drained⟩
  · exact ⟨h.ready2.connection, h.ready2.state, h.ready2.drained⟩

theorem loadAndDiscard {check : CheckStructSignature} {select : BoltProtocolState → BoltMessage}
    (hselect : ∀ state state' : BoltProtocolState, state'.prepared = state.prepared →
      select state' = select state) :
    ActsAlike version (BoltProtocolV1.loadAndDiscard check select) :=
  TRY (load hselect) (load fun _ _ h => congrArg PreparedMessages.discard_request h)

theorem setRunCypher (cypher : List UInt8) (n_parameter : Nat) :
    ActsAlike version (Seabolt.setRunCypher cypher n_parameter) := by
  unfold Seabolt.setRunCypher
  split_ifs
  · exact .onRunRequest ((reshapes_update (Nat.zero_le _) _).TRY (reshapes_update (Nat.zero_le _) _))
  · exact .status _

theorem setRunCypherParameter (index : Nat) (name : List UInt8) (write : BoltValue → BoltValue) :
    ActsAlike version (Seabolt.setRunCypherParameter index name write) :=
  .onRunRequest (reshapes_update (Nat.zero_le _) _)

end ActsAlike

/-! ## Requests -/

theorem BoltProtocolV1.request_alike (hversion : version ≠ .v3) (check : CheckStructSignature)
    (request : Request) : ActsAlike version (BoltProtocolV1.request check request) := by
  have hfixed : version.fixedBegin ≤ 1 := by cases version <;> decide
  cases request with
  | clearBegin => exact .onBeginRequest (reshapes_update hfixed _)
  | setBeginBookmarks bookmark_list =>
    rcases bookmark_list with _ | bookmark_list
    · exact .onBeginRequest (reshapes_update hfixed _)
    · simp only [BoltProtocolV1.request, setBeginTxBookmark]
      split_ifs
      · exact .onBeginRequest (reshapes_update hfixed _)
      · exact .status _
  | setBeginTxTimeout timeout | setBeginTxMetadata metadata | setRunBookmarks bookmark_list
  | setRunTxTimeout timeout | setRunTxMetadata metadata => exact .status _
  | loadBeginRequest => exact .loadAndDiscard fun _ _ h => congrArg PreparedMessages.begin_request h
  | loadCommitRequest =>
    exact .loadAndDiscard fun _ _ h => congrArg PreparedMessages.commit_request h
  | loadRollbackRequest =>
    exact .loadAndDiscard fun _ _ h => congrArg PreparedMessages.rollback_request h
  | clearRun =>
    exact .onRunRequest ((reshapes_update (Nat.zero_le _) _).TRY (reshapes_update (Nat.zero_le _) _))
  | setRunCypher cypher n_parameter => exact .setRunCypher cypher n_parameter
  | setRunCypherParameter index name write => exact .setRunCypherParameter index name write
  | loadRunRequest => exact .load fun _ _ h => congrArg PreparedMessages.run_request h
  | loadDiscardRequest n => exact .loadAll n fun _ _ h => congrArg PreparedMessages.discard_request h
  | loadPullRequest n => exact .loadAll n fun _ _ h => congrArg PreparedMessages.pull_request h
  | loadResetRequest => exact .loadReset

theorem BoltProtocolV3.request_alike (check : CheckStructSignature) (request : Request) :
    ActsAlike .v3 (BoltProtocolV3.request check request) := by
  have hbegin : ∀ change : BoltValue → Outcome BoltValue,
      ActsAlike .v3 (onBeginRequest (·.update 0 change)) :=
    fun change => .onBeginRequest (reshapes_update le_rfl change)
  have hrun : ∀ change : BoltValue → Outcome BoltValue,
      ActsAlike .v3 (onRunRequest (·.update 2 change)) :=
    fun change => .onRunRequest (reshapes_update (Nat.zero_le 2) change)
  cases request with
  | clearBegin | setBeginBookmarks bookmark_list | setBeginTxTimeout timeout
  | setBeginTxMetadata metadata => exact hbegin _
  | loadBeginRequest =>
    have hmode := ActsAlike.mode fun access_mode => hbegin (setAccessMode access_mode)
    exact hmode.TRY (.load fun _ _ h => congrArg PreparedMessages.begin_request h)
  | loadCommitRequest => exact .load fun _ _ h => congrArg PreparedMessages.commit_request h
  | loadRollbackRequest => exact .load fun _ _ h => congrArg PreparedMessages.rollback_request h
  | clearRun =>
    refine .onRunRequest ((reshapes_update (Nat.zero_le _) _).TRY ?_)
    exact (reshapes_update (Nat.zero_le _) _).TRY (reshapes_update (Nat.zero_le _) _)
  | setRunCypher cypher n_parameter => exact .setRunCypher cypher n_parameter
  | setRunCypherParameter index name write => exact .setRunCypherParameter index name write
  | setRunBookmarks bookmark_list | setRunTxTimeout timeout | setRunTxMetadata metadata =>
    exact hrun _
  | loadRunRequest =>
    have hmode := ActsAlike.mode fun access_mode => hrun (setAccessMode access_mode)
    exact hmode.TRY (.load fun _ _ h => congrArg PreparedMessages.run_request h)
  | loadDiscardRequest n => exact .loadAll n fun _ _ h => congrArg PreparedMessages.discard_request h
  | loadPullRequest n => exact .loadAll n fun _ _ h => congrArg PreparedMessages.pull_request h
  | loadResetRequest => exact .loadReset

theorem ProtocolVersion.request_alike (version : ProtocolVersion) (request : Request) :
    ActsAlike version (version.request request) := by
  cases version with
  | v1 => exact BoltProtocolV1.request_alike (by decide : ProtocolVersion.v1 ≠ .v3) _ request
  | v2 => exact BoltProtocolV1.request_alike (by decide : ProtocolVersion.v2 ≠ .v3) _ request
  | v3 => exact BoltProtocolV3.request_alike _ request

namespace BoltConnection

/-- The connections are open with the same version of the protocol, and agree in
all that decides what a request loads. -/
def Alike (version : ProtocolVersion) (c1 c2 : BoltConnection) : Prop :=
  ∃ state1 state2, c1.protocol = some ⟨version, state1⟩ ∧ c2.protocol = some ⟨version, state2⟩ ∧
    Seabolt.Alike version (c1, state1) (c2, state2)

/-- A request, and the bytes that it appends to the transmit buffer. -/
def transmit : Runs.Step Request BoltConnection (Int × List UInt8) := fun request connection =>
  (connection.request request).map fun (result, connection') =>
    ((result, connection'.tx_buffer.content.drop connection.tx_buffer.content.length), connection')

variable {c1 c2 c1' : BoltConnection} {result : Int} {request : Request}

theorem tryStatus_alike (status : Int) (c1 c2 : BoltConnection) :
    (tryStatus status c2).1 = (tryStatus status c1).1 := by
  unfold tryStatus
  split_ifs <;> rfl

theorem tryStatus_kept (status : Int) (connection : BoltConnection) :
    (tryStatus status connection).2.protocol = connection.protocol ∧
    (tryStatus status connection).2.tx_buffer = connection.tx_buffer ∧
    (tryStatus status connection).2.access_mode = connection.access_mode := by
  rcases tryStatus_cases status connection with ⟨-, heq⟩ | ⟨-, -, heq⟩ | ⟨-, -, heq⟩
  · rw [heq]
    exact ⟨rfl, rfl, rfl⟩
  · rw [heq]
    exact ⟨rfl, rfl, rfl⟩
  · rw [heq, setStatus_eq]
    exact ⟨rfl, rfl, rfl⟩

/-- A request has the same effect on connections that are alike. -/
theorem request_alike (h : Alike version c1 c2) (h1 : c1.request request = some (result, c1')) :
    ∃ c2', c2.request request = some (result, c2') ∧ Alike version c1' c2' ∧
      ∃ bytes, c1'.tx_buffer.content = c1.tx_buffer.content ++ bytes ∧
        c2'.tx_buffer.content = c2.tx_buffer.content ++ bytes := by
  obtain ⟨state1, state2, hprotocol1, hprotocol2, halike⟩ := h
  simp only [BoltConnection.request, hprotocol1] at h1
  obtain ⟨⟨status, d1, state1'⟩, hrequest, hresult⟩ := Option.map_eq_some_iff.mp h1
  have htaken : Seabolt.Alike version ({ c1 with protocol := none }, state1)
      ({ c2 with protocol := none }, state2) :=
    ⟨⟨halike.ready1.connection, halike.ready1.state, halike.ready1.drained⟩,
      ⟨halike.ready2.connection, halike.ready2.state, halike.ready2.drained⟩,
      halike.access_mode, halike.prepared, halike.shaped⟩
  obtain ⟨⟨d2, state2'⟩, hrequest2, halike', bytes, hbytes1, hbytes2⟩ :=
    version.request_alike request _ _ htaken _ _ hrequest
  dsimp only at hresult hbytes1 hbytes2
  obtain ⟨hp1, ht1, ha1⟩ := tryStatus_kept status { d1 with protocol := some ⟨version, state1'⟩ }
  obtain ⟨hp2, ht2, ha2⟩ := tryStatus_kept status { d2 with protocol := some ⟨version, state2'⟩ }
  have hresult2 := tryStatus_alike status { d1 with protocol := some ⟨version, state1'⟩ }
    { d2 with protocol := some ⟨version, state2'⟩ }
  rw [hresult] at hp1 ht1 ha1 hresult2
  refine ⟨(tryStatus status { d2 with protocol := some ⟨version, state2'⟩ }).2, ?_, ?_, bytes,
    ?_, ?_⟩
  · simp only [BoltConnection.request, hprotocol2, hrequest2, Option.map_some, Option.some.injEq]
    exact Prod.ext hresult2 rfl
  · refine ⟨state1', state2', hp1, hp2, ⟨?_, halike'.ready1.state, halike'.ready1.drained⟩,
      ⟨?_, halike'.ready2.state, halike'.ready2.drained⟩, ?_, halike'.prepared, halike'.shaped⟩
    · show c1'.tx_buffer.Wf
      rw [ht1]
      exact halike'.ready1.connection
    · show (tryStatus _ _).2.tx_buffer.Wf
      rw [ht2]
      exact halike'.ready2.connection
    · show (tryStatus _ _).2.access_mode = c1'.access_mode
      rw [ha1, ha2]
      exact halike'.access_mode
  · rw [ht1]
    exact hbytes1
  · rw [ht2]
    exact hbytes2

/-- So have runs of requests. -/
theorem simulates_transmit (version : ProtocolVersion) :
    Runs.Simulates transmit transmit (Alike version) := by
  intro request c1 c2 reply c1' halike hstep
  obtain ⟨⟨result, c⟩, hrequest, hresult⟩ := Option.map_eq_some_iff.mp hstep
  obtain ⟨rfl, rfl⟩ := Prod.mk.inj hresult
  obtain ⟨c2', hrequest2, halike', bytes, hbytes1, hbytes2⟩ := request_alike halike hrequest
  refine ⟨c2', ?_, halike'⟩
  simp only [transmit, hrequest2, Option.map_some, hbytes1, hbytes2, List.drop_left]

end BoltConnection

end Seabolt
