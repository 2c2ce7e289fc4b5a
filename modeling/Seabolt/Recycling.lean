import Seabolt.Builders
import Seabolt.Ownership

/-!
# Recycled connections

What a user leaves in the prepared messages of a pooled connection, and what the
next user finds there.  A property of the prepared messages that new protocols
have is kept by everything the pool does to a connection (`Holds`).  Releasing a
connection makes its prepared messages those of a new protocol, and no other
connection without an agent has ever had others.

`requests_private` is the conclusion for two pools with any two histories.
-/

namespace Seabolt

open BoltValue PackStream

namespace BoltConnection

/-! ## Properties of the prepared messages -/

/-- The transmit buffers of an open connection are intact, and its prepared
messages have the property. -/
def Holds (P : ProtocolVersion → PreparedMessages → Prop) (connection : BoltConnection) : Prop :=
  ∀ version state, connection.protocol = some ⟨version, state⟩ →
    Session.TxReady (connection, state) ∧ P version state.prepared

/-- The prepared messages are those of a new protocol. -/
def Blank (version : ProtocolVersion) (messages : PreparedMessages) : Prop :=
  messages = version.fresh

/-- The prepared messages have the shape of those of a new protocol. -/
def Shaped (version : ProtocolVersion) (messages : PreparedMessages) : Prop :=
  messages.Shaped version

variable {P : ProtocolVersion → PreparedMessages → Prop} {connection connection' : BoltConnection}
  {result : Int}

theorem Holds.of_eq (h : Holds P connection) (hprotocol : connection'.protocol = connection.protocol)
    (htx : connection'.tx_buffer = connection.tx_buffer) : Holds P connection' := by
  intro version state hstate
  obtain ⟨hready, hP⟩ := h version state (hprotocol ▸ hstate)
  refine ⟨⟨?_, hready.state, hready.drained⟩, hP⟩
  show connection'.tx_buffer.Wf
  rw [htx]
  exact hready.connection

/-- A transmit buffer may be replaced by another that is intact. -/
theorem Holds.of_wf (h : Holds P connection) (hprotocol : connection'.protocol = connection.protocol)
    (htx : connection'.tx_buffer.Wf) : Holds P connection' := by
  intro version state hstate
  obtain ⟨hready, hP⟩ := h version state (hprotocol ▸ hstate)
  exact ⟨⟨htx, hready.state, hready.drained⟩, hP⟩

theorem holds_closed (h : connection.protocol = none) : Holds P connection := by
  intro version state hstate
  rw [h] at hstate
  cases hstate

theorem Holds.mono {Q : ProtocolVersion → PreparedMessages → Prop} (h : Holds P connection)
    (hPQ : ∀ version messages, P version messages → Q version messages) : Holds Q connection :=
  fun version state hstate => ⟨(h version state hstate).1, hPQ _ _ (h version state hstate).2⟩

theorem shaped_of_blank (version : ProtocolVersion) (messages : PreparedMessages)
    (h : Blank version messages) : Shaped version messages := by
  rw [show messages = version.fresh from h]
  exact PreparedMessages.shaped_fresh version

theorem Holds.setStatus (h : Holds P connection) (state : BoltConnectionState) (error : Int) :
    Holds P (connection.setStatus state error) :=
  h.of_eq (setStatus_protocol _ _ _) (setStatus_tx_buffer _ _ _)

theorem Holds.tryStatus (h : Holds P connection) (status : Int) :
    Holds P (tryStatus status connection).2 :=
  h.of_eq (tryStatus_kept status connection).1 (tryStatus_kept status connection).2.1

/-- All that is in the transmit buffer is sent, or thrown away. -/
theorem send_tx (h : connection.tx_buffer.Wf) :
    connection.send.2.tx_buffer.Wf ∧ connection.send.2.tx_buffer.content = [] := by
  have hall : connection.tx_buffer.content = connection.tx_buffer.content ++ [] :=
    (List.append_nil _).symm
  obtain ⟨b, hunload, hwf, hcontent, -⟩ := BoltBuffer.unloadPointer_of_content h hall
  rw [h.length_content] at hunload
  have htx : connection.send.2.tx_buffer = b.compact := by
    unfold send
    simp only [hunload]
    split_ifs
    · rw [setStatusFromComm, setStatus_tx_buffer]
    · rfl
  rw [htx, BoltBuffer.content_compact hwf]
  exact ⟨hwf.compact, hcontent⟩

theorem Holds.send (h : Holds P connection) : Holds P connection.send.2 := by
  intro version state hstate
  have hprotocol : connection.protocol = some ⟨version, state⟩ := by
    rw [← hstate, send_same]
  obtain ⟨hready, hP⟩ := h version state hprotocol
  exact ⟨⟨(send_tx hready.connection).1, hready.state, hready.drained⟩, hP⟩

/-- Loading a message that is not one of the prepared ones. -/
theorem Holds.loadMessage (h : Holds P connection) {message : BoltMessage}
    (hload : connection.loadMessage message = some (result, connection')) :
    Holds P connection' := by
  rcases hprotocol : connection.protocol with _ | ⟨version, state⟩
  · simp only [BoltConnection.loadMessage, hprotocol] at hload
    cases hload
  obtain ⟨hready, hP⟩ := h version state hprotocol
  have htaken : Session.TxReady ({ connection with protocol := none }, state) :=
    ⟨hready.connection, hready.state, hready.drained⟩
  simp only [BoltConnection.loadMessage, hprotocol] at hload
  obtain ⟨⟨status, session'⟩, hloaded, hresult⟩ := Option.map_eq_some_iff.mp hload
  obtain ⟨-, rfl⟩ := Prod.mk.inj hresult
  obtain ⟨-, -, hready', -, -⟩ := loadMessage_alike htaken htaken hloaded
  have hprepared := (Seabolt.loadMessage_same hloaded).prepared
  intro version' state' hstate
  obtain ⟨rfl, rfl⟩ := BoltProtocol.mk.inj (Option.some.inj hstate)
  refine ⟨⟨hready'.connection, hready'.state, hready'.drained⟩, ?_⟩
  rw [hprepared]
  exact hP

/-- Loading the RESET. -/
theorem Holds.loadReset (h : Holds P connection)
    (hload : connection.loadResetRequest = some (result, connection')) : Holds P connection' := by
  rcases hprotocol : connection.protocol with _ | ⟨version, state⟩
  · simp only [loadResetRequest, request, hprotocol] at hload
    cases hload
  obtain ⟨hready, hP⟩ := h version state hprotocol
  have htaken : Session.TxReady ({ connection with protocol := none }, state) :=
    ⟨hready.connection, hready.state, hready.drained⟩
  simp only [loadResetRequest, request, hprotocol] at hload
  obtain ⟨⟨status, session'⟩, hrequest, hresult⟩ := Option.map_eq_some_iff.mp hload
  have hreset : Seabolt.loadReset version.checkWritableStruct
      ({ connection with protocol := none }, state) = some (status, session') := by
    cases version with
    | v1 => exact hrequest
    | v2 => exact hrequest
    | v3 => exact hrequest
  have hkept : session'.TxReady ∧ session'.2.prepared = state.prepared := by
    rcases Outcome.TRY_cases hreset with ⟨-, hfailed⟩ | ⟨loaded, hloaded, hdone⟩
    · obtain ⟨-, -, hready', -, -⟩ := loadMessage_alike htaken htaken hfailed
      exact ⟨hready', (Seabolt.loadMessage_same hfailed).prepared⟩
    · obtain ⟨-, -, hready', -, -⟩ := loadMessage_alike htaken htaken hloaded
      obtain ⟨-, rfl⟩ := Prod.mk.inj (Option.some.inj hdone)
      exact ⟨⟨hready'.connection, hready'.state, hready'.drained⟩,
        (Seabolt.loadMessage_same hloaded).prepared⟩
  have hholds : Holds P { session'.1 with protocol := some ⟨version, session'.2⟩ } := by
    intro version' state' hstate
    obtain ⟨rfl, rfl⟩ := BoltProtocol.mk.inj (Option.some.inj hstate)
    refine ⟨⟨hkept.1.connection, hkept.1.state, hkept.1.drained⟩, ?_⟩
    rw [hkept.2]
    exact hP
  have htried := hholds.tryStatus status
  dsimp only at hresult
  rwa [hresult] at htried

/-- Fetching a message. -/
theorem Holds.protocolFetch (h : Holds P connection) {request : Nat}
    (hfetch : connection.protocolFetch request = some (result, connection')) :
    Holds P connection' := by
  obtain ⟨version, state, state', hprotocol, hprotocol', hsteady⟩ := protocolFetch_steady hfetch
  obtain ⟨hready, hP⟩ := h version state hprotocol
  have htx := congrArg tx_buffer hsteady.connection.same
  dsimp only at htx
  have hstate := hsteady.state
  dsimp only at hstate
  intro version1 state1 hprotocol1
  rw [hprotocol'] at hprotocol1
  obtain ⟨rfl, rfl⟩ := BoltProtocol.mk.inj (Option.some.inj hprotocol1)
  have hprepared : state'.prepared = state.prepared := by
    rw [hstate]
    rfl
  have hmessage : state'.tx_buffer = state.tx_buffer := by rw [hstate]
  refine ⟨⟨?_, ?_, ?_⟩, by rwa [hprepared]⟩
  · show connection'.tx_buffer.Wf
    rw [htx]
    exact hready.connection
  · show state'.tx_buffer.Wf
    rw [hmessage]
    exact hready.state
  · show state'.tx_buffer.content = []
    rw [hmessage]
    exact hready.drained

theorem Holds.reported (h : Holds P connection) (result : Int) :
    Holds P (reported result connection).2 := by
  rcases reported_cases result connection with ⟨-, heq⟩ | ⟨-, -, heq⟩ | ⟨status, -, -, heq⟩
  · rwa [heq]
  · rwa [heq]
  · rw [heq]
    exact h.setStatus _ _

theorem Holds.fetchSummary (h : Holds P connection) {request : Nat}
    (hfetch : connection.fetchSummary request = some (result, connection')) :
    Holds P connection' := by
  obtain ⟨results, last, final, hreads, rfl, -⟩ := fetchSummary_reads hfetch
  have hfinal : Holds P final := Runs.keeps_of_run
    (fun _ _ _ _ hholds hstep => hholds.protocolFetch hstep) _ h hreads.run
  exact hfinal.reported last

/-! ## Closing and opening -/

theorem protocol_of_close_ (h : connection.close_ = some connection') : connection'.protocol = none := by
  obtain ⟨closed, hclosed, rfl⟩ := Option.map_eq_some_iff.mp h
  rw [setStatus_protocol]
  split_ifs at hclosed with hopen
  · obtain ⟨left, -, rfl⟩ := Option.map_eq_some_iff.mp hclosed
    rfl
  · obtain rfl := Option.some.inj hclosed
    exact Option.not_isSome_iff_eq_none.mp hopen

theorem Holds.close (h : Holds P connection) (hclose : connection.close = some connection') :
    Holds P connection' := by
  obtain ⟨closed, hclosed, rfl⟩ := Option.map_eq_some_iff.mp hclose
  split_ifs at hclosed
  · have hnone : closed.protocol = none := protocol_of_close_ hclosed
    exact holds_closed hnone
  · obtain rfl := Option.some.inj hclosed
    exact h.of_wf rfl (BoltBuffer.wf_create 0)

theorem protocolOf_eq {protocol_version : Int} {protocol : BoltProtocol}
    (h : protocolOf protocol_version = some protocol) :
    ∃ version, protocol = BoltProtocol.create version := by
  unfold protocolOf at h
  split_ifs at h
  all_goals exact ⟨_, (Option.some.inj h).symm⟩

/-- A new protocol has nothing in its buffer. -/
theorem create_version (version : ProtocolVersion) :
    (BoltProtocol.create version).version = version ∧
      (BoltProtocol.create version).state.tx_buffer = .create INITIAL_TX_BUFFER_SIZE := by
  cases version with
  | v1 => exact ⟨rfl, rfl⟩
  | v2 => exact ⟨rfl, rfl⟩
  | v3 => exact ⟨rfl, rfl⟩

section Fresh

variable (hfresh : ∀ version : ProtocolVersion, P version version.fresh)

include hfresh

theorem holds_negotiated {protocol_version : Int} (htx : connection.tx_buffer.Wf)
    (h : connection.negotiated protocol_version = some (result, connection')) :
    Holds P connection' := by
  unfold negotiated at h
  dsimp only at h
  split at h
  · next protocol hprotocol =>
    obtain ⟨-, rfl⟩ := Prod.mk.inj (Option.some.inj h)
    obtain ⟨version, rfl⟩ := protocolOf_eq hprotocol
    obtain ⟨hversion, hbuffer⟩ := create_version version
    intro version' state hstate
    dsimp only at hstate
    obtain rfl : state = (BoltProtocol.create version).state :=
      (congrArg BoltProtocol.state (Option.some.inj hstate)).symm
    obtain rfl : version' = version := by
      rw [← hversion]
      exact (congrArg BoltProtocol.version (Option.some.inj hstate)).symm
    refine ⟨⟨htx, ?_, ?_⟩, hfresh version'⟩
    · show BoltBuffer.Wf (BoltProtocolState.tx_buffer _)
      rw [hbuffer]
      exact BoltBuffer.wf_create _
    · show BoltBuffer.content (BoltProtocolState.tx_buffer _) = []
      rw [hbuffer, BoltBuffer.content_create]
  · obtain ⟨closed, hclose, hresult⟩ := Option.map_eq_some_iff.mp h
    obtain ⟨-, rfl⟩ := Prod.mk.inj hresult
    exact holds_closed (protocol_of_close_ hclose)

theorem Holds.handshakeB {v1 v2 v3 v4 : Nat} (hholds : Holds P connection)
    (htx : connection.tx_buffer.Wf)
    (h : connection.handshakeB v1 v2 v3 v4 = some (result, connection')) : Holds P connection' := by
  unfold BoltConnection.handshakeB at h
  dsimp only at h
  split_ifs at h
  · obtain ⟨-, rfl⟩ := Prod.mk.inj (Option.some.inj h)
    refine Holds.setStatus ?_ _ _
    exact hholds.of_eq rfl rfl
  · obtain ⟨-, rfl⟩ := Prod.mk.inj (Option.some.inj h)
    refine Holds.setStatus ?_ _ _
    exact hholds.of_eq rfl rfl
  · refine holds_negotiated hfresh ?_ h
    exact htx

theorem Holds.openDisconnected {target : Target} (hholds : Holds P connection)
    (h : connection.openDisconnected target = some (result, connection')) :
    Holds P connection' := by
  unfold BoltConnection.openDisconnected at h
  dsimp only at h
  split_ifs at h
  · obtain ⟨⟨status, connection1⟩, hhandshake, hresult⟩ := Option.map_eq_some_iff.mp h
    dsimp only at hresult
    have hopened : Holds P connection1 := by
      refine Holds.handshakeB hfresh ?_ (BoltBuffer.wf_create _) hhandshake
      exact hholds.of_wf rfl (BoltBuffer.wf_create _)
    have htried := hopened.tryStatus status
    split_ifs at hresult
    · obtain ⟨-, rfl⟩ := Prod.mk.inj hresult
      exact htried
    all_goals
      obtain ⟨-, rfl⟩ := Prod.mk.inj hresult
      exact htried.setStatus _ _
  · obtain ⟨-, rfl⟩ := Prod.mk.inj (Option.some.inj h)
    refine Holds.setStatus ?_ _ _
    exact hholds.of_eq rfl rfl

theorem Holds.openAt {target : Target} (hholds : Holds P connection)
    (h : connection.openAt target = some (result, connection')) : Holds P connection' := by
  unfold BoltConnection.openAt at h
  split_ifs at h
  · obtain ⟨closed, hclose, hopen⟩ := Option.bind_eq_some_iff.mp h
    exact (hholds.close hclose).openDisconnected hfresh hopen
  · exact hholds.openDisconnected hfresh h

end Fresh

theorem Holds.init {user_agent : List UInt8} {auth_token : BoltValue} (hholds : Holds P connection)
    (h : connection.init user_agent auth_token = some (result, connection')) :
    Holds P connection' := by
  unfold BoltConnection.init at h
  split_ifs at h
  · split at h
    · cases h
    obtain ⟨⟨code, final⟩, hinit, hresult⟩ := Option.map_eq_some_iff.mp h
    have hfinal : Holds P final := by
      obtain ⟨message, -, hinit⟩ := Option.bind_eq_some_iff.mp hinit
      rcases Outcome.TRY_cases hinit with ⟨-, hload⟩ | ⟨loaded, hload, hinit⟩
      · exact hholds.loadMessage hload
      have hsent := (hholds.loadMessage hload).send
      obtain ⟨request, -, hinit⟩ := Option.bind_eq_some_iff.mp hinit
      rcases Outcome.TRY_cases hinit with ⟨-, hsend⟩ | ⟨sent, hsend, hinit⟩
      · rwa [Option.some.inj hsend] at hsent
      rw [Option.some.inj hsend] at hsent
      rcases Outcome.TRY_cases hinit with ⟨-, hfetch⟩ | ⟨fetched, hfetch, hinit⟩
      · exact hsent.fetchSummary hfetch
      obtain ⟨protocol, -, hresult⟩ := Option.map_eq_some_iff.mp hinit
      obtain ⟨-, rfl⟩ := Prod.mk.inj hresult
      exact hsent.fetchSummary hfetch
    dsimp only at hresult
    unfold initialised at hresult
    split_ifs at hresult
    all_goals
      obtain ⟨-, rfl⟩ := Prod.mk.inj hresult
      exact hfinal.setStatus _ _
  · obtain ⟨-, rfl⟩ := Prod.mk.inj (Option.some.inj h)
    exact hholds.setStatus _ _

theorem Holds.reset (hholds : Holds P connection)
    (h : connection.reset = some (result, connection')) : Holds P connection' := by
  obtain ⟨status, loaded, hload, hcase⟩ := reset_cases h
  have hloaded := hholds.loadReset hload
  rcases hcase with ⟨-, -, rfl⟩ | ⟨-, request_id, records, -, ⟨-, -, rfl⟩ | ⟨hfetch, -⟩⟩
  · exact hloaded
  · exact hloaded.send
  · exact hloaded.send.fetchSummary hfetch

/-! ## What a user does -/

/-- Requests keep the shape of the prepared messages. -/
theorem Holds.request (h : Holds Shaped connection) {request : Request}
    (hrequest : connection.request request = some (result, connection')) :
    Holds Shaped connection' := by
  rcases hprotocol : connection.protocol with _ | ⟨version, state⟩
  · simp only [BoltConnection.request, hprotocol] at hrequest
    cases hrequest
  obtain ⟨hready, hshaped⟩ := h version state hprotocol
  have halike : Alike version connection connection :=
    ⟨state, state, hprotocol, hprotocol, hready, hready, rfl, rfl, hshaped⟩
  obtain ⟨final, -, ⟨state1, state', hprotocol1, -, halike'⟩, -⟩ := request_alike halike hrequest
  intro version2 state2 hprotocol2
  rw [hprotocol1] at hprotocol2
  obtain ⟨rfl, rfl⟩ := BoltProtocol.mk.inj (Option.some.inj hprotocol2)
  exact ⟨halike'.ready1, halike'.shaped⟩

theorem Holds.perform (h : Holds Shaped connection) {operation : Operation}
    (hperform : perform operation connection = some (result, connection')) :
    Holds Shaped connection' := by
  have hfresh : ∀ version : ProtocolVersion, Shaped version version.fresh :=
    PreparedMessages.shaped_fresh
  cases operation with
  | openAt target => exact h.openAt hfresh hperform
  | init user_agent auth_token => exact h.init hperform
  | request request => exact h.request hperform
  | send =>
    simp only [BoltConnection.perform] at hperform
    split_ifs at hperform
    have hsent := h.send
    rwa [Option.some.inj hperform] at hsent
  | fetch request =>
    simp only [BoltConnection.perform, fetch_eq] at hperform
    obtain ⟨⟨fetched, connection1⟩, hfetch, hresult⟩ := Option.map_eq_some_iff.mp hperform
    have hreported := (h.protocolFetch hfetch).reported fetched
    dsimp only at hresult
    rwa [hresult] at hreported
  | fetchSummary request => exact h.fetchSummary hperform
  | reset => exact h.reset hperform
  | close =>
    obtain ⟨closed, hclose, hresult⟩ := Option.map_eq_some_iff.mp hperform
    obtain ⟨-, rfl⟩ := Prod.mk.inj hresult
    exact h.close hclose

/-! ## Clearing -/

/-- `clear_run` makes the prepared RUN that of a new protocol. -/
theorem request_clearRun {version : ProtocolVersion} {session session' : Session} {status : Int}
    (hshaped : session.2.prepared.Shaped version)
    (h : version.request .clearRun session = some (status, session')) :
    session' = session.prepare version.fresh.run_request session.2.begin_request := by
  obtain ⟨hcode, hlength, -⟩ := hshaped.run_request
  rcases hrun : session.2.run_request with ⟨code, fields⟩
  simp only [BoltProtocolState.prepared, hrun] at hcode hlength
  cases version with
  | v1 | v2 =>
    simp only [ProtocolVersion.request, BoltProtocolV1.request,
      BoltProtocolV1.clearLoadRunRequest] at h
    obtain ⟨message, hmessage, rfl⟩ := onRunRequest_eq h
    obtain ⟨a, b, rfl⟩ := List.length_eq_two.mp hlength
    rw [hrun] at hmessage
    simp only [BoltMessage.update, always, List.getElem?_cons_zero, List.getElem?_cons_succ,
      Option.map_some, Outcome.TRY_success, List.set_cons_zero, List.set_cons_succ,
      formatAsDictionary_zero, Option.some.injEq, Prod.mk.injEq] at hmessage
    rw [← hmessage.2, hcode]
    rfl
  | v3 =>
    obtain ⟨message, hmessage, rfl⟩ := onRunRequest_eq h
    obtain ⟨a, b, c, rfl⟩ := List.length_eq_three.mp hlength
    rw [hrun] at hmessage
    simp only [BoltProtocolV3.clearRunMessage, BoltMessage.update, always, List.getElem?_cons_zero,
      List.getElem?_cons_succ, Option.map_some, Outcome.TRY_success, List.set_cons_zero,
      List.set_cons_succ, formatAsDictionary_zero, Option.some.injEq, Prod.mk.injEq] at hmessage
    rw [← hmessage.2, hcode]
    rfl

/-- `clear_begin_tx` makes the prepared BEGIN that of a new protocol. -/
theorem request_clearBegin {version : ProtocolVersion} {session session' : Session} {status : Int}
    (hshaped : session.2.prepared.Shaped version)
    (h : version.request .clearBegin session = some (status, session')) :
    session' = session.prepare session.2.run_request version.fresh.begin_request := by
  obtain ⟨hcode, hlength, hfields⟩ := hshaped.begin_request
  rcases hbegin : session.2.begin_request with ⟨code, fields⟩
  simp only [BoltProtocolState.prepared, hbegin] at hcode hlength hfields
  cases version with
  | v1 | v2 =>
    simp only [ProtocolVersion.request, BoltProtocolV1.request,
      BoltProtocolV1.clearLoadBeginTxRequest] at h
    obtain ⟨message, hmessage, rfl⟩ := onBeginRequest_eq h
    obtain ⟨a, b, rfl⟩ := List.length_eq_two.mp hlength
    rw [hbegin] at hmessage
    simp only [BoltMessage.update, always, List.getElem?_cons_zero, List.getElem?_cons_succ,
      Option.map_some, List.set_cons_zero, List.set_cons_succ,
      formatAsDictionary_zero, Option.some.injEq, Prod.mk.injEq] at hmessage
    rw [← hmessage.2, hcode, (List.cons.inj hfields).1]
    rfl
  | v3 =>
    obtain ⟨message, hmessage, rfl⟩ := onBeginRequest_eq h
    obtain ⟨a, rfl⟩ := List.length_eq_one_iff.mp hlength
    rw [hbegin] at hmessage
    simp only [BoltProtocolV3.clearBeginTxMessage, BoltMessage.update, always,
      List.getElem?_cons_zero, Option.map_some, List.set_cons_zero, formatAsDictionary_zero,
      Option.some.injEq, Prod.mk.injEq] at hmessage
    rw [← hmessage.2, hcode]
    rfl

/-- A call of `clear_run` by the pool. -/
theorem Holds.clearRun (h : Holds Shaped connection)
    (hclear : connection.callProtocol .clearRun = some connection') :
    Holds (fun version messages => Shaped version messages ∧
      messages.run_request = version.fresh.run_request) connection' := by
  rcases hprotocol : connection.protocol with _ | ⟨version, state⟩
  · simp only [callProtocol, hprotocol] at hclear
    cases hclear
  obtain ⟨hready, hshaped⟩ := h version state hprotocol
  simp only [callProtocol, hprotocol] at hclear
  obtain ⟨⟨status, session'⟩, hrequest, rfl⟩ := Option.map_eq_some_iff.mp hclear
  obtain rfl := @request_clearRun version ({ connection with protocol := none }, state) session'
    status hshaped hrequest
  intro version1 state1 hprotocol1
  obtain ⟨rfl, rfl⟩ := BoltProtocol.mk.inj (Option.some.inj hprotocol1)
  refine ⟨⟨hready.connection, hready.state, hready.drained⟩, ⟨.refl _ _, hshaped.begin_request, ?_⟩,
    rfl⟩
  have hothers := hshaped.others
  simp only [BoltProtocolState.prepared, PreparedMessages.mk.injEq] at hothers
  simp only [BoltProtocolState.prepared, Session.prepare, PreparedMessages.mk.injEq]
  exact ⟨trivial, trivial, hothers.2.2⟩

/-- The call of `clear_begin_tx` behind it. -/
theorem Holds.clearBegin (h : Holds (fun version messages => Shaped version messages ∧
      messages.run_request = version.fresh.run_request) connection)
    (hclear : connection.callProtocol .clearBegin = some connection') : Holds Blank connection' := by
  rcases hprotocol : connection.protocol with _ | ⟨version, state⟩
  · simp only [callProtocol, hprotocol] at hclear
    cases hclear
  obtain ⟨hready, hshaped, hrun⟩ := h version state hprotocol
  simp only [callProtocol, hprotocol] at hclear
  obtain ⟨⟨status, session'⟩, hrequest, rfl⟩ := Option.map_eq_some_iff.mp hclear
  obtain rfl := @request_clearBegin version ({ connection with protocol := none }, state) session'
    status hshaped hrequest
  intro version1 state1 hprotocol1
  obtain ⟨rfl, rfl⟩ := BoltProtocol.mk.inj (Option.some.inj hprotocol1)
  refine ⟨⟨hready.connection, hready.state, hready.drained⟩, ?_⟩
  have hothers := hshaped.others
  rw [hrun] at hothers
  simp only [BoltProtocolState.prepared, PreparedMessages.mk.injEq] at hothers hrun
  simp only [Blank, BoltProtocolState.prepared, Session.prepare]
  rw [hrun, hothers.2.2.1, hothers.2.2.2.1, hothers.2.2.2.2.1, hothers.2.2.2.2.2.1,
    hothers.2.2.2.2.2.2]

end BoltConnection

/-! ## The connections of a pool -/

namespace BoltConnection

/-- A property of connections that the pool's own work on them keeps. -/
structure Lasting (Q : BoltConnection → Prop) : Prop where
  close : ∀ connection connection', Q connection → connection.close = some connection' →
    Q connection'
  openAt : ∀ target result connection connection', Q connection →
    connection.openAt target = some (result, connection') → Q connection'
  init : ∀ user_agent auth_token result connection connection', Q connection →
    connection.init user_agent auth_token = some (result, connection') → Q connection'
  reset : ∀ result connection connection', Q connection →
    connection.reset = some (result, connection') → Q connection'

/-- A connection is fit to be in a pool if its prepared messages have the shape
of those of a new protocol, and are just those as long as it has no agent. -/
structure Tidy (connection : BoltConnection) : Prop where
  shaped : Holds Shaped connection
  blank : connection.agent = false → Holds Blank connection

theorem lasting_tidy : Lasting Tidy where
  close connection connection' h hclose := by
    refine ⟨h.shaped.close hclose, fun hagent => (h.blank ?_).close hclose⟩
    rw [← (respects_close hclose).agent, hagent]
  openAt target result connection connection' h hopen := by
    refine ⟨h.shaped.openAt PreparedMessages.shaped_fresh hopen, fun hagent => ?_⟩
    refine (h.blank ?_).openAt (fun _ => rfl) hopen
    rw [← (respects_openAt hopen).agent, hagent]
  init user_agent auth_token result connection connection' h hinit := by
    refine ⟨h.shaped.init hinit, fun hagent => (h.blank ?_).init hinit⟩
    rw [← (respects_init hinit).agent, hagent]
  reset result connection connection' h hreset := by
    refine ⟨h.shaped.reset hreset, fun hagent => (h.blank ?_).reset hreset⟩
    rw [← (respects_reset hreset).agent, hagent]

end BoltConnection

namespace BoltDirectPool

variable {pool pool' : BoltDirectPool} {index : Nat} {result : Int} {surroundings : Surroundings}
  {Q : BoltConnection → Prop}

/-- All connections of the pool have the property. -/
def All (Q : BoltConnection → Prop) (pool : BoltDirectPool) : Prop :=
  ∀ connection ∈ pool.connections, Q connection

theorem All.set (h : All Q pool) {connection : BoltConnection} (hQ : Q connection) :
    All Q { pool with connections := pool.connections.set index connection } := by
  intro c hc
  rcases List.mem_or_eq_of_mem_set hc with hold | rfl
  · exact h c hold
  · exact hQ

theorem All.onConnection {work : BoltConnection → Outcome BoltConnection} (h : All Q pool)
    (hwork : ∀ connection connection', Q connection →
      work connection = some (result, connection') → Q connection')
    (hdone : pool.onConnection index work = some (result, pool')) : All Q pool' := by
  obtain ⟨connection, connection', hentry, hworked, rfl⟩ := onConnection_cases hdone
  exact h.set (hwork _ _ (h _ (List.mem_of_getElem? hentry)) hworked)

section Lasting

variable (hQ : BoltConnection.Lasting Q)

include hQ

theorem All.closePoolEntry (h : All Q pool) (hclose : pool.closePoolEntry index = some pool') :
    All Q pool' := by
  obtain ⟨⟨status, closed⟩, hdone, rfl⟩ := Option.map_eq_some_iff.mp hclose
  refine h.onConnection (fun connection connection' hc hwork => ?_) hdone
  split_ifs at hwork
  · obtain ⟨left, hleft, hresult⟩ := Option.map_eq_some_iff.mp hwork
    obtain ⟨-, rfl⟩ := Prod.mk.inj hresult
    exact hQ.close _ _ hc hleft
  · obtain ⟨-, rfl⟩ := Prod.mk.inj (Option.some.inj hwork)
    exact hc

theorem All.init (h : All Q pool) (hinit : pool.init index = some (result, pool')) :
    All Q pool' := by
  refine h.onConnection (fun connection connection' hc hwork => ?_) hinit
  obtain ⟨⟨status, left⟩, hinit, hresult⟩ := Option.map_eq_some_iff.mp hwork
  obtain ⟨-, rfl⟩ := Prod.mk.inj hresult
  exact hQ.init _ _ _ _ _ hc hinit

theorem All.openInit (h : All Q pool)
    (hopen : pool.openInit surroundings index = some (result, pool')) : All Q pool' := by
  unfold BoltDirectPool.openInit at hopen
  split_ifs at hopen
  · obtain ⟨-, rfl⟩ := Prod.mk.inj (Option.some.inj hopen)
    exact h
  · obtain ⟨⟨opened, pool1⟩, hconnection, hopen⟩ := Option.bind_eq_some_iff.mp hopen
    have hall : All Q pool1 :=
      h.onConnection (fun _ _ hc hwork => hQ.openAt _ _ _ _ hc hwork) hconnection
    dsimp only at hopen
    split_ifs at hopen
    · exact hall.init hQ hopen
    · obtain ⟨-, rfl⟩ := Prod.mk.inj (Option.some.inj hopen)
      exact hall

theorem All.revive (h : All Q pool)
    (hrevive : pool.revive surroundings index = some (result, pool')) : All Q pool' := by
  unfold BoltDirectPool.revive at hrevive
  split at hrevive
  · cases hrevive
  · split at hrevive
    · exact h.openInit hQ hrevive
    · exact h.openInit hQ hrevive
    · exact h.init hQ hrevive
    · obtain ⟨⟨done, pool1⟩, hreset, hrevive⟩ := Option.bind_eq_some_iff.mp hrevive
      have hall : All Q pool1 := h.onConnection (fun _ _ hc hwork => hQ.reset _ _ _ hc hwork) hreset
      dsimp only at hrevive
      split_ifs at hrevive
      · obtain ⟨-, rfl⟩ := Prod.mk.inj (Option.some.inj hrevive)
        exact hall
      · exact hall.openInit hQ hrevive
    · obtain ⟨-, rfl⟩ := Prod.mk.inj (Option.some.inj hrevive)
      exact h

theorem All.findUnusedConnection (h : All Q pool) {age : Int} {found : Option Nat}
    (hfind : pool.findUnusedConnection age = some (found, pool')) : All Q pool' := by
  unfold BoltDirectPool.findUnusedConnection at hfind
  split_ifs at hfind
  · obtain ⟨-, rfl⟩ := Prod.mk.inj (Option.some.inj hfind)
    exact h
  · split at hfind
    · obtain ⟨-, rfl⟩ := Prod.mk.inj (Option.some.inj hfind)
      exact h
    · split_ifs at hfind
      · obtain ⟨closed, hclose, hresult⟩ := Option.map_eq_some_iff.mp hfind
        obtain ⟨-, rfl⟩ := Prod.mk.inj hresult
        exact h.closePoolEntry hQ hclose
      · obtain ⟨-, rfl⟩ := Prod.mk.inj (Option.some.inj hfind)
        exact h

end Lasting

/-- The connection that an acquisition returns has the prepared messages of a
new protocol. -/
theorem acquire_blank (h : All BoltConnection.Tidy pool) {acquired : Acquired}
    (hacquire : pool.acquire surroundings = some (acquired, pool')) :
    All BoltConnection.Tidy pool' ∧ ∀ i status connection, acquired = .returned (some i) status →
      pool'.connections[i]? = some connection →
      BoltConnection.Holds BoltConnection.Blank connection := by
  rcases acquire_inv hacquire with
    ⟨hfind, rfl⟩ | ⟨i, pool1, pool2, pool_error, connection, hfind, hrevive, hentry, hround⟩
  · exact ⟨h.findUnusedConnection BoltConnection.lasting_tidy hfind,
      fun i status _ hi => absurd hi withoutConnection_ne⟩
  have htidy := (h.findUnusedConnection BoltConnection.lasting_tidy hfind).revive
    BoltConnection.lasting_tidy hrevive
  have hconnection := htidy connection (List.mem_of_getElem? hentry)
  rcases findUnusedConnection_cases hfind with ⟨hnone, -⟩ | ⟨j, hsome, hfree, -, hfound⟩
  · cases hnone
  obtain rfl := Option.some.inj hsome
  have hagent : connection.agent = false := by
    rw [← (hfound.trans (revive_works hrevive)).agents, agents, List.getElem?_map, hentry] at hfree
    exact Option.some.inj hfree
  have hblank : BoltConnection.Holds BoltConnection.Blank { connection with agent := true } :=
    (hconnection.blank hagent).of_eq rfl rfl
  rcases hround with ⟨-, rfl, rfl⟩ | ⟨-, rfl, rfl⟩
  · refine ⟨htidy.set ⟨hblank.mono BoltConnection.shaped_of_blank, fun _ => hblank⟩, ?_⟩
    intro k status c hk hc
    obtain ⟨rfl⟩ : i = k := Option.some.inj (Acquired.returned.inj hk).1
    obtain ⟨hlt, -⟩ := List.getElem?_eq_some_iff.mp hentry
    rw [List.getElem?_set_self hlt] at hc
    rwa [← Option.some.inj hc]
  · exact ⟨htidy, fun i status _ hi => absurd hi withoutConnection_ne⟩

/-- A released connection has them, too. -/
theorem recycle_tidy (h : All BoltConnection.Tidy pool) (hrecycle : pool.recycle index = some pool') :
    All BoltConnection.Tidy pool' := by
  obtain ⟨c, c1, c2, c3, done, c', hentry, hrun, hbegin, hreset, hleft, rfl⟩ := recycle_cases hrecycle
  have hshaped : BoltConnection.Holds BoltConnection.Shaped { c with agent := false } :=
    (h c (List.mem_of_getElem? hentry)).shaped.of_eq rfl rfl
  have hblank := ((hshaped.clearRun hrun).clearBegin hbegin).reset hreset
  have hblank' : BoltConnection.Holds BoltConnection.Blank c' := by
    rcases hleft with ⟨-, rfl⟩ | ⟨-, -, hclose⟩ | ⟨-, -, rfl⟩
    · exact hblank
    · exact hblank.close hclose
    · exact hblank
  exact h.set ⟨hblank'.mono BoltConnection.shaped_of_blank, fun _ => hblank'⟩

end BoltDirectPool

/-! ## Any two histories -/

namespace Sharing

variable {τ : Type} [DecidableEq τ] {sharing sharing' : Sharing τ} {notice : Notice}

/-- The state of a new pool after any turns of any threads. -/
def Reachable (sharing : Sharing τ) : Prop :=
  ∃ user_agent life_time acquisition_time auth_token max_pool_size turns notices,
    Runs.run take turns (start (BoltDirectPool.create user_agent life_time acquisition_time
      auth_token max_pool_size)) = some (notices, sharing)

/-- What holds of a new pool and is kept by every turn holds of every state. -/
theorem Reachable.induct {inv : Sharing τ → Prop} (h : Reachable sharing)
    (hstart : ∀ user_agent life_time acquisition_time auth_token max_pool_size,
      inv (start (BoltDirectPool.create user_agent life_time acquisition_time auth_token
        max_pool_size)))
    (htake : ∀ turn sharing notice sharing', inv sharing →
      take turn sharing = some (notice, sharing') → inv sharing') : inv sharing := by
  obtain ⟨user_agent, life_time, acquisition_time, auth_token, max_pool_size, turns, notices, hrun⟩ := h
  exact Runs.keeps_of_run htake turns (hstart _ _ _ _ _) hrun

theorem tidy_take (turn : Turn τ) (hs : Owned sharing)
    (htidy : BoltDirectPool.All BoltConnection.Tidy sharing.pool)
    (h : take turn sharing = some (notice, sharing')) :
    BoltDirectPool.All BoltConnection.Tidy sharing'.pool := by
  have hacquired : ∀ thread surroundings result pool,
      sharing.pool.acquire surroundings = some (result, pool) →
      BoltDirectPool.All BoltConnection.Tidy (sharing.acquired thread result pool).2.pool := by
    intro thread surroundings result pool hacquire
    have hpool := (BoltDirectPool.acquire_blank htidy hacquire).1
    rcases result with ⟨_ | i, status⟩ | _
    · exact hpool
    · exact hpool
    · exact hpool
  have hagent : ∀ thread index connection, (thread, index) ∈ sharing.held →
      sharing.pool.connections[index]? = some connection → connection.agent = true := by
    intro thread index connection hheld hentry
    have hlent := hs.leases.lent index (List.mem_map_of_mem hheld)
    rw [BoltDirectPool.agents, List.getElem?_map, hentry] at hlent
    exact Option.some.inj hlent
  cases turn with
  | acquire thread surroundings =>
    simp only [take] at h
    split_ifs at h
    obtain ⟨⟨result, pool⟩, hacquire, hresult⟩ := Option.map_eq_some_iff.mp h
    obtain ⟨-, rfl⟩ := Prod.mk.inj hresult
    exact hacquired thread surroundings result pool hacquire
  | wake thread surroundings =>
    simp only [take] at h
    split_ifs at h
    obtain ⟨⟨result, pool⟩, hacquire, hresult⟩ := Option.map_eq_some_iff.mp h
    obtain ⟨-, rfl⟩ := Prod.mk.inj hresult
    exact hacquired thread surroundings result pool hacquire
  | timeout thread =>
    simp only [take] at h
    split_ifs at h
    obtain ⟨-, rfl⟩ := Prod.mk.inj (Option.some.inj h)
    exact htidy
  | release thread index =>
    simp only [take] at h
    split_ifs at h with hholds
    obtain ⟨⟨found, pool⟩, hrelease, hresult⟩ := Option.map_eq_some_iff.mp h
    obtain ⟨-, rfl⟩ := Prod.mk.inj hresult
    unfold BoltDirectPool.release at hrelease
    split at hrelease
    · obtain ⟨left, hrecycle, hresult⟩ := Option.map_eq_some_iff.mp hrelease
      obtain ⟨-, rfl⟩ := Prod.mk.inj hresult
      have hleft := BoltDirectPool.recycle_tidy htidy hrecycle
      exact hleft
    · obtain ⟨-, rfl⟩ := Prod.mk.inj (Option.some.inj hrelease)
      exact htidy
  | use thread index operation =>
    simp only [take] at h
    split_ifs at h with hholds
    obtain ⟨⟨result, pool⟩, hwork, hresult⟩ := Option.map_eq_some_iff.mp h
    obtain ⟨-, rfl⟩ := Prod.mk.inj hresult
    obtain ⟨c, c', hentry, hperform, rfl⟩ := BoltDirectPool.onConnection_cases hwork
    have hused := hagent thread index c hholds.2 hentry
    refine htidy.set ⟨(htidy c (List.mem_of_getElem? hentry)).shaped.perform hperform, ?_⟩
    intro hfree
    rw [(BoltConnection.respects_perform hperform).agent, hused] at hfree
    cases hfree
  | assign thread index access_mode on_error_cb =>
    simp only [take] at h
    split_ifs at h with hholds
    obtain ⟨⟨result, pool⟩, hwork, hresult⟩ := Option.map_eq_some_iff.mp h
    obtain ⟨-, rfl⟩ := Prod.mk.inj hresult
    obtain ⟨c, c', hentry, hassign, rfl⟩ := BoltDirectPool.onConnection_cases hwork
    obtain ⟨-, rfl⟩ := Prod.mk.inj (Option.some.inj hassign)
    have hused := hagent thread index c hholds.2 hentry
    refine htidy.set ⟨(htidy c (List.mem_of_getElem? hentry)).shaped.of_eq rfl rfl, ?_⟩
    intro hfree
    dsimp only at hfree
    rw [hused] at hfree
    cases hfree

theorem Reachable.tidy (h : Reachable sharing) :
    BoltDirectPool.All BoltConnection.Tidy sharing.pool := by
  refine (@Reachable.induct τ _ sharing (fun s => Owned s ∧
    BoltDirectPool.All BoltConnection.Tidy s.pool) h ?_ ?_).2
  · intro user_agent life_time acquisition_time auth_token max_pool_size
    refine ⟨owned_create _ _ _ _ _, fun c hc => ?_⟩
    obtain rfl := List.eq_of_mem_replicate hc
    exact ⟨BoltConnection.holds_closed rfl, fun _ => BoltConnection.holds_closed rfl⟩
  · rintro turn s notice s' ⟨hs, htidy⟩ htake
    exact ⟨(exclusive_take turn hs htake).2, tidy_take turn hs htidy htake⟩

end Sharing

/-- Connections with the prepared messages of a new protocol are alike, once they
have the same access mode. -/
theorem BoltConnection.alike_of_blank {c1 c2 : BoltConnection} {version : ProtocolVersion}
    {state1 state2 : BoltProtocolState} (access_mode : BoltAccessMode)
    (h1 : Holds Blank c1) (h2 : Holds Blank c2)
    (hprotocol1 : c1.protocol = some ⟨version, state1⟩)
    (hprotocol2 : c2.protocol = some ⟨version, state2⟩) :
    Alike version { c1 with access_mode := access_mode } { c2 with access_mode := access_mode } := by
  obtain ⟨hready1, hblank1⟩ := h1 version state1 hprotocol1
  obtain ⟨hready2, hblank2⟩ := h2 version state2 hprotocol2
  refine ⟨state1, state2, hprotocol1, hprotocol2, ?_, ?_, rfl, ?_, ?_⟩
  · exact ⟨hready1.connection, hready1.state, hready1.drained⟩
  · exact ⟨hready2.connection, hready2.state, hready2.drained⟩
  · exact Eq.trans hblank2 (Eq.symm hblank1)
  · exact shaped_of_blank version _ hblank1

/-- Two pools with any two histories: the users to whom they hand a connection
next, with the same version of the protocol and for the same access mode, load
the same bytes when they make the same requests. -/
theorem requests_private {τ₁ τ₂ : Type} [DecidableEq τ₁] [DecidableEq τ₂] (s1 : Sharing τ₁)
    (s2 : Sharing τ₂) (surroundings1 surroundings2 : Surroundings) (i1 i2 : Nat)
    (status1 status2 : BoltStatus) (pool1 pool2 : BoltDirectPool) (c1 c2 final1 : BoltConnection)
    (access_mode : BoltAccessMode) (requests : List Request) (loaded : List (Int × List UInt8))
    (h1 : s1.Reachable) (h2 : s2.Reachable)
    (hacquire1 : s1.pool.acquire surroundings1 = some (.returned (some i1) status1, pool1))
    (hacquire2 : s2.pool.acquire surroundings2 = some (.returned (some i2) status2, pool2))
    (hentry1 : pool1.connections[i1]? = some c1) (hentry2 : pool2.connections[i2]? = some c2)
    (hversion : c1.protocol.map BoltProtocol.version = c2.protocol.map BoltProtocol.version)
    (hrun : Runs.run BoltConnection.transmit requests { c1 with access_mode := access_mode } =
      some (loaded, final1)) :
    ∃ final2, Runs.run BoltConnection.transmit requests { c2 with access_mode := access_mode } =
      some (loaded, final2) := by
  have hblank1 := (BoltDirectPool.acquire_blank h1.tidy hacquire1).2 _ _ _ rfl hentry1
  have hblank2 := (BoltDirectPool.acquire_blank h2.tidy hacquire2).2 _ _ _ rfl hentry2
  rcases hprotocol1 : c1.protocol with _ | ⟨version, state1⟩
  · rcases requests with _ | ⟨request, requests⟩
    · obtain ⟨rfl, -⟩ := Prod.mk.inj (Option.some.inj hrun)
      exact ⟨_, rfl⟩
    · obtain ⟨b, s, bs, hstep, -, -⟩ := Runs.run_uncons hrun
      simp only [BoltConnection.transmit, BoltConnection.request, hprotocol1] at hstep
      cases hstep
  · rw [hprotocol1] at hversion
    obtain ⟨⟨_, state2⟩, hprotocol2, rfl⟩ := Option.map_eq_some_iff.mp hversion.symm
    have halike := BoltConnection.alike_of_blank access_mode hblank1 hblank2 hprotocol1 hprotocol2
    obtain ⟨final2, hrun2, -⟩ :=
      (BoltConnection.simulates_transmit _).run requests halike hrun
    exact ⟨final2, hrun2⟩

/-- A pool of one connection to a server that answers everything with SUCCESS. -/
def succeeding (responses : Nat) : BoltDirectPool × Surroundings :=
  (.create (ascii "agent") 0 0 (.dictionary []) 1,
    ⟨0, 0, BoltConnection.answering
      (frames ((List.replicate responses [0xB1, 0x70, 0xA0]).map chunksOf))⟩)

/-- A user who loads a statement with a parameter and releases the connection
without having sent it. -/
def leaving : List (Turn Nat) :=
  [.acquire 1 (succeeding 3).2, .use 1 0 (.request (.setRunCypher (ascii "RETURN $secret") 1)),
    .use 1 0 (.request (.setRunCypherParameter 0 (ascii "secret") fun _ => .integer 7)),
    .use 1 0 (.request .loadRunRequest), .release 1 0]

/-- What the next user asks for. -/
def asking : List Request :=
  [.setRunCypher (ascii "RETURN $x") 1, .setRunCypherParameter 0 (ascii "x") fun _ => .null,
    .loadRunRequest, .loadBeginRequest]

theorem requests_private_leaving :
    ∃ (s1 : Sharing Nat) (pool1 pool2 : BoltDirectPool) (c1 c2 final1 final2 : BoltConnection)
      (loaded : List (Int × List UInt8)),
      Runs.run Sharing.take leaving (Sharing.start (succeeding 3).1) =
        some ([.acquired (.returned (some 0) ⟨.ready, BOLT_SUCCESS⟩), .used 0, .used 0, .used 0,
          .released 0], s1) ∧
      s1.pool.acquire (succeeding 3).2 =
        some (.returned (some 0) ⟨.ready, BOLT_SUCCESS⟩, pool1) ∧
      pool1.connections[0]? = some c1 ∧
      (succeeding 1).1.acquire (succeeding 1).2 =
        some (.returned (some 0) ⟨.ready, BOLT_SUCCESS⟩, pool2) ∧
      pool2.connections[0]? = some c2 ∧
      Runs.run BoltConnection.transmit asking { c1 with access_mode := .read } =
        some (loaded, final1) ∧
      Runs.run BoltConnection.transmit asking { c2 with access_mode := .read } =
        some (loaded, final2) := by
  have hleft : ((Runs.run Sharing.take leaving (Sharing.start (succeeding 3).1)).bind
      fun left => (left.2.pool.acquire (succeeding 3).2).bind fun acquired =>
        acquired.2.connections[0]?.bind fun c1 =>
          (Runs.run BoltConnection.transmit asking { c1 with access_mode := .read }).map fun _ =>
            (left.1, acquired.1, c1.protocol.map BoltProtocol.version)) =
      some ([.acquired (.returned (some 0) ⟨.ready, BOLT_SUCCESS⟩), .used 0, .used 0, .used 0,
        .released 0], .returned (some 0) ⟨.ready, BOLT_SUCCESS⟩, some .v1) := by
    decide +kernel
  have hfresh : (((succeeding 1).1.acquire (succeeding 1).2).bind fun acquired =>
      acquired.2.connections[0]?.map fun c2 =>
        (acquired.1, c2.protocol.map BoltProtocol.version)) =
      some (.returned (some 0) ⟨.ready, BOLT_SUCCESS⟩, some .v1) := by
    decide +kernel
  obtain ⟨⟨notices, s1⟩, hrun1, hleft⟩ := Option.bind_eq_some_iff.mp hleft
  obtain ⟨⟨acquired1, pool1⟩, hacquire1, hleft⟩ := Option.bind_eq_some_iff.mp hleft
  obtain ⟨c1, hentry1, hleft⟩ := Option.bind_eq_some_iff.mp hleft
  obtain ⟨⟨loaded, final1⟩, htransmit, hleft⟩ := Option.map_eq_some_iff.mp hleft
  obtain ⟨⟨acquired2, pool2⟩, hacquire2, hfresh⟩ := Option.bind_eq_some_iff.mp hfresh
  obtain ⟨c2, hentry2, hfresh⟩ := Option.map_eq_some_iff.mp hfresh
  simp only [Prod.mk.injEq] at hleft hfresh
  obtain ⟨rfl, rfl, hversion1⟩ := hleft
  obtain ⟨rfl, hversion2⟩ := hfresh
  have hreachable : ∀ notices (s : Sharing Nat) turns,
      Runs.run Sharing.take turns (Sharing.start (succeeding 3).1) = some (notices, s) →
      s.Reachable := fun notices s turns hrun => ⟨_, _, _, _, _, turns, notices, hrun⟩
  obtain ⟨final2, htransmit2⟩ := requests_private s1 (Sharing.start (succeeding 1).1)
    (succeeding 3).2 (succeeding 1).2 0 0 _ _ pool1 pool2 c1 c2 final1 .read asking loaded
    (hreachable _ _ _ hrun1) (hreachable _ _ [] rfl) hacquire1 hacquire2 hentry1 hentry2
    (hversion1.trans hversion2.symm) htransmit
  exact ⟨s1, pool1, pool2, c1, c2, final1, final2, loaded, hrun1, hacquire1, hentry1, hacquire2,
    hentry2, htransmit, htransmit2⟩

end Seabolt
