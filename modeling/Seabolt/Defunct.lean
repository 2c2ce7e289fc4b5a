import Seabolt.Unread
import Seabolt.Conversation
import Seabolt.Initialisation

/-!
# Defunct connections

Whether a connection that is `DEFUNCT` stays so until it is closed or opened again.  A
fetch, a summary, a reset and an initialisation ask for the end of a response, and when
the connection has not read it yet, they read it and set the status that it tells.
`Revives` says which unread messages make an operation do that, and `meets_defunct` is the
guarantee for every life in which no operation meets them.
-/

namespace Seabolt

open PackStream

/-- Requests change nothing of what is received. -/
theorem Handles.received {version : ProtocolVersion} {request : Request}
    {session session' : Session} {status : Int}
    (h : Handles version request session status session') :
    session'.2.residue = session.2.residue ∧ session'.2.rx_buffer = session.2.rx_buffer ∧
      session'.2.response_counter = session.2.response_counter := by
  cases h with
  | set run_request begin_request hmessages => exact ⟨rfl, rfl, rfl⟩
  | @load run_request begin_request loaded hload =>
    have hstate := (loadMessages_same _ hload).state
    refine ⟨?_, ?_, ?_⟩
    · show BoltProtocolState.residue loaded.2 = _
      rw [hstate]
      rfl
    · show loaded.2.rx_buffer = _
      rw [hstate]
      rfl
    · show loaded.2.response_counter = _
      rw [hstate]
      rfl

/-- An initialisation is called with a user agent and a token that it can encode. -/
def Operation.Proper : Operation → Prop
  | .init user_agent auth_token => user_agent.length < 0x80000000 ∧ IsAuthToken auth_token
  | _ => True

/-- The operations that close the connection. -/
def Operation.Reopens : Operation → Prop
  | .openAt _ | .close => True
  | _ => False

namespace BoltConnection

variable {connection connection' loaded sent final : BoltConnection} {version : ProtocolVersion}
  {state : BoltProtocolState} {request_id : Nat} {result last : Int} {results : List Int}
  {operation : Operation}

/-! ## Receive buffers -/

/-- The receive buffers of an open connection are intact. -/
def Readable (connection : BoltConnection) : Prop :=
  ∀ version state, connection.protocol = some ⟨version, state⟩ → Session.Wf (connection, state)

theorem Readable.of_eq (h : connection.Readable)
    (hprotocol : connection'.protocol = connection.protocol)
    (hrx : connection'.rx_buffer = connection.rx_buffer) : connection'.Readable := by
  intro version state hstate
  have hwf := h version state (hprotocol ▸ hstate)
  refine ⟨?_, hwf.state⟩
  show connection'.rx_buffer.Wf
  rw [hrx]
  exact hwf.connection

theorem readable_closed (h : connection.protocol = none) : connection.Readable := by
  intro version state hstate
  rw [h] at hstate
  cases hstate

theorem Readable.setStatus (h : connection.Readable) (status : BoltConnectionState) (error : Int) :
    (connection.setStatus status error).Readable :=
  h.of_eq (setStatus_protocol _ _ _) (setStatus_rx_buffer _ _ _)

theorem Readable.tryStatus (h : connection.Readable) (status : Int) :
    (tryStatus status connection).2.Readable := by
  rcases tryStatus_cases status connection with ⟨-, heq⟩ | ⟨-, -, heq⟩ | ⟨-, -, heq⟩
  · rwa [heq]
  · rwa [heq]
  · rw [heq]
    exact h.setStatus _ _

theorem Readable.send (h : connection.Readable) : connection.send.2.Readable :=
  h.of_eq (by rw [send_same]) (by rw [send_same])

theorem Readable.reported (h : connection.Readable) (result : Int) :
    (reported result connection).2.Readable := by
  rcases reported_cases result connection with ⟨-, heq⟩ | ⟨-, -, heq⟩ | ⟨status, -, -, heq⟩
  · rwa [heq]
  · rwa [heq]
  · rw [heq]
    exact h.setStatus _ _

theorem Readable.close (h : connection.Readable) (hclose : connection.close = some connection') :
    connection'.Readable := by
  obtain ⟨closed, hclosed, rfl⟩ := Option.map_eq_some_iff.mp hclose
  split_ifs at hclosed
  · have hnone : closed.protocol = none := protocol_of_close_ hclosed
    exact readable_closed hnone
  · obtain rfl := Option.some.inj hclosed
    intro version state hstate
    exact ⟨BoltBuffer.wf_create _, (h version state hstate).state⟩

theorem Readable.loadMessage (h : connection.Readable) {message : BoltMessage}
    (hload : connection.loadMessage message = some (result, connection')) :
    connection'.Readable := by
  rcases hprotocol : connection.protocol with _ | ⟨version, state⟩
  · simp only [BoltConnection.loadMessage, hprotocol] at hload
    cases hload
  simp only [BoltConnection.loadMessage, hprotocol] at hload
  obtain ⟨⟨status, session'⟩, hloaded, hresult⟩ := Option.map_eq_some_iff.mp hload
  obtain ⟨-, rfl⟩ := Prod.mk.inj hresult
  have hwf := h version state hprotocol
  have hsame := Seabolt.loadMessage_same hloaded
  intro version' state' hstate
  obtain ⟨rfl, rfl⟩ := BoltProtocol.mk.inj (Option.some.inj hstate)
  refine ⟨?_, ?_⟩
  · show session'.1.rx_buffer.Wf
    rw [hsame.connection]
    exact hwf.connection
  · show session'.2.rx_buffer.Wf
    rw [hsame.state]
    exact hwf.state

theorem Readable.request (h : connection.Readable) {request : Request}
    (hrequest : connection.request request = some (result, connection')) :
    connection'.Readable := by
  obtain ⟨version, state, status, session', hprotocol, hhandles, htry⟩ := request_cases hrequest
  have hwf := h version state hprotocol
  have hhandled : Readable { session'.1 with protocol := some ⟨version, session'.2⟩ } := by
    intro version' state' hstate
    obtain ⟨rfl, rfl⟩ := BoltProtocol.mk.inj (Option.some.inj hstate)
    refine ⟨?_, ?_⟩
    · show session'.1.rx_buffer.Wf
      rw [hhandles.connection]
      exact hwf.connection
    · show session'.2.rx_buffer.Wf
      rw [hhandles.received.2.1]
      exact hwf.state
  have htried := hhandled.tryStatus status
  rwa [← htry] at htried

theorem Readable.protocolFetch (h : connection.Readable)
    (hfetch : connection.protocolFetch request_id = some (result, connection')) :
    connection'.Readable := by
  rcases hprotocol : connection.protocol with _ | ⟨version, state⟩
  · simp only [BoltConnection.protocolFetch, hprotocol] at hfetch
    cases hfetch
  obtain ⟨n, state', hprotocol', hrun⟩ := protocolFetch_rounds hprotocol hfetch
  have hwf := h version state hprotocol
  have htaken : Session.Wf ({ connection with protocol := none }, state) :=
    ⟨hwf.connection, hwf.state⟩
  have hkeeps : ∀ request_id session outcome session', Session.Wf session →
      version.roundStep request_id session = some (outcome, session') → session'.Wf :=
    fun _ _ _ _ hwf hstep => (roundStep_unread hwf hstep).1
  have hwf' := Runs.keeps_of_run hkeeps _ htaken hrun
  intro version' state'' hstate
  obtain ⟨rfl, rfl⟩ := BoltProtocol.mk.inj (Option.some.inj (hprotocol'.symm.trans hstate))
  exact ⟨hwf'.connection, hwf'.state⟩

theorem Reads.readable (h : Reads request_id connection results last final)
    (hreadable : connection.Readable) : final.Readable :=
  Runs.keeps_of_run (fun _ _ _ _ h hstep => h.protocolFetch hstep) _ hreadable h.run

theorem Readable.fetchSummary (h : connection.Readable)
    (hfetch : connection.fetchSummary request_id = some (result, connection')) :
    connection'.Readable := by
  obtain ⟨results, last, final, hreads, rfl, -⟩ := fetchSummary_reads hfetch
  exact (hreads.readable h).reported last

theorem readable_negotiated {protocol_version : Int} (hrx : connection.rx_buffer.Wf)
    (h : connection.negotiated protocol_version = some (result, connection')) :
    connection'.Readable := by
  unfold negotiated at h
  dsimp only at h
  split at h
  · next protocol hprotocol =>
    obtain ⟨-, rfl⟩ := Prod.mk.inj (Option.some.inj h)
    obtain ⟨version, rfl⟩ := protocolOf_eq hprotocol
    intro version' state' hstate
    obtain ⟨rfl, rfl⟩ := BoltProtocol.mk.inj (Option.some.inj hstate)
    refine ⟨hrx, ?_⟩
    cases version <;> exact BoltBuffer.wf_create _
  · obtain ⟨closed, hclose, hresult⟩ := Option.map_eq_some_iff.mp h
    obtain ⟨-, rfl⟩ := Prod.mk.inj hresult
    exact readable_closed (protocol_of_close_ hclose)

theorem Readable.handshakeB {v1 v2 v3 v4 : Nat} (hreadable : connection.Readable)
    (hrx : connection.rx_buffer.Wf)
    (h : connection.handshakeB v1 v2 v3 v4 = some (result, connection')) :
    connection'.Readable := by
  unfold BoltConnection.handshakeB at h
  dsimp only at h
  split_ifs at h
  · obtain ⟨-, rfl⟩ := Prod.mk.inj (Option.some.inj h)
    refine Readable.setStatus ?_ _ _
    exact hreadable.of_eq rfl rfl
  · obtain ⟨-, rfl⟩ := Prod.mk.inj (Option.some.inj h)
    refine Readable.setStatus ?_ _ _
    exact hreadable.of_eq rfl rfl
  · refine readable_negotiated ?_ h
    exact hrx

theorem Readable.openDisconnected {target : Target} (hreadable : connection.Readable)
    (h : connection.openDisconnected target = some (result, connection')) :
    connection'.Readable := by
  unfold BoltConnection.openDisconnected at h
  dsimp only at h
  split_ifs at h
  · obtain ⟨⟨status, connection1⟩, hhandshake, hresult⟩ := Option.map_eq_some_iff.mp h
    dsimp only at hresult
    have hopened : connection1.Readable := by
      refine Readable.handshakeB ?_ (BoltBuffer.wf_create _) hhandshake
      exact fun version state hstate =>
        ⟨BoltBuffer.wf_create _, (hreadable version state hstate).state⟩
    have htried := hopened.tryStatus status
    split_ifs at hresult
    · obtain ⟨-, rfl⟩ := Prod.mk.inj hresult
      exact htried
    all_goals
      obtain ⟨-, rfl⟩ := Prod.mk.inj hresult
      exact htried.setStatus _ _
  · obtain ⟨-, rfl⟩ := Prod.mk.inj (Option.some.inj h)
    refine Readable.setStatus ?_ _ _
    exact hreadable.of_eq rfl rfl

theorem Readable.openAt {target : Target} (hreadable : connection.Readable)
    (h : connection.openAt target = some (result, connection')) : connection'.Readable := by
  unfold BoltConnection.openAt at h
  split_ifs at h
  · obtain ⟨closed, hclose, hopen⟩ := Option.bind_eq_some_iff.mp h
    exact (hreadable.close hclose).openDisconnected hopen
  · exact hreadable.openDisconnected h

theorem Readable.init {user_agent : List UInt8} {auth_token : BoltValue}
    (hreadable : connection.Readable)
    (h : connection.init user_agent auth_token = some (result, connection')) :
    connection'.Readable := by
  unfold BoltConnection.init at h
  split_ifs at h
  · split at h
    · cases h
    obtain ⟨⟨code, final⟩, hinit, hresult⟩ := Option.map_eq_some_iff.mp h
    have hfinal : final.Readable := by
      obtain ⟨message, -, hinit⟩ := Option.bind_eq_some_iff.mp hinit
      rcases Outcome.TRY_cases hinit with ⟨-, hload⟩ | ⟨loaded, hload, hinit⟩
      · exact hreadable.loadMessage hload
      have hsent := (hreadable.loadMessage hload).send
      obtain ⟨request, -, hinit⟩ := Option.bind_eq_some_iff.mp hinit
      rcases Outcome.TRY_cases hinit with ⟨-, hsend⟩ | ⟨sent, hsend, hinit⟩
      · rwa [Option.some.inj hsend] at hsent
      rw [Option.some.inj hsend] at hsent
      rcases Outcome.TRY_cases hinit with ⟨-, hfetch⟩ | ⟨fetched, hfetch, hinit⟩
      · exact hsent.fetchSummary hfetch
      obtain ⟨protocol, -, hresult⟩ := Option.map_eq_some_iff.mp hinit
      obtain ⟨-, rfl⟩ := Prod.mk.inj hresult
      exact hsent.fetchSummary hfetch
    dsimp only at hresult
    unfold initialised at hresult
    split_ifs at hresult
    all_goals
      obtain ⟨-, rfl⟩ := Prod.mk.inj hresult
      exact hfinal.setStatus _ _
  · obtain ⟨-, rfl⟩ := Prod.mk.inj (Option.some.inj h)
    exact hreadable.setStatus _ _

theorem Readable.reset (hreadable : connection.Readable)
    (h : connection.reset = some (result, connection')) : connection'.Readable := by
  obtain ⟨status, loaded, hload, hcase⟩ := reset_cases h
  have hloaded : loaded.Readable := hreadable.request hload
  rcases hcase with ⟨-, -, rfl⟩ | ⟨-, request_id, records, -, ⟨-, -, rfl⟩ | ⟨hfetch, -⟩⟩
  · exact hloaded
  · exact hloaded.send
  · exact hloaded.send.fetchSummary hfetch

theorem Readable.perform (h : connection.Readable)
    (hperform : perform operation connection = some (result, connection')) :
    connection'.Readable := by
  cases operation with
  | openAt target => exact h.openAt hperform
  | init user_agent auth_token => exact h.init hperform
  | request request => exact h.request hperform
  | send =>
    simp only [BoltConnection.perform] at hperform
    split_ifs at hperform
    have hsent := h.send
    rwa [Option.some.inj hperform] at hsent
  | fetch request =>
    simp only [BoltConnection.perform, fetch_eq] at hperform
    obtain ⟨⟨fetched, connection1⟩, hfetch, hresult⟩ := Option.map_eq_some_iff.mp hperform
    have hreported := (h.protocolFetch hfetch).reported fetched
    dsimp only at hresult
    rwa [hresult] at hreported
  | fetchSummary request => exact h.fetchSummary hperform
  | reset => exact h.reset hperform
  | close =>
    obtain ⟨closed, hclose, hresult⟩ := Option.map_eq_some_iff.mp hperform
    obtain ⟨-, rfl⟩ := Prod.mk.inj hresult
    exact h.close hclose

/-! ## Calls on a defunct connection -/

/-- The response that is asked for can still be read to its summary, and the
summary sets another state than `DEFUNCT`. -/
def ReadsSummary (request : Nat) (connection : BoltConnection) : Prop :=
  ∃ results final, Reads request connection results FETCH_SUMMARY final ∧
    final.Revived

/-- The protocol can still read a summary for the operation out of the buffers and
the transport of the connection: for a fetch with its next call, for the others
at the end of a response.  The initialisation looks at the number that it gets
only. -/
def Restores : Operation → BoltConnection → Prop
  | .fetch request, connection =>
    ∃ final, connection.protocolFetch request = some (FETCH_SUMMARY, final) ∧ final.Revived
  | .fetchSummary request, connection => connection.ReadsSummary request
  | .reset, connection =>
    ∃ loaded request_id, connection.loadResetRequest = some (BOLT_SUCCESS, loaded) ∧
      loaded.lastRequest = some request_id ∧ loaded.send.2.ReadsSummary request_id
  | .init user_agent auth_token, connection =>
    ∃ request sent results final code, Requested user_agent auth_token connection request sent ∧
      Reads request sent results FETCH_SUMMARY final ∧ final.lastCode = some code ∧
      Accepted results code
  | _, _ => False

theorem fetch_defunct {request : Nat} (hdefunct : connection.status.state = .defunct)
    (h : connection.fetch request = some (result, connection')) :
    connection'.status.state = .defunct ↔ ¬Restores (.fetch request) connection := by
  rw [fetch_eq] at h
  obtain ⟨⟨fetched, final⟩, hfetch, hresult⟩ := Option.map_eq_some_iff.mp h
  dsimp only at hresult
  have hstate := congrArg (fun r : Int × BoltConnection => r.2.status.state) hresult
  dsimp only at hstate
  rw [← hstate, reported_defunct ((protocolFetch_moves hfetch).defunct hdefunct), not_iff_not]
  constructor
  · rintro ⟨rfl, hrevived⟩
    exact ⟨final, hfetch, hrevived⟩
  · rintro ⟨final', hfetch', hrevived⟩
    obtain ⟨rfl, rfl⟩ := Prod.mk.inj (Option.some.inj (hfetch.symm.trans hfetch'))
    exact ⟨rfl, hrevived⟩

theorem fetchSummary_defunct {request : Nat} (hdefunct : connection.status.state = .defunct)
    (h : connection.fetchSummary request = some (result, connection')) :
    connection'.status.state = .defunct ↔ ¬connection.ReadsSummary request := by
  obtain ⟨results, last, final, hreads, rfl, -⟩ := fetchSummary_reads h
  rw [reported_defunct (hreads.moves.defunct hdefunct), not_iff_not]
  constructor
  · rintro ⟨rfl, hrevived⟩
    exact ⟨results, final, hreads, hrevived⟩
  · rintro ⟨results', final', hreads', hrevived⟩
    obtain ⟨-, hlast, rfl⟩ := hreads.unique hreads'
    exact ⟨hlast, hrevived⟩

theorem reset_defunct (hdefunct : connection.status.state = .defunct)
    (h : connection.reset = some (result, connection')) :
    connection'.status.state = .defunct ↔ ¬Restores .reset connection := by
  obtain ⟨status, loaded, hload, hcase⟩ := reset_cases h
  have hloaded := (request_moves hload).defunct hdefunct
  have hsent := loaded.send_moves.defunct hloaded
  rcases hcase with ⟨hfailed, -, rfl⟩ | ⟨rfl, request_id, records, hlast, hcase⟩
  · refine iff_of_true hloaded ?_
    rintro ⟨loaded', request_id, hload', -⟩
    exact hfailed (Prod.mk.inj (Option.some.inj (hload.symm.trans hload'))).1
  · have hrestores : Restores .reset connection ↔ loaded.send.2.ReadsSummary request_id := by
      constructor
      · rintro ⟨loaded', request_id', hload', hlast', hreads⟩
        obtain ⟨-, rfl⟩ := Prod.mk.inj (Option.some.inj (hload.symm.trans hload'))
        obtain rfl := Option.some.inj (hlast.symm.trans hlast')
        exact hreads
      · exact fun hreads => ⟨loaded, request_id, hload, hlast, hreads⟩
    rcases hcase with ⟨hneg, -⟩ | ⟨hfetch, -⟩
    · rcases loaded.send_status with hstatus | hstatus
      all_goals
        rw [hstatus] at hneg
        exact absurd hneg (by decide)
    · rw [hrestores]
      exact fetchSummary_defunct hsent hfetch

theorem init_defunct {user_agent : List UInt8} {auth_token : BoltValue}
    (h : connection.init user_agent auth_token = some (result, connection')) :
    connection'.status.state = .defunct ↔ ¬Restores (.init user_agent auth_token) connection := by
  by_cases hversion : connection.protocol_version = 1 ∨ connection.protocol_version = 2 ∨
    connection.protocol_version = 3
  · rcases hprotocol : connection.protocol with _ | protocol
    · rw [init, if_pos hversion] at h
      simp only [hprotocol] at h
      cases h
    rw [init_eq hprotocol hversion] at h
    obtain ⟨⟨code, final⟩, hinit, hresult⟩ := Option.map_eq_some_iff.mp h
    dsimp only at hresult
    have hstate : connection'.status.state = .defunct ↔ code ≠ BOLT_V1_SUCCESS.toInt := by
      have hstatus := initialised_status code final
      rw [hresult] at hstatus
      rcases hstatus with ⟨hcode, -, hready⟩ | ⟨hcode, -, hdefunct, -⟩
      · rw [show connection'.status = _ from hready]
        exact iff_of_false (by simp) (not_not.mpr hcode)
      · exact iff_of_true hdefunct hcode
    rw [hstate, ne_eq, not_iff_not]
    rcases protocolInit_cases hprotocol hversion hinit with
      ⟨hcode, hnone⟩ | ⟨request, sent, results, last, final, type, hrequested, hreads, htype, hcode⟩
    · refine iff_of_false hcode ?_
      rintro ⟨request, sent, -, -, -, hrequested, -⟩
      exact hnone request sent hrequested
    · rw [hcode]
      constructor
      · rintro ⟨rfl, haccepted⟩
        exact ⟨request, sent, results, final, type, hrequested, hreads, htype, haccepted⟩
      · rintro ⟨request', sent', results', final', type', hrequested', hreads', htype', haccepted⟩
        obtain ⟨rfl, rfl⟩ := hrequested.unique hrequested'
        obtain ⟨rfl, hlast, rfl⟩ := hreads.unique hreads'
        obtain rfl := Option.some.inj (htype.symm.trans htype')
        exact ⟨hlast, haccepted⟩
  · rw [init, if_neg hversion] at h
    obtain ⟨-, rfl⟩ := Prod.mk.inj (Option.some.inj h)
    refine iff_of_true (by rw [setStatus_status]) ?_
    rintro ⟨request, sent, -, -, -, hrequested, -⟩
    exact hversion hrequested.1

/-- An operation that does not close a defunct connection leaves it defunct,
unless a summary can still be read for it. -/
theorem perform_defunct (hdefunct : connection.status.state = .defunct)
    (hreopens : ¬operation.Reopens)
    (h : perform operation connection = some (result, connection')) :
    connection'.status.state = .defunct ↔ ¬Restores operation connection := by
  cases operation with
  | openAt target => exact absurd trivial hreopens
  | close => exact absurd trivial hreopens
  | init user_agent auth_token => exact init_defunct h
  | request request => exact iff_of_true ((request_moves h).defunct hdefunct) not_false
  | send =>
    simp only [perform] at h
    split_ifs at h
    obtain ⟨-, rfl⟩ := Prod.mk.inj (Option.some.inj h)
    exact iff_of_true (connection.send_moves.defunct hdefunct) not_false
  | fetch request => exact fetch_defunct hdefunct h
  | fetchSummary request => exact fetchSummary_defunct hdefunct h
  | reset => exact reset_defunct hdefunct h

/-! ## What revives a connection -/

/-- Among the messages of the stream is the end of the response with the id `request_id`. -/
def Ends (version : ProtocolVersion) (state : BoltProtocolState) (stream : List UInt8)
    (request_id : Nat) (failed : Bool) (conclusion : Conclusion) : Prop :=
  ∃ messages, Seabolt.Unread version.checkReadableStruct state.residue stream messages ∧
    summaryOf request_id state.response_counter failed messages = some conclusion

/-- The connection has not read yet what makes it usable again.  A fetch reads it as the next
message of the response, and the other operations behind other messages of it.  A RESET and
an INIT have the id that is next, and a RESET clears the failure data.  An initialisation
takes any number before the summary that looks like a SUCCESS for one. -/
def Revives (operation : Operation) (connection : BoltConnection) : Prop :=
  ∃ version state conclusion, connection.protocol = some ⟨version, state⟩ ∧
    match operation with
    | .fetch request_id =>
      Ends version state connection.pending request_id state.failure_data.isSome conclusion ∧
        conclusion.results = [] ∧ conclusion.Usable
    | .fetchSummary request_id =>
      Ends version state connection.pending request_id state.failure_data.isSome conclusion ∧
        conclusion.Usable
    | .reset =>
      Ends version state connection.pending state.next_request_id false conclusion ∧
        conclusion.Usable
    | .init user_agent auth_token =>
      Ends version state connection.pending state.next_request_id state.failure_data.isSome
          conclusion ∧
        Accepted conclusion.results conclusion.type ∧
        (connection.protocol_version = 1 ∨ connection.protocol_version = 2 ∨
          connection.protocol_version = 3) ∧
        ∃ message, version.initMessage user_agent auth_token = some message ∧
          (Regular message.value → Loadable version.checkWritableStruct message.value)
    | _ => False

/-- The buffers of an open connection are intact, and its prepared messages have the shape
of those of a new protocol. -/
structure Undamaged (connection : BoltConnection) : Prop where
  readable : connection.Readable
  shaped : Holds Shaped connection

theorem Undamaged.perform (h : connection.Undamaged)
    (hperform : perform operation connection = some (result, connection')) :
    connection'.Undamaged :=
  ⟨h.readable.perform hperform, h.shaped.perform hperform⟩

theorem Undamaged.prepared (h : connection.Undamaged)
    (hprotocol : connection.protocol = some ⟨version, state⟩) : connection.Prepared := by
  obtain ⟨hready, hshaped⟩ := h.shaped version state hprotocol
  refine ⟨version, state, hprotocol, hready, ?_⟩
  rw [show state.discard_request = state.prepared.discard_request from rfl, hshaped.others]
  cases version <;> rfl

/-- The transport does not fail, and what is decoded does not depend on memory. -/
structure Faultless (connection : BoltConnection) : Prop where
  receives : connection.comm.Reliable
  sends : ∀ bytes, (connection.comm.send bytes).1 = BOLT_SUCCESS
  definite : ∀ messages messages', connection.Unread messages → connection.Unread messages' →
    messages <+: messages' ∨ messages' <+: messages

/-- A stream of encoded messages, with nothing behind them, is decoded in one way. -/
theorem faultless_of_carries (hreceives : connection.comm.Reliable)
    (hsends : ∀ bytes, (connection.comm.send bytes).1 = BOLT_SUCCESS)
    (hprotocol : connection.protocol = some ⟨version, state⟩)
    (hcontent : state.rx_buffer.content = []) {items : List (Option BoltMessage)}
    (hcarries : Carries version.checkReadableStruct items connection.pending []) :
    connection.Faultless where
  receives := hreceives
  sends := hsends
  definite := by
    have hfronts : ∀ messages, connection.Unread messages →
        messages <+: state.residue.showsAll items := by
      rintro messages ⟨version', state', hprotocol', hunread⟩
      obtain ⟨rfl, rfl⟩ := BoltProtocol.mk.inj (Option.some.inj (hprotocol.symm.trans hprotocol'))
      exact Unread.prefix_of_carries hcarries (by decide) hcontent hunread
    exact fun messages messages' h h' =>
      List.prefix_or_prefix_of_prefix (hfronts messages h) (hfronts messages' h')

/-- The last message of a row of calls makes a connection usable. -/
theorem revived_iff {state' : BoltProtocolState} (results : List Int)
    (hprotocol : final.protocol = some ⟨version, state'⟩) :
    final.Revived ↔
      Conclusion.Usable ⟨results, state'.data_type, state'.failure_data.isSome⟩ := by
  simp only [Revived, summaryStatus, hprotocol, Option.bind_some, Conclusion.Usable]
  unfold BoltProtocolState.summaryStatus
  constructor
  · rintro ⟨status, hstatus, hstate⟩
    split_ifs at hstatus with hsuccess hignored hfailed hfailure
    · exact .inl hsuccess
    · exact .inr (.inr ⟨hignored, hfailed⟩)
    · exact .inr (.inl hfailure)
    · obtain rfl := Option.some.inj hstatus
      exact absurd rfl hstate
  · rintro (hsuccess | hfailure | ⟨hignored, hfailed⟩)
    · rw [if_pos hsuccess]
      exact ⟨_, rfl, by decide⟩
    · rw [hfailure, if_neg (by decide), if_neg (by decide), if_pos rfl]
      exact ⟨_, rfl, by decide⟩
    · rw [hignored, if_neg (by decide), if_pos rfl, if_pos hfailed]
      exact ⟨_, rfl, by decide⟩

/-- What is sent for an operation leaves what the connection receives alone, and the failure
data, except that a RESET clears them. -/
structure Asks (version : ProtocolVersion) (state : BoltProtocolState) (failed : Bool)
    (connection sent : BoltConnection) : Prop where
  protocol : ∃ state', sent.protocol = some ⟨version, state'⟩ ∧ state'.residue = state.residue ∧
    state'.response_counter = state.response_counter ∧ state'.failure_data.isSome = failed
  pending : sent.pending = connection.pending
  readable : sent.Readable
  reliable : connection.comm.Reliable → sent.comm.Reliable

theorem Asks.refl (hprotocol : connection.protocol = some ⟨version, state⟩)
    (hreadable : connection.Readable) :
    Asks version state state.failure_data.isSome connection connection :=
  ⟨⟨state, hprotocol, rfl, rfl, rfl⟩, rfl, hreadable, fun h => h⟩

/-- An end of a response that some messages have is found behind any others. -/
theorem Faultless.extends (h : connection.Faultless)
    (hprotocol : connection.protocol = some ⟨version, state⟩)
    {messages messages' : List UnreadMessage}
    (hunread : Session.Unread version (connection, state) messages)
    (hunread' : Session.Unread version (connection, state) messages')
    {counter : Nat} {failed : Bool} {conclusion : Conclusion}
    (hconclusion : summaryOf request_id counter failed messages' = some conclusion) :
    ∃ more, Session.Unread version (connection, state) (messages ++ more) ∧
      summaryOf request_id counter failed (messages ++ more) = some conclusion := by
  rcases h.definite messages messages' ⟨version, state, hprotocol, hunread⟩
    ⟨version, state, hprotocol, hunread'⟩ with ⟨more, rfl⟩ | ⟨more, rfl⟩
  · exact ⟨more, hunread', hconclusion⟩
  · refine ⟨[], ?_, ?_⟩
    · rwa [List.append_nil]
    · rw [List.append_nil]
      exact summaryOf_append _ _ _ hconclusion

/-- A row of calls that ends with a summary has read an end of the response. -/
theorem Asks.reads {failed : Bool} (h : Asks version state failed connection sent)
    (hreads : Reads request_id sent results last final) :
    ∃ state', final.protocol = some ⟨version, state'⟩ ∧
      (last = FETCH_SUMMARY → Ends version state connection.pending request_id failed
        ⟨results, state'.data_type, state'.failure_data.isSome⟩) ∧
      (connection.protocol = some ⟨version, state⟩ → connection.Faultless →
        ∀ conclusion, Ends version state connection.pending request_id failed conclusion →
          last = FETCH_SUMMARY ∧
            conclusion = ⟨results, state'.data_type, state'.failure_data.isSome⟩) := by
  obtain ⟨⟨state1, hprotocol, hresidue, hcounter, hfailed⟩, hpending, hreadable, hreliable⟩ := h
  obtain ⟨state', hprotocol', messages, hunread, hsummary, hnone⟩ :=
    hreads.unread hprotocol (hreadable _ _ hprotocol)
  have hsession : ∀ messages, Session.Unread version (sent, state1) messages ↔
      Seabolt.Unread version.checkReadableStruct state.residue connection.pending messages := by
    intro messages
    rw [Session.Unread, hresidue, hpending]
  have hends : ∀ messages, Session.summaryOf request_id (sent, state1) messages =
      summaryOf request_id state.response_counter failed messages := by
    intro messages
    rw [Session.summaryOf, hcounter, hfailed]
  simp only [hsession, hends] at hunread hsummary hnone
  refine ⟨state', hprotocol', fun hlast => ⟨messages, hunread, hsummary hlast⟩, ?_⟩
  rintro hconnection hfaultless conclusion ⟨messages', hunread', hconclusion⟩
  obtain ⟨more, hmore, hfound⟩ := hfaultless.extends hconnection hunread hunread' hconclusion
  have hlast : last = FETCH_SUMMARY := by
    by_contra hlast
    rw [hnone hlast (hreliable hfaultless.receives) more hmore] at hfound
    cases hfound
  exact ⟨hlast, Option.some.inj (hfound.symm.trans (summaryOf_append _ more _ (hsummary hlast)))⟩

/-! ## What the operations send -/

/-- What the messages before have left in the protocol state of an open connection. -/
def residue (connection : BoltConnection) : Option Residue :=
  connection.protocol.map fun protocol => protocol.state.residue

theorem request_residue {request : Request}
    (h : connection.request request = some (result, connection')) :
    connection'.residue = connection.residue := by
  obtain ⟨version, state, status, session', hprotocol, hhandles, htry⟩ := request_cases h
  have hkept := (tryStatus_kept status
    { session'.1 with protocol := some ⟨version, session'.2⟩ }).1
  rw [← htry] at hkept
  dsimp only at hkept
  rw [residue, residue, hkept, hprotocol, Option.map_some, Option.map_some, hhandles.received.1]

theorem request_comm {request : Request}
    (h : connection.request request = some (result, connection')) :
    connection'.comm = connection.comm := by
  obtain ⟨version, state, status, session', hprotocol, hhandles, htry⟩ := request_cases h
  have hhandled : session'.1.comm = connection.comm := by rw [hhandles.connection]
  rcases tryStatus_cases status { session'.1 with protocol := some ⟨version, session'.2⟩ } with
    ⟨-, heq⟩ | ⟨-, -, heq⟩ | ⟨-, -, heq⟩
  · rw [(Prod.mk.inj (htry.trans heq)).2]
    exact hhandled
  · rw [(Prod.mk.inj (htry.trans heq)).2]
    exact hhandled
  · rw [(Prod.mk.inj (htry.trans heq)).2, setStatus_eq]
    exact hhandled

theorem loadMessage_residue {message : BoltMessage}
    (h : connection.loadMessage message = some (result, connection')) :
    connection'.residue = connection.residue := by
  unfold BoltConnection.loadMessage at h
  split at h
  · cases h
  · next protocol hprotocol =>
    obtain ⟨⟨status, session'⟩, hloaded, hresult⟩ := Option.map_eq_some_iff.mp h
    obtain ⟨-, rfl⟩ := Prod.mk.inj hresult
    rw [residue, residue, hprotocol, Option.map_some, Option.map_some,
      (Seabolt.loadMessage_same hloaded).state]
    rfl

/-- A message that is loaded has the id that was next, and sending it asks for the response. -/
theorem asks_of_loads {failed : Bool}
    (hprotocol : connection.protocol = some ⟨version, state⟩) (hloads : Loads 1 connection loaded)
    (hreadable : loaded.Readable) (hcomm : loaded.comm = connection.comm)
    (hresidue : loaded.residue = connection.residue) (hfailed : loaded.failure.isSome = failed) :
    loaded.lastRequest = some state.next_request_id ∧
      Asks version state failed connection loaded.send.2 := by
  obtain ⟨version', state0, state1, hprotocol0, hprotocol1, hready, hid, hcounter, -⟩ :=
    hloads.protocol
  obtain ⟨rfl, rfl⟩ := BoltProtocol.mk.inj (Option.some.inj (hprotocol.symm.trans hprotocol0))
  obtain ⟨hsent, -, -⟩ := send_loads hprotocol1 hready
  have hprotocol' : loaded.send.2.protocol = some ⟨version, state1⟩ := by
    rw [send_same, hprotocol1]
  rw [residue, residue, hprotocol, hprotocol1, Option.map_some, Option.map_some,
    Option.some.injEq] at hresidue
  rw [failure, hprotocol1, Option.bind_some] at hfailed
  refine ⟨?_, ⟨state1, hprotocol', hresidue, hcounter, hfailed⟩, ?_, hreadable.send, fun h => ?_⟩
  · rw [lastRequest, hprotocol1, Option.map_some, hid, Nat.add_sub_cancel]
  · rw [BoltConnection.pending, BoltConnection.pending, hsent.rx_buffer, hsent.incoming,
      hloads.rx_buffer, hloads.incoming]
  · rw [← hcomm] at h
    exact send_reliable h

theorem reset_asks (hundamaged : connection.Undamaged)
    (hprotocol : connection.protocol = some ⟨version, state⟩)
    (hload : connection.loadResetRequest = some (BOLT_SUCCESS, loaded)) :
    loaded.lastRequest = some state.next_request_id ∧
      Asks version state false connection loaded.send.2 := by
  obtain ⟨hready, -⟩ := hundamaged.shaped version state hprotocol
  obtain ⟨n, hloads, hone, hfailure⟩ := request_loads hprotocol hready hload
  obtain rfl : n = 1 := hone rfl
  have hfailed : loaded.failure = none := hfailure
  refine asks_of_loads hprotocol hloads (hundamaged.readable.request hload) (request_comm hload)
    (request_residue hload) ?_
  rw [hfailed]
  rfl

theorem requested_asks {user_agent : List UInt8} {auth_token : BoltValue}
    (hundamaged : connection.Undamaged)
    (hprotocol : connection.protocol = some ⟨version, state⟩)
    (h : Requested user_agent auth_token connection request_id sent) :
    request_id = state.next_request_id ∧
      Asks version state state.failure_data.isSome connection sent := by
  obtain ⟨-, protocol, message, loaded, hprotocol', -, hload, hlast, hsend⟩ := h
  obtain ⟨hready, -⟩ := hundamaged.shaped version state hprotocol
  obtain ⟨hloads, hfailure⟩ := loadMessage_loads hprotocol hready hload
  have hcomm : loaded.comm = connection.comm := by
    rw [(loadMessage_same hload).1]
  obtain ⟨hlast', hasks⟩ := asks_of_loads hprotocol hloads
    (hundamaged.readable.loadMessage hload) hcomm (loadMessage_residue hload) rfl
  rw [hfailure, failure, hprotocol, hsend] at hasks
  exact ⟨Option.some.inj (hlast.symm.trans hlast'), hasks⟩

/-- A RESET can always be loaded. -/
theorem loadReset_success (hundamaged : connection.Undamaged)
    (h : connection.loadResetRequest = some (result, loaded)) : result = BOLT_SUCCESS := by
  obtain ⟨version, state, status, session', hprotocol, hhandles, htry⟩ := request_cases h
  obtain ⟨hready, hshaped⟩ := hundamaged.shaped version state hprotocol
  have hreset : state.reset_request = .create BOLT_V1_RESET 0 := by
    rw [show state.reset_request = state.prepared.reset_request from rfl, hshaped.others]
    cases version <;> rfl
  have hsuccess : status = BOLT_SUCCESS := by
    cases hhandles with
    | set run_request begin_request hmessages => cases hmessages
    | load run_request begin_request hload =>
      have hprepared : Session.TxReady (Session.prepare run_request begin_request
          ({ connection with protocol := none }, state)) :=
        ⟨hready.connection, hready.state, hready.drained⟩
      have hcheck : version.checkWritableStruct BOLT_V1_RESET := by cases version <;> decide
      obtain ⟨session1, -, hsure, -⟩ := loadMessages_sure
        (fun _ => version.checkWritableStruct_range) [state.reset_request]
        (by simpa only [List.mem_singleton, forall_eq, hreset] using bare_sure hcheck) hprepared
      exact (Prod.mk.inj (Option.some.inj (hload.symm.trans hsure))).1
  subst hsuccess
  exact (Prod.mk.inj htry).1

/-- Everything can be sent over a transport that does not fail. -/
theorem Faultless.send_success (h : connection.Faultless) (hcomm : loaded.comm = connection.comm) :
    loaded.send.1 = BOLT_SUCCESS := by
  rcases loaded.send_status with hsuccess | hfailed
  · exact hsuccess
  · unfold send at hfailed
    rw [hcomm] at hfailed
    simp only [h.sends, ne_eq, not_true_eq_false, if_false] at hfailed
    exact absurd hfailed (by decide)

/-! ## Lives of defunct connections -/

theorem restores_revives (hundamaged : connection.Undamaged) (h : Restores operation connection) :
    Revives operation connection := by
  have hopen : ∀ {request_id result final},
      connection.protocolFetch request_id = some (result, final) →
        ∃ version state, connection.protocol = some ⟨version, state⟩ := by
    intro request_id result final hfetch
    obtain ⟨version, state, -, hprotocol, -⟩ := protocolFetch_steady hfetch
    exact ⟨version, state, hprotocol⟩
  cases operation with
  | openAt target => exact h.elim
  | request request => exact h.elim
  | send => exact h.elim
  | close => exact h.elim
  | fetch request_id =>
    obtain ⟨final, hfetch, hrevived⟩ := h
    obtain ⟨version, state, hprotocol⟩ := hopen hfetch
    obtain ⟨state', hprotocol', messages, hunread, hsummary, -⟩ :=
      protocolFetch_unread hfetch hprotocol (hundamaged.readable _ _ hprotocol)
    exact ⟨version, state, _, hprotocol, ⟨messages, hunread, hsummary rfl⟩, rfl,
      (revived_iff [] hprotocol').mp hrevived⟩
  | fetchSummary request_id =>
    obtain ⟨results, final, hreads, hrevived⟩ := h
    obtain ⟨b, c1, bs, hstep, -⟩ := Runs.run_uncons hreads.run
    obtain ⟨version, state, hprotocol⟩ := hopen hstep
    obtain ⟨state', hprotocol', hends, -⟩ :=
      (Asks.refl hprotocol hundamaged.readable).reads hreads
    exact ⟨version, state, _, hprotocol, hends rfl, (revived_iff _ hprotocol').mp hrevived⟩
  | reset =>
    obtain ⟨loaded, request_id, hload, hlast, results, final, hreads, hrevived⟩ := h
    obtain ⟨version, state, -, -, hprotocol, -⟩ := request_cases hload
    obtain ⟨hlast', hasks⟩ := reset_asks hundamaged hprotocol hload
    obtain rfl := Option.some.inj (hlast.symm.trans hlast')
    obtain ⟨state', hprotocol', hends, -⟩ := hasks.reads hreads
    exact ⟨version, state, _, hprotocol, hends rfl, (revived_iff _ hprotocol').mp hrevived⟩
  | init user_agent auth_token =>
    obtain ⟨request_id, sent, results, final, code, hrequested, hreads, hcode, haccepted⟩ := h
    have hparts := hrequested
    obtain ⟨hversion, ⟨version, state⟩, message, loaded, hprotocol, hmessage, hload, -⟩ :=
      hparts
    obtain ⟨rfl, hasks⟩ := requested_asks hundamaged hprotocol hrequested
    obtain ⟨state', hprotocol', hends, -⟩ := hasks.reads hreads
    rw [lastCode, hprotocol', Option.map_some, Option.some.injEq] at hcode
    subst hcode
    exact ⟨version, state, _, hprotocol, hends rfl, haccepted, hversion, message, hmessage,
      fun hregular => (loadMessage_iff (hundamaged.prepared hprotocol) hprotocol hregular hload).mp
        rfl⟩

/-- Over a transport that does not fail, the operation does read it. -/
theorem revives_restores (hundamaged : connection.Undamaged) (hfaultless : connection.Faultless)
    (hproper : operation.Proper)
    (hperform : perform operation connection = some (result, connection'))
    (h : Revives operation connection) : Restores operation connection := by
  obtain ⟨version, state, conclusion, hprotocol, h⟩ := h
  cases operation with
  | openAt target => exact h.elim
  | request request => exact h.elim
  | send => exact h.elim
  | close => exact h.elim
  | fetch request_id =>
    obtain ⟨⟨messages', hunread', hconclusion⟩, hnext, husable⟩ := h
    simp only [perform, fetch_eq] at hperform
    obtain ⟨⟨fetched, final⟩, hfetch, -⟩ := Option.map_eq_some_iff.mp hperform
    obtain ⟨state', hprotocol', messages, hunread, hsummary, hmore⟩ :=
      protocolFetch_unread hfetch hprotocol (hundamaged.readable _ _ hprotocol)
    obtain ⟨more, hall, hfound⟩ := hfaultless.extends hprotocol hunread hunread' hconclusion
    have hlast : fetched = FETCH_SUMMARY := by
      by_contra hlast
      exact hmore hlast hfaultless.receives more conclusion hall hfound hnext
    subst hlast
    obtain rfl := Option.some.inj (hfound.symm.trans (summaryOf_append _ more _ (hsummary rfl)))
    exact ⟨final, hfetch, (revived_iff [] hprotocol').mpr husable⟩
  | fetchSummary request_id =>
    obtain ⟨hends, husable⟩ := h
    obtain ⟨results, last, final, hreads, -⟩ := fetchSummary_reads hperform
    obtain ⟨state', hprotocol', -, hlast⟩ := (Asks.refl hprotocol hundamaged.readable).reads hreads
    obtain ⟨rfl, rfl⟩ := hlast hprotocol hfaultless conclusion hends
    exact ⟨results, final, hreads, (revived_iff _ hprotocol').mpr husable⟩
  | reset =>
    obtain ⟨hends, husable⟩ := h
    obtain ⟨status, loaded, hload, hcase⟩ := reset_cases hperform
    obtain rfl := loadReset_success hundamaged hload
    obtain ⟨hlast, hasks⟩ := reset_asks hundamaged hprotocol hload
    rcases hcase with ⟨hfailed, -⟩ | ⟨-, request_id, records, hlast', ⟨hneg, -⟩ | ⟨hfetch, -⟩⟩
    · exact absurd rfl hfailed
    · rcases loaded.send_status with hstatus | hstatus
      all_goals
        rw [hstatus] at hneg
        exact absurd hneg (by decide)
    obtain rfl := Option.some.inj (hlast.symm.trans hlast')
    obtain ⟨results, last, final, hreads, -⟩ := fetchSummary_reads hfetch
    obtain ⟨state', hprotocol', -, hsummary⟩ := hasks.reads hreads
    obtain ⟨rfl, rfl⟩ := hsummary hprotocol hfaultless conclusion hends
    exact ⟨loaded, _, hload, hlast, results, final, hreads, (revived_iff _ hprotocol').mpr husable⟩
  | init user_agent auth_token =>
    obtain ⟨hends, haccepted, hversion, message, hmessage, hloadable⟩ := h
    obtain ⟨hagent, htoken⟩ := hproper
    simp only [perform, init_eq hprotocol hversion] at hperform
    obtain ⟨⟨code, final⟩, hinit, -⟩ := Option.map_eq_some_iff.mp hperform
    obtain ⟨message', status, loaded, hmessage', hload, hcase⟩ :=
      protocolInit_spec hprotocol hversion hinit
    obtain rfl := Option.some.inj (hmessage.symm.trans hmessage')
    have hsuccess : status = BOLT_SUCCESS := by
      obtain ⟨message', hmessage', hregular⟩ := initMessage_regular version hagent htoken
      obtain rfl := Option.some.inj (hmessage.symm.trans hmessage')
      exact (loadMessage_iff (hundamaged.prepared hprotocol) hprotocol hregular hload).mpr
        (hloadable hregular)
    rcases hcase with ⟨⟨hfailed, -⟩ | ⟨-, hfailed, -⟩, -⟩ |
      ⟨request_id, sent, results, last, final, code, hrequested, hreads, hcode, -⟩
    · exact absurd hsuccess hfailed
    · rw [hfaultless.send_success (by rw [(loadMessage_same hload).1])] at hfailed
      exact absurd hfailed (by decide)
    · obtain ⟨rfl, hasks⟩ := requested_asks hundamaged hprotocol hrequested
      obtain ⟨state', hprotocol', -, hsummary⟩ := hasks.reads hreads
      obtain ⟨rfl, rfl⟩ := hsummary hprotocol hfaultless conclusion hends
      rw [lastCode, hprotocol', Option.map_some, Option.some.injEq] at hcode
      subst hcode
      exact ⟨_, sent, results, final, _, hrequested, hreads,
        by rw [lastCode, hprotocol', Option.map_some], haccepted⟩

/-- Nothing but closing and opening ends the state `DEFUNCT`. -/
def StaysDefunct (operation : Operation) (connection : BoltConnection) (_ : Int)
    (connection' : BoltConnection) : Prop :=
  connection.status.state = .defunct → ¬operation.Reopens → connection'.status.state = .defunct

/-- A defunct connection is never asked for what it can still read. -/
def AsksNothing (operation : Operation) (connection : BoltConnection) : Prop :=
  connection.status.state = .defunct → ¬Revives operation connection

theorem perform_staysDefunct (hundamaged : connection.Undamaged)
    (hperform : perform operation connection = some (result, connection')) :
    (AsksNothing operation connection → StaysDefunct operation connection result connection') ∧
      (operation.Proper → connection.Faultless →
        StaysDefunct operation connection result connection' →
          AsksNothing operation connection) := by
  refine ⟨fun h hdefunct hreopens => ?_, fun hproper hfaultless h hdefunct hrevives => ?_⟩
  · exact (perform_defunct hdefunct hreopens hperform).mpr
      fun hrestores => h hdefunct (restores_revives hundamaged hrestores)
  · have hrestores := revives_restores hundamaged hfaultless hproper hperform hrevives
    have hreopens : ¬operation.Reopens := by
      cases operation with
      | openAt target => exact hrestores.elim
      | close => exact hrestores.elim
      | _ => exact not_false
    exact (perform_defunct hdefunct hreopens hperform).mp (h hdefunct hreopens) hrestores

/-- Nothing but closing and opening ends the state `DEFUNCT` all through a life in which a
defunct connection is never asked for what it can still read.  In no other life is that so,
as long as the transport does not fail on the defunct connection. -/
theorem meets_defunct (operations : List Operation) (connection final : BoltConnection)
    (results : List Int) (hundamaged : connection.Undamaged)
    (hrun : Runs.run perform operations connection = some (results, final)) :
    (Runs.Admissible perform AsksNothing operations connection →
      Runs.Meets perform StaysDefunct operations connection) ∧
    (Runs.Admissible perform (fun operation connection =>
        connection.status.state = .defunct → operation.Proper ∧ connection.Faultless) operations
        connection →
      Runs.Meets perform StaysDefunct operations connection →
        Runs.Admissible perform AsksNothing operations connection) := by
  constructor
  · intro hadmissible
    have hstep : ∀ operation (c : BoltConnection) result c', c.Undamaged →
        AsksNothing operation c → perform operation c = some (result, c') →
        StaysDefunct operation c result c' ∧ c'.Undamaged :=
      fun operation c result c' hc hasks hperform =>
        ⟨(perform_staysDefunct hc hperform).1 hasks, hc.perform hperform⟩
    exact Runs.meets_of_run hstep operations hundamaged hadmissible hrun
  · have hstep : ∀ operation (c : BoltConnection) result c', c.Undamaged →
        (c.status.state = .defunct → operation.Proper ∧ c.Faultless) →
        perform operation c = some (result, c') → StaysDefunct operation c result c' →
        AsksNothing operation c ∧ c'.Undamaged := by
      intro operation c result c' hc hok hperform hstays
      refine ⟨fun hdefunct => ?_, hc.perform hperform⟩
      obtain ⟨hproper, hfaultless⟩ := hok hdefunct
      exact (perform_staysDefunct hc hperform).2 hproper hfaultless hstays hdefunct
    exact Runs.admissible_of_meets hstep operations hundamaged

/-- A connection to which the server has sent a record and the summary behind it. -/
def unfetched : BoltConnection :=
  { idle .v1 with
    comm := { BoltCommunication.create with
      incoming := frames ((emptyRecordPayloads 1).map chunksOf) } }

theorem undamaged_unfetched : unfetched.Undamaged := by
  constructor
  · intro version state hprotocol
    obtain ⟨rfl, rfl⟩ := BoltProtocol.mk.inj (Option.some.inj hprotocol)
    exact ⟨BoltBuffer.wf_create _, BoltBuffer.wf_create _⟩
  · intro version state hprotocol
    obtain ⟨rfl, rfl⟩ := BoltProtocol.mk.inj (Option.some.inj hprotocol)
    exact ⟨⟨BoltBuffer.wf_create _, BoltBuffer.wf_create _, BoltBuffer.content_create _⟩,
      PreparedMessages.shaped_fresh _⟩

/-- A request that is refused, and the record that is fetched afterwards. -/
theorem meets_defunct_record :
    Runs.Meets perform StaysDefunct [.request (.loadPullRequest 5), .fetch 0] unfetched := by
  have hrun : (Runs.run perform [.request (.loadPullRequest 5), .fetch 0] unfetched).isSome := by
    decide +kernel
  obtain ⟨⟨results, final⟩, hrun⟩ := Option.isSome_iff_exists.mp hrun
  have hprotocol : unfetched.protocol = some ⟨.v1, BoltProtocolV1.createState⟩ := rfl
  have hready : Session.TxReady (unfetched, BoltProtocolV1.createState) :=
    ⟨BoltBuffer.wf_create _, BoltBuffer.wf_create _, BoltBuffer.content_create _⟩
  refine (meets_defunct _ unfetched final results undamaged_unfetched hrun).1
    ⟨fun hdefunct => absurd hdefunct (by decide), fun result connection hstep =>
      ⟨fun _ => ?_, fun _ _ _ => trivial⟩⟩
  have hrefused : unfetched.request (.loadPullRequest 5) = some (result, connection) := hstep
  obtain ⟨n, hloads, -, -⟩ := request_loads hprotocol hready hrefused
  have hpending : connection.pending = frames ((emptyRecordPayloads 1).map chunksOf) := by
    rw [BoltConnection.pending, hloads.rx_buffer, hloads.incoming]
    rfl
  obtain ⟨version, state0, state1, hprotocol0, hprotocol1, -, -, hcounter, -⟩ := hloads.protocol
  obtain ⟨rfl, rfl⟩ := BoltProtocol.mk.inj (Option.some.inj (hprotocol.symm.trans hprotocol0))
  have hresidue := request_residue hrefused
  rw [residue, residue, hprotocol, hprotocol1, Option.map_some, Option.map_some,
    Option.some.injEq] at hresidue
  rintro ⟨version, state, conclusion, hstate, ⟨messages, hunread, hsummary⟩, hnone, -⟩
  obtain ⟨rfl, rfl⟩ := BoltProtocol.mk.inj (Option.some.inj (hprotocol1.symm.trans hstate))
  have hcarries := carries_frames
    (encodes_emptyRecords BoltProtocolV1.checkReadableStructSignature 1) []
  rw [List.append_nil, ← hpending] at hcarries
  have hfronts := Unread.prefix_of_carries hcarries (by decide) (by rw [hresidue]; rfl) hunread
  rw [hcounter] at hsummary
  obtain ⟨more, hall⟩ := hfronts
  have hfound := summaryOf_append _ more _ hsummary
  rw [hall] at hfound
  have hrecord : summaryOf 0 0 state1.failure_data.isSome
      (state1.residue.showsAll ((emptyRecords 1).messages.map some)) =
        some ⟨[FETCH_RECORD], BOLT_V1_SUCCESS, state1.failure_data.isSome⟩ := by
    cases state1.failure_data.isSome <;> rfl
  obtain rfl := Option.some.inj (hfound.symm.trans hrecord)
  exact absurd hnone (List.cons_ne_nil _ _)

/-- A client that asks for a part of a result, which is refused, and then fetches
the summary of the query that it has sent before. -/
def refused : List Operation :=
  [.openAt (answering (frames ([[0xB1, 0x70, 0xA0], [0xB1, 0x70, 0xA0]].map chunksOf))),
    .init (ascii "agent") (.dictionary []), .request .loadRunRequest, .send,
    .request (.loadPullRequest 5)]

/-- The refusal has made the connection defunct, and the fetch makes it ready. -/
theorem fetch_revives :
    ∃ results connection connection', Runs.run perform refused create = some (results, connection) ∧
      connection.status = ⟨.defunct, BOLT_PROTOCOL_VIOLATION⟩ ∧
      perform (.fetch 1) connection = some (FETCH_SUMMARY, connection') ∧
      connection'.status = ⟨.ready, BOLT_SUCCESS⟩ := by
  have hlife : ((Runs.run perform refused create).bind fun run =>
      (perform (.fetch 1) run.2).map fun fetched =>
        (run.2.status, fetched.1, fetched.2.status)) =
      some (⟨.defunct, BOLT_PROTOCOL_VIOLATION⟩, FETCH_SUMMARY, ⟨.ready, BOLT_SUCCESS⟩) := by
    decide +kernel
  obtain ⟨⟨results, connection⟩, hrun, hfetch⟩ := Option.bind_eq_some_iff.mp hlife
  obtain ⟨⟨fetched, connection'⟩, hfetch, hresult⟩ := Option.map_eq_some_iff.mp hfetch
  simp only [Prod.mk.injEq] at hresult
  obtain ⟨hdefunct, rfl, hready⟩ := hresult
  exact ⟨results, connection, connection', hrun, hdefunct, hfetch, hready⟩

end BoltConnection

end Seabolt
