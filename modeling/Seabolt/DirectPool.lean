import Seabolt.Lib.Leases
import Seabolt.Lives

/-!
# The direct pool

`direct-pool.c`: a fixed number of connections to one address, each of which
has an agent while it is in use.  The sections under the mutex of the pool are
functions on its state; a timed wait ends a section of `BoltDirectPool_acquire`.

Every operation of a section works on one connection, and changes nothing of
the pool but that connection (`Works`).
-/

namespace Seabolt

/-- `struct BoltDirectPool`, with the part of the configuration that it reads.
`connections` has `max_size` entries. -/
structure BoltDirectPool where
  user_agent : List UInt8
  max_connection_life_time : Int
  max_connection_acquisition_time : Int
  auth_token : BoltValue
  max_size : Int
  in_use_count : Int
  connections : List BoltConnection

/-- What a section learns from outside: the age of the connection that it finds,
the result of `BoltAddress_resolve`, and what `BoltConnection_open` is called
with. -/
structure Surroundings where
  age : Int
  resolved : Int
  target : BoltConnection.Target

/-- How a section of `BoltDirectPool_acquire` ends: with a result and the status
of the caller, or in a wait for the condition of the pool. -/
inductive Acquired where
  | returned (connection : Option Nat) (status : BoltStatus)
  | waits
  deriving DecidableEq

/-- `BoltConnection_init` as the pools look at it. -/
def BoltConnection.initOrMoreInfo (user_agent : List UInt8) (auth_token : BoltValue)
    (connection : BoltConnection) : Outcome BoltConnection :=
  (connection.init user_agent auth_token).map fun (result, connection) =>
    (if result = 0 then BOLT_SUCCESS else BOLT_CONNECTION_HAS_MORE_INFO, connection)

/-- A call of a function of the protocol that does not go through the `TRY` of
`connection.c`, and whose status nobody looks at. -/
def BoltConnection.callProtocol (request : Request) (connection : BoltConnection) :
    Option BoltConnection :=
  match connection.protocol with
  | none => none
  | some protocol =>
    (protocol.version.request request ({ connection with protocol := none }, protocol.state)).map
      fun (_, connection, state) => { connection with protocol := some { protocol with state := state } }

namespace BoltDirectPool

/-- `BoltDirectPool_create`. -/
def create (user_agent : List UInt8) (max_connection_life_time max_connection_acquisition_time : Int)
    (auth_token : BoltValue) (max_pool_size : Nat) : BoltDirectPool where
  user_agent := user_agent
  max_connection_life_time := max_connection_life_time
  max_connection_acquisition_time := max_connection_acquisition_time
  auth_token := auth_token
  max_size := max_pool_size
  in_use_count := 0
  connections := List.replicate max_pool_size .create

/-- Work on `pool->connections[index]`. -/
def onConnection (index : Nat) (work : BoltConnection → Outcome BoltConnection)
    (pool : BoltDirectPool) : Outcome BoltDirectPool :=
  match pool.connections[index]? with
  | none => none
  | some connection => (work connection).map fun (status, connection) =>
      (status, { pool with connections := pool.connections.set index connection })

/-- `close_pool_entry`. -/
def closePoolEntry (index : Nat) (pool : BoltDirectPool) : Option BoltDirectPool :=
  (pool.onConnection index fun connection =>
    if connection.status.state ≠ .disconnected then
      connection.close.map fun connection => (BOLT_SUCCESS, connection)
    else some (BOLT_SUCCESS, connection)).map Prod.snd

/-- Whether an open connection is older than it may become. -/
def expired (age : Int) (connection : BoltConnection) (pool : BoltDirectPool) : Bool :=
  connection.status.state ≠ .disconnected ∧ connection.status.state ≠ .defunct ∧
    pool.max_connection_life_time > 0 ∧ age > pool.max_connection_life_time

/-- `find_unused_connection`. -/
def findUnusedConnection (age : Int) (pool : BoltDirectPool) :
    Option (Option Nat × BoltDirectPool) :=
  if pool.in_use_count ≥ pool.max_size then some (none, pool)
  else
    match pool.connections.findIdx? fun connection => !connection.agent with
    | none => some (none, pool)
    | some index =>
      if pool.connections[index]?.any fun connection => pool.expired age connection then
        (pool.closePoolEntry index).map fun pool => (some index, pool)
      else some (some index, pool)

/-- `init`. -/
def init (index : Nat) (pool : BoltDirectPool) : Outcome BoltDirectPool :=
  pool.onConnection index fun connection =>
    connection.initOrMoreInfo pool.user_agent pool.auth_token

/-- `reset`. -/
def reset (index : Nat) : BoltDirectPool → Outcome BoltDirectPool :=
  onConnection index BoltConnection.reset

/-- `open_init`. -/
def openInit (surroundings : Surroundings) (index : Nat) (pool : BoltDirectPool) :
    Outcome BoltDirectPool :=
  if surroundings.resolved ≠ 0 then some (BOLT_ADDRESS_NOT_RESOLVED, pool)
  else
    (pool.onConnection index (BoltConnection.openAt surroundings.target)).bind
      fun (opened, pool) =>
        if opened = 0 then pool.init index
        else some (BOLT_CONNECTION_HAS_MORE_INFO, pool)

/-- `reset_or_open_init`. -/
def resetOrOpenInit (surroundings : Surroundings) (index : Nat) (pool : BoltDirectPool) :
    Outcome BoltDirectPool :=
  (pool.reset index).bind fun (done, pool) =>
    if done = 0 then some (BOLT_SUCCESS, pool) else pool.openInit surroundings index

/-- `reset_or_close`. -/
def resetOrClose (index : Nat) (pool : BoltDirectPool) : Option BoltDirectPool :=
  (pool.reset index).bind fun (done, pool) =>
    if done = 0 then some pool else pool.closePoolEntry index

/-- The switch on the state of the connection that was found. -/
def revive (surroundings : Surroundings) (index : Nat) (pool : BoltDirectPool) :
    Outcome BoltDirectPool :=
  match pool.connections[index]? with
  | none => none
  | some connection =>
    match connection.status.state with
    | .disconnected | .defunct => pool.openInit surroundings index
    | .connected => pool.init index
    | .failed => pool.resetOrOpenInit surroundings index
    | .ready => some (BOLT_SUCCESS, pool)

/-- The end of a section that has no connection to return. -/
def withoutConnection (status : BoltStatus) (pool : BoltDirectPool) : Acquired :=
  if status.error = BOLT_POOL_FULL ∧ pool.max_connection_acquisition_time > 0 then .waits
  else .returned none status

/-- The switch on `pool_error`, and what follows it. -/
def handOut (pool_error : Int) (index : Nat) (pool : BoltDirectPool) :
    Option (Acquired × BoltDirectPool) :=
  match pool.connections[index]? with
  | none => none
  | some connection =>
    if pool_error = BOLT_SUCCESS then
      some (.returned (some index) ⟨connection.status.state, BOLT_SUCCESS⟩,
        { pool with
          connections := pool.connections.set index { connection with agent := true }
          in_use_count := pool.in_use_count + 1 })
    else if pool_error = BOLT_CONNECTION_HAS_MORE_INFO then
      some (pool.withoutConnection connection.status, pool)
    else some (pool.withoutConnection ⟨.disconnected, pool_error⟩, pool)

/-- A section of `BoltDirectPool_acquire`: a round of its loop. -/
def acquire (surroundings : Surroundings) (pool : BoltDirectPool) :
    Option (Acquired × BoltDirectPool) :=
  (pool.findUnusedConnection surroundings.age).bind fun (found, pool) =>
    match found with
    | none => some (pool.withoutConnection ⟨.disconnected, BOLT_POOL_FULL⟩, pool)
    | some index =>
      (pool.revive surroundings index).bind fun (pool_error, pool) =>
        pool.handOut pool_error index

/-- What the caller gets when the wait has timed out. -/
def timedOut : Acquired := .returned none ⟨.disconnected, BOLT_POOL_ACQUISITION_TIMED_OUT⟩

/-- `find_connection`.  A connection that is none of the pool's, or NULL, is not
found. -/
def findConnection (connection : Option Nat) (pool : BoltDirectPool) : Option Nat :=
  connection.filter fun index => index < pool.connections.length

/-- What `BoltDirectPool_release` does with the connection that it has found.
`none` when the connection has no protocol. -/
def recycle (index : Nat) (pool : BoltDirectPool) : Option BoltDirectPool :=
  (pool.onConnection index fun connection =>
    ({ connection with agent := false }.callProtocol .clearRun).bind fun connection =>
      (connection.callProtocol .clearBegin).map fun connection => (BOLT_SUCCESS, connection)).bind
    fun (_, pool) => pool.resetOrClose index

/-- `BoltDirectPool_release`. -/
def release (connection : Option Nat) (pool : BoltDirectPool) : Outcome BoltDirectPool :=
  match pool.findConnection connection with
  | some index => (pool.recycle index).map fun pool =>
      (index, { pool with in_use_count := pool.in_use_count - 1 })
  | none => some (-1, { pool with in_use_count := pool.in_use_count - 1 })

end BoltDirectPool

/-! ## What belongs to the user of a connection -/

/-- The agent, the access mode and the error callback of a connection, which the
operations of the connection do not change. -/
structure SameUser (connection connection' : BoltConnection) : Prop where
  agent : connection'.agent = connection.agent
  access_mode : connection'.access_mode = connection.access_mode
  on_error_cb : connection'.on_error_cb = connection.on_error_cb

namespace SameUser

theorem refl (connection : BoltConnection) : SameUser connection connection := ⟨rfl, rfl, rfl⟩

theorem trans {c1 c2 c3 : BoltConnection} (h : SameUser c1 c2) (h' : SameUser c2 c3) :
    SameUser c1 c3 :=
  ⟨h'.agent.trans h.agent, h'.access_mode.trans h.access_mode, h'.on_error_cb.trans h.on_error_cb⟩

end SameUser

/-- What an operation of a connection leaves alone, and what it reports. -/
structure Respects (connection connection' : BoltConnection) : Prop
    extends SameUser connection connection', Recorded connection connection'

namespace Respects

theorem of_same {c1 c2 : BoltConnection} (hagent : c2.agent = c1.agent)
    (hmode : c2.access_mode = c1.access_mode) (hcallback : c2.on_error_cb = c1.on_error_cb)
    (hcalls : c2.on_error_calls = c1.on_error_calls) : Respects c1 c2 :=
  ⟨⟨hagent, hmode, hcallback⟩, (Recorded.of_same hcallback hcalls).grows, fun _ => hcalls⟩

theorem refl (connection : BoltConnection) : Respects connection connection :=
  of_same rfl rfl rfl rfl

theorem trans {c1 c2 c3 : BoltConnection} (h : Respects c1 c2) (h' : Respects c2 c3) :
    Respects c1 c3 :=
  ⟨h.toSameUser.trans h'.toSameUser, (h.toRecorded.trans h'.toRecorded).grows,
    (h.toRecorded.trans h'.toRecorded).quiet⟩

end Respects

namespace BoltConnection

variable {connection connection' : BoltConnection} {result : Int}

theorem respects_setStatus (connection : BoltConnection) (state : BoltConnectionState) (error : Int) :
    Respects connection (connection.setStatus state error) := by
  have hrecorded := Recorded.setStatus connection state error
  refine ⟨?_, hrecorded.grows, hrecorded.quiet⟩
  rw [setStatus_eq]
  exact ⟨rfl, rfl, rfl⟩

theorem respects_tryStatus (status : Int) (connection : BoltConnection) :
    Respects connection (tryStatus status connection).2 := by
  rcases tryStatus_cases status connection with ⟨-, heq⟩ | ⟨-, -, heq⟩ | ⟨-, -, heq⟩
  · rw [heq]
    exact .refl _
  · rw [heq]
    exact .refl _
  · rw [heq]
    exact respects_setStatus _ _ _

theorem respects_send (connection : BoltConnection) : Respects connection connection.send.2 := by
  have hfailed : ∀ connection1 : BoltConnection, Respects connection connection1 →
      Respects connection (connection1.setStatusFromComm .defunct) :=
    fun connection1 h => h.trans (respects_setStatus connection1 _ _)
  unfold send
  dsimp only
  split_ifs
  · have hset := hfailed { connection with
      comm := (connection.comm.send ((connection.tx_buffer.data.drop
        connection.tx_buffer.cursor).take connection.tx_buffer.unloadable)).2
      tx_buffer := (connection.tx_buffer.unloadPointer connection.tx_buffer.unloadable).2 }
      (.of_same rfl rfl rfl rfl)
    exact ⟨⟨hset.agent, hset.access_mode, hset.on_error_cb⟩, hset.grows, hset.quiet⟩
  · exact .of_same rfl rfl rfl rfl

theorem respects_loadMessage {message : BoltMessage}
    (h : connection.loadMessage message = some (result, connection')) :
    Respects connection connection' := by
  rw [(loadMessage_same h).1]
  exact .of_same rfl rfl rfl rfl

theorem respects_request {request : Request}
    (h : connection.request request = some (result, connection')) :
    Respects connection connection' := by
  obtain ⟨version, state, status, session', -, hhandles, htry⟩ := request_cases h
  have htried := respects_tryStatus status { session'.1 with protocol := some ⟨version, session'.2⟩ }
  rw [← htry] at htried
  refine Respects.trans (.of_same ?_ ?_ ?_ ?_) htried
  all_goals
    show _ = _
    rw [hhandles.connection]

theorem respects_callProtocol {request : Request}
    (h : connection.callProtocol request = some connection') : Respects connection connection' := by
  rcases hprotocol : connection.protocol with _ | protocol
  · simp only [callProtocol, hprotocol] at h
    cases h
  · simp only [callProtocol, hprotocol] at h
    obtain ⟨⟨status, session'⟩, hrequest, rfl⟩ := Option.map_eq_some_iff.mp h
    have hconnection := (ProtocolVersion.request_handles hrequest).connection
    refine .of_same ?_ ?_ ?_ ?_
    all_goals
      show _ = _
      rw [hconnection]

theorem respects_protocolFetch {request : Nat}
    (h : connection.protocolFetch request = some (result, connection')) :
    Respects connection connection' := by
  have hrecorded := protocolFetch_recorded h
  obtain ⟨version, state, state', -, -, hsteady⟩ := protocolFetch_steady h
  have hagent := congrArg agent hsteady.connection.same
  have hmode := congrArg access_mode hsteady.connection.same
  exact ⟨⟨hagent, hmode, hrecorded.on_error_cb⟩, hrecorded.grows, hrecorded.quiet⟩

theorem respects_reported (result : Int) (connection : BoltConnection) :
    Respects connection (reported result connection).2 := by
  rcases reported_cases result connection with ⟨-, heq⟩ | ⟨-, -, heq⟩ | ⟨status, -, -, heq⟩
  · rw [heq]
    exact .refl _
  · rw [heq]
    exact .refl _
  · rw [heq]
    exact respects_setStatus _ _ _

theorem respects_fetchSummary {request : Nat}
    (h : connection.fetchSummary request = some (result, connection')) :
    Respects connection connection' := by
  obtain ⟨results, last, final, hreads, rfl, -⟩ := fetchSummary_reads h
  refine Respects.trans ?_ (respects_reported last final)
  exact Runs.related_of_run (R := Respects) .refl (fun _ _ _ h h' => h.trans h')
    (fun _ _ _ _ hstep => respects_protocolFetch hstep) _ hreads.run

theorem respects_goodbye (h : connection.goodbye = some connection') :
    Respects connection connection' := by
  unfold goodbye at h
  split at h
  · obtain ⟨⟨status, loaded⟩, hload, h⟩ := Option.bind_eq_some_iff.mp h
    dsimp only at h
    split_ifs at h
    · obtain rfl := Option.some.inj h
      exact (respects_loadMessage hload).trans (respects_send loaded)
    · obtain rfl := Option.some.inj h
      exact respects_loadMessage hload
  · obtain rfl := Option.some.inj h
    exact .refl _

theorem respects_close_ (h : connection.close_ = some connection') :
    Respects connection connection' := by
  obtain ⟨closed, hclosed, rfl⟩ := Option.map_eq_some_iff.mp h
  refine Respects.trans ?_ (respects_setStatus _ _ _)
  split_ifs at hclosed
  · obtain ⟨left, hgoodbye, rfl⟩ := Option.map_eq_some_iff.mp hclosed
    have hleft := respects_goodbye hgoodbye
    exact ⟨⟨hleft.agent, hleft.access_mode, hleft.on_error_cb⟩, hleft.grows, hleft.quiet⟩
  · obtain rfl := Option.some.inj hclosed
    exact .of_same rfl rfl rfl rfl

theorem respects_close (h : connection.close = some connection') :
    Respects connection connection' := by
  obtain ⟨closed, hclosed, rfl⟩ := Option.map_eq_some_iff.mp h
  split_ifs at hclosed
  · have hleft : Respects connection closed := respects_close_ hclosed
    exact ⟨⟨hleft.agent, hleft.access_mode, hleft.on_error_cb⟩, hleft.grows, hleft.quiet⟩
  · obtain rfl := Option.some.inj hclosed
    exact .of_same rfl rfl rfl rfl

theorem respects_negotiated {protocol_version : Int}
    (h : connection.negotiated protocol_version = some (result, connection')) :
    Respects connection connection' := by
  unfold negotiated at h
  dsimp only at h
  split at h
  · obtain ⟨-, rfl⟩ := Prod.mk.inj (Option.some.inj h)
    exact .of_same rfl rfl rfl rfl
  · obtain ⟨closed, hclose, hresult⟩ := Option.map_eq_some_iff.mp h
    obtain ⟨-, rfl⟩ := Prod.mk.inj hresult
    have hclosed := respects_close_ hclose
    exact ⟨⟨hclosed.agent, hclosed.access_mode, hclosed.on_error_cb⟩, hclosed.grows, hclosed.quiet⟩

theorem respects_handshakeB {v1 v2 v3 v4 : Nat}
    (h : connection.handshakeB v1 v2 v3 v4 = some (result, connection')) :
    Respects connection connection' := by
  unfold handshakeB at h
  dsimp only at h
  split_ifs at h
  · obtain ⟨-, rfl⟩ := Prod.mk.inj (Option.some.inj h)
    refine Respects.trans ?_ (respects_setStatus _ _ _)
    exact .of_same rfl rfl rfl rfl
  · obtain ⟨-, rfl⟩ := Prod.mk.inj (Option.some.inj h)
    refine Respects.trans ?_ (respects_setStatus _ _ _)
    exact .of_same rfl rfl rfl rfl
  · have hnegotiated := respects_negotiated h
    exact ⟨⟨hnegotiated.agent, hnegotiated.access_mode, hnegotiated.on_error_cb⟩, hnegotiated.grows, hnegotiated.quiet⟩

theorem respects_openDisconnected {target : Target}
    (h : connection.openDisconnected target = some (result, connection')) :
    Respects connection connection' := by
  unfold openDisconnected at h
  dsimp only at h
  split_ifs at h
  · obtain ⟨⟨status, connection1⟩, hhandshake, hresult⟩ := Option.map_eq_some_iff.mp h
    dsimp only at hresult
    have hopened := respects_handshakeB hhandshake
    have htried := respects_tryStatus status connection1
    have hboth : Respects connection (tryStatus status connection1).2 := by
      refine Respects.trans ?_ htried
      exact ⟨⟨hopened.agent, hopened.access_mode, hopened.on_error_cb⟩, hopened.grows, hopened.quiet⟩
    split_ifs at hresult
    · obtain ⟨-, rfl⟩ := Prod.mk.inj hresult
      exact hboth
    all_goals
      obtain ⟨-, rfl⟩ := Prod.mk.inj hresult
      exact hboth.trans (respects_setStatus _ _ _)
  · obtain ⟨-, rfl⟩ := Prod.mk.inj (Option.some.inj h)
    refine Respects.trans ?_ (respects_setStatus _ _ _)
    exact .of_same rfl rfl rfl rfl

theorem respects_openAt {target : Target}
    (h : connection.openAt target = some (result, connection')) :
    Respects connection connection' := by
  unfold openAt at h
  split_ifs at h
  · obtain ⟨closed, hclose, hopen⟩ := Option.bind_eq_some_iff.mp h
    exact (respects_close hclose).trans (respects_openDisconnected hopen)
  · exact respects_openDisconnected h

theorem respects_protocolInit {version : ProtocolVersion} {user_agent : List UInt8}
    {auth_token : BoltValue}
    (h : connection.protocolInit version user_agent auth_token = some (result, connection')) :
    Respects connection connection' := by
  obtain ⟨message, -, h⟩ := Option.bind_eq_some_iff.mp h
  rcases Outcome.TRY_cases h with ⟨-, hload⟩ | ⟨loaded, hload, h⟩
  · exact respects_loadMessage hload
  have hloaded := respects_loadMessage hload
  obtain ⟨request, -, h⟩ := Option.bind_eq_some_iff.mp h
  have hsent := hloaded.trans (respects_send loaded)
  rcases Outcome.TRY_cases h with ⟨-, hsend⟩ | ⟨sent, hsend, h⟩
  · rw [Option.some.inj hsend] at hsent
    exact hsent
  rw [Option.some.inj hsend] at hsent
  rcases Outcome.TRY_cases h with ⟨-, hfetch⟩ | ⟨fetched, hfetch, h⟩
  · exact hsent.trans (respects_fetchSummary hfetch)
  obtain ⟨protocol, -, hresult⟩ := Option.map_eq_some_iff.mp h
  obtain ⟨-, rfl⟩ := Prod.mk.inj hresult
  exact hsent.trans (respects_fetchSummary hfetch)

theorem respects_init {user_agent : List UInt8} {auth_token : BoltValue}
    (h : connection.init user_agent auth_token = some (result, connection')) :
    Respects connection connection' := by
  unfold init at h
  split_ifs at h
  · split at h
    · cases h
    · obtain ⟨⟨code, final⟩, hinit, hresult⟩ := Option.map_eq_some_iff.mp h
      have hfinal := respects_protocolInit hinit
      dsimp only at hresult
      unfold initialised at hresult
      split_ifs at hresult
      all_goals
        obtain ⟨-, rfl⟩ := Prod.mk.inj hresult
        exact hfinal.trans (respects_setStatus _ _ _)
  · obtain ⟨-, rfl⟩ := Prod.mk.inj (Option.some.inj h)
    exact respects_setStatus _ _ _

theorem respects_reset (h : connection.reset = some (result, connection')) :
    Respects connection connection' := by
  obtain ⟨status, loaded, hload, hcase⟩ := reset_cases h
  have hloaded : Respects connection loaded := respects_request hload
  have hsent := hloaded.trans (respects_send loaded)
  rcases hcase with ⟨-, -, rfl⟩ | ⟨-, request_id, records, -, ⟨-, -, rfl⟩ | ⟨hfetch, -⟩⟩
  · exact hloaded
  · exact hsent
  · exact hsent.trans (respects_fetchSummary hfetch)

theorem respects_perform {operation : Operation}
    (h : perform operation connection = some (result, connection')) :
    Respects connection connection' := by
  cases operation with
  | openAt target => exact respects_openAt h
  | init user_agent auth_token => exact respects_init h
  | request request => exact respects_request h
  | send =>
    simp only [perform] at h
    split_ifs at h
    have hsent := respects_send connection
    rwa [Option.some.inj h] at hsent
  | fetch request =>
    simp only [perform, fetch_eq] at h
    obtain ⟨⟨fetched, connection1⟩, hfetch, hresult⟩ := Option.map_eq_some_iff.mp h
    have hreported := respects_reported fetched connection1
    dsimp only at hresult
    rw [hresult] at hreported
    exact (respects_protocolFetch hfetch).trans hreported
  | fetchSummary request => exact respects_fetchSummary h
  | reset => exact respects_reset h
  | close =>
    obtain ⟨closed, hclose, hresult⟩ := Option.map_eq_some_iff.mp h
    obtain ⟨-, rfl⟩ := Prod.mk.inj hresult
    exact respects_close hclose

/-! ## Ready connections -/

/-- An initialisation that returns 0 leaves the connection ready. -/
theorem ready_of_init {user_agent : List UInt8} {auth_token : BoltValue}
    (h : connection.init user_agent auth_token = some (0, connection')) :
    connection'.status.state = .ready := by
  unfold init at h
  split_ifs at h
  · split at h
    · cases h
    · obtain ⟨⟨code, final⟩, -, hresult⟩ := Option.map_eq_some_iff.mp h
      dsimp only at hresult
      rcases initialised_status code final with ⟨-, -, hstatus⟩ | ⟨-, hfailed, -⟩
      · rw [hresult] at hstatus
        exact congrArg BoltStatus.state hstatus
      · rw [hresult] at hfailed
        exact absurd hfailed (by decide : (0 : Int) ≠ -1)
  · exact absurd (Prod.mk.inj (Option.some.inj h)).1 (by decide)

theorem isSummary_iff {code : Int16} : connection.isSummary code ↔ connection.lastCode = some code := by
  unfold isSummary lastCode
  cases connection.protocol with
  | none => simp
  | some protocol => simp

theorem summaryStatus_success (h : connection.lastCode = some BOLT_V1_SUCCESS) :
    connection.summaryStatus = some ⟨.ready, BOLT_SUCCESS⟩ := by
  obtain ⟨protocol, hprotocol, hcode⟩ := Option.map_eq_some_iff.mp h
  rw [summaryStatus, hprotocol, Option.bind_some, BoltProtocolState.summaryStatus, if_pos hcode]

/-- So does a reset that returns 0. -/
theorem ready_of_reset (h : connection.reset = some (0, connection')) :
    connection'.status.state = .ready := by
  obtain ⟨status, loaded, hload, hcase⟩ := reset_cases h
  rcases hcase with ⟨-, hfailed, -⟩ | ⟨-, request_id, records, -, ⟨-, hfailed, -⟩ | ⟨hfetch, hresult⟩⟩
  · exact absurd hfailed (by decide)
  · exact absurd hfailed (by decide)
  · split_ifs at hresult with hdone
    obtain ⟨hrecords, hsuccess⟩ := hdone
    obtain ⟨results, last, final, hreads, rfl, hrecords'⟩ := fetchSummary_reads hfetch
    have hcode : final.lastCode = some BOLT_V1_SUCCESS := by
      rw [← lastCode_reported last]
      exact isSummary_iff.mp hsuccess
    rcases reported_cases last final with ⟨hlast, heq⟩ | ⟨-, hnone, -⟩ | ⟨status, -, hsome, heq⟩
    · have hneg := hreads.last_le.lt_of_ne hlast
      rw [heq, if_pos hneg] at hrecords'
      exact absurd (hrecords' ▸ hneg) hrecords
    · rw [summaryStatus_success hcode] at hnone
      cases hnone
    · rw [summaryStatus_success hcode] at hsome
      obtain rfl := Option.some.inj hsome
      rw [heq, setStatus_status]

end BoltConnection

namespace BoltDirectPool

/-! ## The work of a section

Every operation on a connection of the pool is work on the entry of the pool
that holds it. -/

/-- The entry of a connection has been worked on, and the rest of the pool is as
it was. -/
def Works (index : Nat) (pool pool' : BoltDirectPool) : Prop :=
  ∃ connection connection', pool.connections[index]? = some connection ∧
    SameUser connection connection' ∧
    pool' = { pool with connections := pool.connections.set index connection' }

/-- The flags that say which connections are in use. -/
def agents (pool : BoltDirectPool) : List Bool :=
  pool.connections.map BoltConnection.agent

variable {pool pool' pool2 : BoltDirectPool} {index : Nat} {result : Int}
  {connection connection' : BoltConnection} {surroundings : Surroundings}

theorem agents_set (hentry : pool.connections[index]? = some connection)
    (hagent : connection'.agent = connection.agent) :
    (pool.connections.set index connection').map BoltConnection.agent = pool.agents := by
  have hflag : (pool.connections.map BoltConnection.agent)[index]? = some connection'.agent := by
    rw [List.getElem?_map, hentry, Option.map_some, hagent]
  obtain ⟨hlt, hget⟩ := List.getElem?_eq_some_iff.mp hflag
  rw [List.map_set, ← hget, List.set_getElem_self]
  rfl

namespace Works

theorem refl (hentry : pool.connections[index]? = some connection) : Works index pool pool := by
  obtain ⟨hlt, rfl⟩ := List.getElem?_eq_some_iff.mp hentry
  refine ⟨_, _, hentry, .refl _, ?_⟩
  rw [List.set_getElem_self]

theorem trans (h : Works index pool pool') (h' : Works index pool' pool2) :
    Works index pool pool2 := by
  obtain ⟨c1, c2, hentry, hsame, rfl⟩ := h
  obtain ⟨c2', c3, hentry', hsame', rfl⟩ := h'
  obtain ⟨hlt, -⟩ := List.getElem?_eq_some_iff.mp hentry
  obtain rfl : c2 = c2' := by
    rw [List.getElem?_set_self hlt] at hentry'
    exact Option.some.inj hentry'
  refine ⟨c1, c3, hentry, hsame.trans hsame', ?_⟩
  rw [List.set_set]

theorem entry (h : Works index pool pool') : ∃ c, pool.connections[index]? = some c := by
  obtain ⟨c, -, hentry, -⟩ := h
  exact ⟨c, hentry⟩

theorem agents (h : Works index pool pool') : pool'.agents = pool.agents := by
  obtain ⟨c, c', hentry, hsame, rfl⟩ := h
  exact agents_set hentry hsame.agent

theorem in_use_count (h : Works index pool pool') : pool'.in_use_count = pool.in_use_count := by
  obtain ⟨c, c', -, -, rfl⟩ := h
  rfl

theorem max_size (h : Works index pool pool') : pool'.max_size = pool.max_size := by
  obtain ⟨c, c', -, -, rfl⟩ := h
  rfl

end Works

theorem onConnection_cases {work : BoltConnection → Outcome BoltConnection}
    (h : pool.onConnection index work = some (result, pool')) :
    ∃ connection connection', pool.connections[index]? = some connection ∧
      work connection = some (result, connection') ∧
      pool' = { pool with connections := pool.connections.set index connection' } := by
  unfold onConnection at h
  split at h
  · cases h
  · obtain ⟨⟨status, connection'⟩, hwork, hresult⟩ := Option.map_eq_some_iff.mp h
    obtain ⟨rfl, rfl⟩ := Prod.mk.inj hresult
    exact ⟨_, connection', by assumption, hwork, rfl⟩

theorem onConnection_works {work : BoltConnection → Outcome BoltConnection}
    (hwork : ∀ connection connection', work connection = some (result, connection') →
      SameUser connection connection')
    (h : pool.onConnection index work = some (result, pool')) : Works index pool pool' := by
  obtain ⟨connection, connection', hentry, hdone, rfl⟩ := onConnection_cases h
  exact ⟨connection, connection', hentry, hwork _ _ hdone, rfl⟩

theorem closePoolEntry_works (h : pool.closePoolEntry index = some pool') :
    Works index pool pool' := by
  obtain ⟨⟨status, closed⟩, hclose, rfl⟩ := Option.map_eq_some_iff.mp h
  refine onConnection_works (fun connection connection' hwork => ?_) hclose
  split_ifs at hwork
  · obtain ⟨left, hleft, hresult⟩ := Option.map_eq_some_iff.mp hwork
    obtain ⟨-, rfl⟩ := Prod.mk.inj hresult
    exact (BoltConnection.respects_close hleft).toSameUser
  · obtain ⟨-, rfl⟩ := Prod.mk.inj (Option.some.inj hwork)
    exact .refl _

theorem init_works (h : pool.init index = some (result, pool')) : Works index pool pool' := by
  refine onConnection_works (fun connection connection' hwork => ?_) h
  obtain ⟨⟨status, left⟩, hinit, hresult⟩ := Option.map_eq_some_iff.mp hwork
  obtain ⟨-, rfl⟩ := Prod.mk.inj hresult
  exact (BoltConnection.respects_init hinit).toSameUser

theorem reset_works (h : pool.reset index = some (result, pool')) : Works index pool pool' :=
  onConnection_works (fun _ _ hwork => (BoltConnection.respects_reset hwork).toSameUser) h

theorem openInit_works (hentry : pool.connections[index]? = some connection)
    (h : pool.openInit surroundings index = some (result, pool')) : Works index pool pool' := by
  unfold openInit at h
  split_ifs at h
  · obtain ⟨-, rfl⟩ := Prod.mk.inj (Option.some.inj h)
    exact .refl hentry
  · obtain ⟨⟨opened, pool1⟩, hopen, h⟩ := Option.bind_eq_some_iff.mp h
    have hworks := onConnection_works
      (fun _ _ hwork => (BoltConnection.respects_openAt hwork).toSameUser) hopen
    dsimp only at h
    split_ifs at h
    · exact hworks.trans (init_works h)
    · obtain ⟨-, rfl⟩ := Prod.mk.inj (Option.some.inj h)
      exact hworks

theorem resetOrOpenInit_works (h : pool.resetOrOpenInit surroundings index = some (result, pool')) :
    Works index pool pool' := by
  obtain ⟨⟨done, pool1⟩, hreset, h⟩ := Option.bind_eq_some_iff.mp h
  have hworks := reset_works hreset
  dsimp only at h
  split_ifs at h
  · obtain ⟨-, rfl⟩ := Prod.mk.inj (Option.some.inj h)
    exact hworks
  · obtain ⟨c, c', hentry, -, rfl⟩ := id hworks
    obtain ⟨hlt, -⟩ := List.getElem?_eq_some_iff.mp hentry
    exact hworks.trans (openInit_works (List.getElem?_set_self hlt) h)

theorem revive_works (h : pool.revive surroundings index = some (result, pool')) :
    Works index pool pool' := by
  unfold revive at h
  split at h
  · cases h
  · next connection hentry =>
    split at h
    · exact openInit_works hentry h
    · exact openInit_works hentry h
    · exact init_works h
    · exact resetOrOpenInit_works h
    · obtain ⟨-, rfl⟩ := Prod.mk.inj (Option.some.inj h)
      exact .refl hentry

/-! ## What the sections of an acquisition find and hand out -/

/-- The connection that is found is in the pool, and has no agent. -/
theorem findUnusedConnection_cases {age : Int} {found : Option Nat}
    (h : pool.findUnusedConnection age = some (found, pool')) :
    found = none ∧ pool' = pool ∨
    ∃ i, found = some i ∧ pool.agents[i]? = some false ∧ pool.in_use_count < pool.max_size ∧
      Works i pool pool' := by
  unfold findUnusedConnection at h
  split_ifs at h with hfull
  · obtain ⟨rfl, rfl⟩ := Prod.mk.inj (Option.some.inj h)
    exact .inl ⟨rfl, rfl⟩
  · split at h
    · obtain ⟨rfl, rfl⟩ := Prod.mk.inj (Option.some.inj h)
      exact .inl ⟨rfl, rfl⟩
    · next i hfind =>
      obtain ⟨hlt, hagent, -⟩ := List.findIdx?_eq_some_iff_getElem.mp hfind
      have hentry : pool.connections[i]? = some pool.connections[i] := List.getElem?_eq_getElem hlt
      have hfree : pool.agents[i]? = some false := by
        rw [agents, List.getElem?_map, hentry, Option.map_some, Bool.eq_false_of_not_eq_true' hagent]
      split_ifs at h
      · obtain ⟨closed, hclose, hresult⟩ := Option.map_eq_some_iff.mp h
        obtain ⟨rfl, rfl⟩ := Prod.mk.inj hresult
        exact .inr ⟨i, rfl, hfree, by omega, closePoolEntry_works hclose⟩
      · obtain ⟨rfl, rfl⟩ := Prod.mk.inj (Option.some.inj h)
        exact .inr ⟨i, rfl, hfree, by omega, .refl hentry⟩

/-- The state of an entry of the pool. -/
def stateAt (index : Nat) (pool : BoltDirectPool) : Option BoltConnectionState :=
  pool.connections[index]?.map fun connection => connection.status.state

/-- Work that leaves the connection ready leaves the entry of the pool ready. -/
theorem onConnection_ready {work : BoltConnection → Outcome BoltConnection}
    (hwork : ∀ connection connection', work connection = some (result, connection') →
      connection'.status.state = .ready)
    (h : pool.onConnection index work = some (result, pool')) :
    pool'.stateAt index = some .ready := by
  obtain ⟨connection, connection', hentry, hdone, rfl⟩ := onConnection_cases h
  obtain ⟨hlt, -⟩ := List.getElem?_eq_some_iff.mp hentry
  unfold stateAt
  dsimp only
  rw [List.getElem?_set_self hlt, Option.map_some, hwork _ _ hdone]

theorem init_ready (h : pool.init index = some (0, pool')) : pool'.stateAt index = some .ready := by
  refine onConnection_ready (fun connection connection' hwork => ?_) h
  obtain ⟨⟨status, left⟩, hinit, hresult⟩ := Option.map_eq_some_iff.mp hwork
  dsimp only at hresult
  split_ifs at hresult with hdone
  · obtain ⟨-, rfl⟩ := Prod.mk.inj hresult
    subst hdone
    exact BoltConnection.ready_of_init hinit
  · exact absurd (Prod.mk.inj hresult).1 (by decide)

theorem openInit_ready (h : pool.openInit surroundings index = some (0, pool')) :
    pool'.stateAt index = some .ready := by
  unfold openInit at h
  split_ifs at h
  · exact absurd (Prod.mk.inj (Option.some.inj h)).1 (by decide)
  · obtain ⟨⟨opened, pool1⟩, -, h⟩ := Option.bind_eq_some_iff.mp h
    dsimp only at h
    split_ifs at h
    · exact init_ready h
    · exact absurd (Prod.mk.inj (Option.some.inj h)).1 (by decide)

/-- The switch on the state of a connection succeeds only with a connection that
is ready. -/
theorem revive_ready (h : pool.revive surroundings index = some (0, pool')) :
    pool'.stateAt index = some .ready := by
  unfold revive at h
  split at h
  · cases h
  · next connection hentry =>
    split at h
    · exact openInit_ready h
    · exact openInit_ready h
    · exact init_ready h
    · obtain ⟨⟨done, pool1⟩, hreset, h⟩ := Option.bind_eq_some_iff.mp h
      dsimp only at h
      split_ifs at h with hdone
      · obtain ⟨-, rfl⟩ := Prod.mk.inj (Option.some.inj h)
        subst hdone
        exact onConnection_ready (fun _ _ hwork => BoltConnection.ready_of_reset hwork) hreset
      · exact openInit_ready h
    · next hstate =>
      obtain ⟨-, rfl⟩ := Prod.mk.inj (Option.some.inj h)
      rw [stateAt, hentry, Option.map_some, hstate]

theorem withoutConnection_ne {status : BoltStatus} {i : Nat} {caller : BoltStatus} :
    pool.withoutConnection status ≠ .returned (some i) caller := by
  unfold withoutConnection
  split_ifs <;> simp

/-- A section finds no connection, or it works on the one that it finds until
it hands it out or gives up. -/
theorem acquire_inv {acquired : Acquired}
    (h : pool.acquire surroundings = some (acquired, pool')) :
    pool.findUnusedConnection surroundings.age = some (none, pool') ∧
      acquired = pool'.withoutConnection ⟨.disconnected, BOLT_POOL_FULL⟩ ∨
    ∃ i pool1 pool2 pool_error connection,
      pool.findUnusedConnection surroundings.age = some (some i, pool1) ∧
      pool1.revive surroundings i = some (pool_error, pool2) ∧
      pool2.connections[i]? = some connection ∧
      (pool_error = BOLT_SUCCESS ∧
        acquired = .returned (some i) ⟨connection.status.state, BOLT_SUCCESS⟩ ∧
        pool' = { pool2 with
          connections := pool2.connections.set i { connection with agent := true }
          in_use_count := pool2.in_use_count + 1 } ∨
       pool_error ≠ BOLT_SUCCESS ∧ pool' = pool2 ∧
        acquired = pool2.withoutConnection (if pool_error = BOLT_CONNECTION_HAS_MORE_INFO then
          connection.status else ⟨.disconnected, pool_error⟩)) := by
  obtain ⟨⟨found, pool1⟩, hfind, hround⟩ := Option.bind_eq_some_iff.mp h
  rcases found with _ | i
  · obtain ⟨rfl, rfl⟩ := Prod.mk.inj (Option.some.inj hround)
    exact .inl ⟨hfind, rfl⟩
  · obtain ⟨⟨pool_error, pool2⟩, hrevive, hround⟩ := Option.bind_eq_some_iff.mp hround
    dsimp only at hround
    unfold handOut at hround
    split at hround
    · cases hround
    · next connection hentry =>
      refine .inr ⟨i, pool1, pool2, pool_error, connection, hfind, hrevive, hentry, ?_⟩
      split_ifs at hround with hdone hmore
      · obtain ⟨rfl, rfl⟩ := Prod.mk.inj (Option.some.inj hround)
        exact .inl ⟨hdone, rfl, rfl⟩
      · obtain ⟨rfl, rfl⟩ := Prod.mk.inj (Option.some.inj hround)
        exact .inr ⟨hdone, rfl, by rw [if_pos hmore]⟩
      · obtain ⟨rfl, rfl⟩ := Prod.mk.inj (Option.some.inj hround)
        exact .inr ⟨hdone, rfl, by rw [if_neg hmore]⟩

/-- A section ends with a ready connection that had no agent and has one now, or
without a connection and with the agents as they were. -/
theorem acquire_cases {acquired : Acquired}
    (h : pool.acquire surroundings = some (acquired, pool')) :
    (∀ i status, acquired ≠ .returned (some i) status) ∧ pool'.agents = pool.agents ∧
      pool'.in_use_count = pool.in_use_count ∧ pool'.max_size = pool.max_size ∨
    ∃ i, acquired = .returned (some i) ⟨.ready, BOLT_SUCCESS⟩ ∧ pool.agents[i]? = some false ∧
      pool'.agents = pool.agents.set i true ∧ pool'.stateAt i = some .ready ∧
      pool.in_use_count < pool.max_size ∧
      pool'.in_use_count = pool.in_use_count + 1 ∧ pool'.max_size = pool.max_size := by
  rcases acquire_inv h with
    ⟨hfind, rfl⟩ | ⟨i, pool1, pool2, pool_error, connection, hfind, hrevive, hentry, hround⟩
  · rcases findUnusedConnection_cases hfind with ⟨-, rfl⟩ | ⟨i, hsome, -⟩
    · exact .inl ⟨fun _ _ => withoutConnection_ne, rfl, rfl, rfl⟩
    · cases hsome
  · rcases findUnusedConnection_cases hfind with ⟨hnone, -⟩ | ⟨j, hsome, hfree, hroom, hfound⟩
    · cases hnone
    obtain rfl := Option.some.inj hsome
    have hworks := hfound.trans (revive_works hrevive)
    rcases hround with ⟨rfl, rfl, rfl⟩ | ⟨-, rfl, rfl⟩
    · have hready := revive_ready hrevive
      obtain ⟨hlt, -⟩ := List.getElem?_eq_some_iff.mp hentry
      have hstate : connection.status.state = .ready := by
        rw [stateAt, hentry] at hready
        exact Option.some.inj hready
      refine .inr ⟨i, ?_, hfree, ?_, ?_, hroom, ?_, hworks.max_size⟩
      · rw [hstate]
      · rw [← hworks.agents]
        exact List.map_set
      · unfold stateAt
        dsimp only
        rw [List.getElem?_set_self hlt, Option.map_some, hstate]
      · rw [← hworks.in_use_count]
    · exact .inl ⟨fun _ _ => withoutConnection_ne, hworks.agents, hworks.in_use_count,
        hworks.max_size⟩

/-- What happens to the connection that is released. -/
theorem recycle_cases (h : pool.recycle index = some pool') :
    ∃ c c1 c2 c3 done c', pool.connections[index]? = some c ∧
      { c with agent := false }.callProtocol .clearRun = some c1 ∧
      c1.callProtocol .clearBegin = some c2 ∧ c2.reset = some (done, c3) ∧
      (done = 0 ∧ c' = c3 ∨ done ≠ 0 ∧ c3.status.state ≠ .disconnected ∧ c3.close = some c' ∨
        done ≠ 0 ∧ c3.status.state = .disconnected ∧ c' = c3) ∧
      pool' = { pool with connections := pool.connections.set index c' } := by
  obtain ⟨⟨status, pool1⟩, hclear, h⟩ := Option.bind_eq_some_iff.mp h
  obtain ⟨c, c2, hentry, hcleared, rfl⟩ := onConnection_cases hclear
  obtain ⟨c1, hrun, hrest⟩ := Option.bind_eq_some_iff.mp hcleared
  obtain ⟨c2', hbegin, hresult⟩ := Option.map_eq_some_iff.mp hrest
  obtain ⟨-, rfl⟩ := Prod.mk.inj hresult
  obtain ⟨hlt, -⟩ := List.getElem?_eq_some_iff.mp hentry
  have hset : ∀ c : BoltConnection, (pool.connections.set index c)[index]? = some c :=
    fun c => List.getElem?_set_self hlt
  obtain ⟨⟨done, pool2⟩, hreset, h⟩ := Option.bind_eq_some_iff.mp h
  obtain ⟨d, c3, hentry', hreset, rfl⟩ := onConnection_cases hreset
  obtain rfl := Option.some.inj ((hset c2').symm.trans hentry')
  dsimp only at h
  split_ifs at h with hdone
  · obtain rfl := Option.some.inj h
    refine ⟨c, c1, c2', c3, done, c3, hentry, hrun, hbegin, hreset, .inl ⟨hdone, rfl⟩, ?_⟩
    simp only [List.set_set]
  · obtain ⟨⟨status', pool3⟩, hclose, rfl⟩ := Option.map_eq_some_iff.mp h
    obtain ⟨d, c', hentry', hclose, rfl⟩ := onConnection_cases hclose
    simp only [List.set_set, hset] at hentry'
    obtain rfl := Option.some.inj hentry'
    refine ⟨c, c1, c2', c3, done, c', hentry, hrun, hbegin, hreset, .inr ?_, ?_⟩
    · split_ifs at hclose with hopen
      · obtain ⟨left, hleft, hresult⟩ := Option.map_eq_some_iff.mp hclose
        obtain ⟨-, rfl⟩ := Prod.mk.inj hresult
        exact .inl ⟨hdone, hopen, hleft⟩
      · obtain ⟨-, rfl⟩ := Prod.mk.inj (Option.some.inj hclose)
        exact .inr ⟨hdone, not_not.mp hopen, rfl⟩
    · simp only [List.set_set]

/-- The connection that is released has no agent any more. -/
theorem recycle_agents (h : pool.recycle index = some pool') :
    pool'.agents = pool.agents.set index false ∧ pool'.in_use_count = pool.in_use_count ∧
      pool'.max_size = pool.max_size := by
  obtain ⟨c, c1, c2, c3, done, c', hentry, hrun, hbegin, hreset, hleft, rfl⟩ := recycle_cases h
  have hsame : SameUser { c with agent := false } c3 :=
    (((BoltConnection.respects_callProtocol hrun).trans
      (BoltConnection.respects_callProtocol hbegin)).trans
        (BoltConnection.respects_reset hreset)).toSameUser
  have hagent : c'.agent = false := by
    rcases hleft with ⟨-, rfl⟩ | ⟨-, -, hclose⟩ | ⟨-, -, rfl⟩
    · exact hsame.agent
    · exact (hsame.trans (BoltConnection.respects_close hclose).toSameUser).agent
    · exact hsame.agent
  refine ⟨?_, rfl, rfl⟩
  show (pool.connections.set index c').map BoltConnection.agent = _
  rw [List.map_set, hagent]
  rfl

end BoltDirectPool

end Seabolt
