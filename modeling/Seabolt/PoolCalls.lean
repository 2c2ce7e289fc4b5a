import Seabolt.Recycling

/-!
# What a direct pool does to its connections

A connection of a direct pool that is not handed out is closed, opened,
initialised and reset by the pool, and by nobody else.  `PoolCalls` is any row of
such calls; a section of an acquisition makes one to the connection that it
finds, and touches no other connection.

An open connection has an id and an address.  Both go when it is closed, which
the users of a pool cannot do, so a connection that is handed out keeps them.
-/

namespace Seabolt

/-! ## Open connections -/

/-- What the functions that neither open nor close a connection leave alone. -/
structure SameLife (connection connection' : BoltConnection) : Prop
    extends SameUser connection connection' where
  named : connection'.id = connection.id
  opened : connection'.protocol.isSome = connection.protocol.isSome
  state : connection'.status.state = connection.status.state ∨
    connection'.status.state = .defunct ∨
    connection.protocol.isSome = true ∧ connection'.status.state ≠ .disconnected

namespace SameLife

theorem refl (connection : BoltConnection) : SameLife connection connection :=
  ⟨.refl connection, rfl, rfl, .inl rfl⟩

theorem trans {c1 c2 c3 : BoltConnection} (h : SameLife c1 c2) (h' : SameLife c2 c3) :
    SameLife c1 c3 := by
  refine ⟨h.toSameUser.trans h'.toSameUser, h'.named.trans h.named, h'.opened.trans h.opened, ?_⟩
  rcases h'.state with hsame | hdefunct | ⟨hopen, hstate⟩
  · rw [hsame]
    exact h.state
  · exact .inr (.inl hdefunct)
  · rw [h.opened] at hopen
    exact .inr (.inr ⟨hopen, hstate⟩)

end SameLife

namespace BoltConnection

variable {connection connection' : BoltConnection} {result : Int}

/-- An open connection has an id, and a ready or connected one is open. -/
structure Named (connection : BoltConnection) : Prop where
  named : connection.protocol.isSome = true → connection.id ≠ []
  ready : connection.status.state = .ready → connection.protocol.isSome = true
  closed : connection.status.state = .disconnected → connection.protocol = none

theorem Named.sameLife (h : Named connection) (hsame : SameLife connection connection') :
    Named connection' where
  named := by
    rw [hsame.opened, hsame.named]
    exact h.named
  ready := by
    intro hready
    rw [hsame.opened]
    rcases hsame.state with hstate | hstate | ⟨hopen, -⟩
    · exact h.ready (hstate.symm.trans hready)
    · rw [hready] at hstate
      cases hstate
    · exact hopen
  closed := by
    intro hclosed
    rcases hsame.state with hstate | hstate | ⟨-, hstate⟩
    · have hnone := h.closed (hstate.symm.trans hclosed)
      have hopened := hsame.opened
      rw [hnone] at hopened
      exact Option.isNone_iff_eq_none.mp (by simpa using hopened)
    · rw [hclosed] at hstate
      cases hstate
    · exact absurd hclosed hstate

theorem sameLife_defunct (connection : BoltConnection) (error : Int) :
    SameLife connection (connection.setStatus .defunct error) := by
  refine ⟨(respects_setStatus _ _ _).toSameUser, ?_, ?_, .inr (.inl ?_)⟩
  · rw [setStatus_eq]
  · rw [setStatus_protocol]
  · rw [setStatus_status]

theorem sameLife_setStatus {state : BoltConnectionState} (error : Int)
    (hopen : connection.protocol.isSome = true) (hstate : state ≠ .disconnected) :
    SameLife connection (connection.setStatus state error) := by
  refine ⟨(respects_setStatus _ _ _).toSameUser, ?_, ?_, .inr (.inr ⟨hopen, ?_⟩)⟩
  · rw [setStatus_eq]
  · rw [setStatus_protocol]
  · rwa [setStatus_status]

theorem sameLife_tryStatus (status : Int) (connection : BoltConnection) :
    SameLife connection (tryStatus status connection).2 := by
  rcases tryStatus_cases status connection with ⟨-, heq⟩ | ⟨-, -, heq⟩ | ⟨-, -, heq⟩
  · rw [heq]
    exact .refl _
  · rw [heq]
    exact .refl _
  · rw [heq]
    exact sameLife_defunct _ _

theorem sameLife_of_moves (hsame : SameUser connection connection')
    (hnamed : connection'.id = connection.id)
    (hopened : connection'.protocol.isSome = connection.protocol.isSome)
    (hmoves : connection.status.Moves connection'.status) : SameLife connection connection' := by
  refine ⟨hsame, hnamed, hopened, ?_⟩
  rcases hmoves with hstatus | ⟨hstate, -⟩
  · exact .inl (congrArg BoltStatus.state hstatus)
  · exact .inr (.inl hstate)

theorem sameLife_send (connection : BoltConnection) : SameLife connection connection.send.2 := by
  apply sameLife_of_moves (respects_send connection).toSameUser _ _ (send_moves connection)
  · rw [send_same]
  · rw [send_same]

theorem sameLife_loadMessage {message : BoltMessage}
    (h : connection.loadMessage message = some (result, connection')) :
    SameLife connection connection' := by
  obtain ⟨hsame, hversion⟩ := loadMessage_same h
  apply sameLife_of_moves (respects_loadMessage h).toSameUser
  · rw [hsame]
  · rw [← Option.isSome_map (f := BoltProtocol.version), hversion, Option.isSome_map]
  · rw [hsame]
    exact .refl _

theorem sameLife_request {request : Request}
    (h : connection.request request = some (result, connection')) :
    SameLife connection connection' := by
  obtain ⟨version, state, status, session', hprotocol, hhandles, htry⟩ := request_cases h
  have htried := sameLife_tryStatus status { session'.1 with protocol := some ⟨version, session'.2⟩ }
  rw [← htry] at htried
  have hnamed := htried.named
  have hopened := htried.opened
  apply sameLife_of_moves (respects_request h).toSameUser _ _ (request_moves h)
  · refine hnamed.trans ?_
    show session'.1.id = connection.id
    rw [hhandles.connection]
  · refine hopened.trans ?_
    rw [hprotocol]
    rfl

theorem sameLife_protocolFetch {request : Nat}
    (h : connection.protocolFetch request = some (result, connection')) :
    SameLife connection connection' := by
  obtain ⟨version, state, state', hprotocol, hprotocol', hsteady⟩ := protocolFetch_steady h
  have hnamed := congrArg BoltConnection.id hsteady.connection.same
  apply sameLife_of_moves (respects_protocolFetch h).toSameUser hnamed _ (protocolFetch_moves h)
  rw [hprotocol, hprotocol']
  rfl

theorem sameLife_reported (result : Int) (connection : BoltConnection) :
    SameLife connection (reported result connection).2 := by
  rcases reported_cases result connection with ⟨-, heq⟩ | ⟨-, -, heq⟩ | ⟨status, -, hsummary, heq⟩
  · rw [heq]
    exact .refl _
  · rw [heq]
    exact .refl _
  · obtain ⟨protocol, hprotocol, hstatus⟩ := Option.bind_eq_some_iff.mp hsummary
    rw [heq]
    apply sameLife_setStatus
    · rw [hprotocol]
      rfl
    · unfold BoltProtocolState.summaryStatus at hstatus
      split_ifs at hstatus
      all_goals
        rw [← Option.some.inj hstatus]
        decide

theorem sameLife_fetchSummary {request : Nat}
    (h : connection.fetchSummary request = some (result, connection')) :
    SameLife connection connection' := by
  obtain ⟨results, last, final, hreads, rfl, -⟩ := fetchSummary_reads h
  refine SameLife.trans ?_ (sameLife_reported last final)
  exact Runs.related_of_run (R := SameLife) .refl (fun _ _ _ h h' => h.trans h')
    (fun _ _ _ _ hstep => sameLife_protocolFetch hstep) _ hreads.run

theorem sameLife_callProtocol {request : Request}
    (h : connection.callProtocol request = some connection') : SameLife connection connection' := by
  have hsame := (respects_callProtocol h).toSameUser
  rcases hprotocol : connection.protocol with _ | protocol
  · simp only [callProtocol, hprotocol] at h
    cases h
  · simp only [callProtocol, hprotocol] at h
    obtain ⟨⟨status, session'⟩, hrequest, rfl⟩ := Option.map_eq_some_iff.mp h
    have hconnection := (ProtocolVersion.request_handles hrequest).connection
    apply sameLife_of_moves hsame
    · show session'.1.id = connection.id
      rw [hconnection]
    · rw [hprotocol]
      rfl
    · show connection.status.Moves session'.1.status
      rw [hconnection]
      exact .refl _

theorem sameLife_reset (h : connection.reset = some (result, connection')) :
    SameLife connection connection' := by
  obtain ⟨status, loaded, hload, hcase⟩ := reset_cases h
  have hloaded : SameLife connection loaded := sameLife_request hload
  have hsent := hloaded.trans (sameLife_send loaded)
  rcases hcase with ⟨-, -, rfl⟩ | ⟨-, request_id, records, -, ⟨-, -, rfl⟩ | ⟨hfetch, -⟩⟩
  · exact hloaded
  · exact hsent
  · exact hsent.trans (sameLife_fetchSummary hfetch)

theorem sameLife_init {user_agent : List UInt8} {auth_token : BoltValue}
    (h : connection.init user_agent auth_token = some (result, connection')) :
    SameLife connection connection' := by
  unfold init at h
  split_ifs at h
  · rcases hprotocol : connection.protocol with _ | protocol
    · simp only [hprotocol] at h
      cases h
    simp only [hprotocol] at h
    obtain ⟨⟨code, final⟩, hinit, hresult⟩ := Option.map_eq_some_iff.mp h
    have hfinal : SameLife connection final := by
      obtain ⟨message, -, hinit⟩ := Option.bind_eq_some_iff.mp hinit
      rcases Outcome.TRY_cases hinit with ⟨-, hload⟩ | ⟨loaded, hload, hinit⟩
      · exact sameLife_loadMessage hload
      have hloaded := sameLife_loadMessage hload
      obtain ⟨request, -, hinit⟩ := Option.bind_eq_some_iff.mp hinit
      have hsent := hloaded.trans (sameLife_send loaded)
      rcases Outcome.TRY_cases hinit with ⟨-, hsend⟩ | ⟨sent, hsend, hinit⟩
      · rwa [Option.some.inj hsend] at hsent
      rw [Option.some.inj hsend] at hsent
      rcases Outcome.TRY_cases hinit with ⟨-, hfetch⟩ | ⟨fetched, hfetch, hinit⟩
      · exact hsent.trans (sameLife_fetchSummary hfetch)
      obtain ⟨protocol, -, hresult⟩ := Option.map_eq_some_iff.mp hinit
      obtain ⟨-, rfl⟩ := Prod.mk.inj hresult
      exact hsent.trans (sameLife_fetchSummary hfetch)
    have hopen : final.protocol.isSome = true := by
      rw [hfinal.opened, hprotocol]
      rfl
    dsimp only at hresult
    unfold initialised at hresult
    split_ifs at hresult
    all_goals
      obtain ⟨-, rfl⟩ := Prod.mk.inj hresult
      exact hfinal.trans (sameLife_setStatus _ hopen (by decide))
  · obtain ⟨-, rfl⟩ := Prod.mk.inj (Option.some.inj h)
    exact sameLife_defunct _ _

/-! ## Opening and closing -/

theorem Named.close (h : Named connection) (hclose : connection.close = some connection') :
    Named connection' ∧ connection'.protocol = none := by
  obtain ⟨closed, hclosed, rfl⟩ := Option.map_eq_some_iff.mp hclose
  have hnone : closed.protocol = none ∧ closed.status.state = .disconnected := by
    split_ifs at hclosed with hstate
    · have hprotocol : closed.protocol = none := protocol_of_close_ hclosed
      have hstatus : closed.status = _ := status_of_close_ hclosed
      exact ⟨hprotocol, by rw [hstatus]⟩
    · obtain rfl := Option.some.inj hclosed
      exact ⟨h.closed (not_not.mp hstate), not_not.mp hstate⟩
  refine ⟨⟨fun hopen => ?_, fun hready => ?_, fun _ => hnone.1⟩, hnone.1⟩
  · have hsome : closed.protocol.isSome = true := hopen
    rw [hnone.1] at hsome
    cases hsome
  · have hstate : closed.status.state = .ready := hready
    rw [hnone.2] at hstate
    cases hstate

/-- A connection without a protocol that is neither ready nor connected. -/
theorem named_of_none (hnone : connection.protocol = none)
    (hstate : connection.status.state ≠ .ready) : Named connection where
  named := by
    intro hopen
    rw [hnone] at hopen
    cases hopen
  ready := fun hready => absurd hready hstate
  closed := fun _ => hnone

theorem negotiated_cases {protocol_version : Int}
    (h : connection.negotiated protocol_version = some (result, connection')) :
    result = BOLT_SUCCESS ∧ connection'.protocol.isSome = true ∧ connection'.id = connection.id ∨
    result ≠ BOLT_SUCCESS ∧ connection'.protocol = none ∧
      connection'.status.state = .disconnected := by
  unfold negotiated at h
  dsimp only at h
  split at h
  · obtain ⟨rfl, rfl⟩ := Prod.mk.inj (Option.some.inj h)
    exact .inl ⟨rfl, rfl, rfl⟩
  · obtain ⟨closed, hclose, hresult⟩ := Option.map_eq_some_iff.mp h
    obtain ⟨rfl, rfl⟩ := Prod.mk.inj hresult
    exact .inr ⟨by decide, protocol_of_close_ hclose, by rw [status_of_close_ hclose]⟩

/-- The handshake leaves an open connection, or one without a protocol. -/
theorem handshakeB_cases {v1 v2 v3 v4 : Nat} (hnone : connection.protocol = none)
    (h : connection.handshakeB v1 v2 v3 v4 = some (result, connection')) :
    result = BOLT_SUCCESS ∧ connection'.protocol.isSome = true ∧ connection'.id = connection.id ∨
    result ≠ BOLT_SUCCESS ∧ connection'.protocol = none ∧ connection'.status.state ≠ .ready := by
  unfold handshakeB at h
  dsimp only at h
  split_ifs at h
  · obtain ⟨rfl, rfl⟩ := Prod.mk.inj (Option.some.inj h)
    rw [setStatusFromComm, setStatus_protocol, setStatus_status]
    exact .inr ⟨by decide, hnone, show BoltConnectionState.defunct ≠ .ready by decide⟩
  · obtain ⟨rfl, rfl⟩ := Prod.mk.inj (Option.some.inj h)
    rw [setStatusFromComm, setStatus_protocol, setStatus_status]
    exact .inr ⟨by decide, hnone, show BoltConnectionState.defunct ≠ .ready by decide⟩
  · rcases negotiated_cases h with ⟨hresult, hopen, hnamed⟩ | ⟨hresult, hprotocol, hstate⟩
    · exact .inl ⟨hresult, hopen, hnamed⟩
    · refine .inr ⟨hresult, hprotocol, ?_⟩
      rw [hstate]
      decide

theorem named_openDisconnected {target : Target} (htarget : target.id ≠ [])
    (hnone : connection.protocol = none)
    (h : connection.openDisconnected target = some (result, connection')) : Named connection' := by
  unfold openDisconnected at h
  dsimp only at h
  split_ifs at h
  · obtain ⟨⟨status, connection1⟩, hhandshake, hresult⟩ := Option.map_eq_some_iff.mp h
    dsimp only at hresult
    rcases handshakeB_cases (by exact hnone) hhandshake with
      ⟨rfl, hopen, hnamed⟩ | ⟨hstatus, hprotocol, hstate⟩
    · have htry : tryStatus BOLT_SUCCESS connection1 = (BOLT_SUCCESS, connection1) := rfl
      rw [htry] at hresult
      simp only [ne_eq, not_true_eq_false, if_false] at hresult
      obtain ⟨-, rfl⟩ := Prod.mk.inj hresult
      refine ⟨fun _ => ?_, fun _ => ?_, fun hclosed => ?_⟩
      · rw [setStatus_eq]
        show connection1.id ≠ []
        rw [hnamed]
        exact htarget
      · rwa [setStatus_protocol]
      · rw [setStatus_status] at hclosed
        cases hclosed
    · have htried := sameLife_tryStatus status connection1
      have hfailed : (tryStatus status connection1).1 ≠ BOLT_SUCCESS := by
        rcases tryStatus_cases status connection1 with ⟨hdone, -⟩ | ⟨-, -, heq⟩ | ⟨-, -, heq⟩
        · exact absurd hdone hstatus
        · rw [heq]
          show (-1 : Int) ≠ BOLT_SUCCESS
          decide
        · rw [heq]
          exact hstatus
      rw [if_pos hfailed] at hresult
      obtain ⟨-, rfl⟩ := Prod.mk.inj hresult
      exact (named_of_none hprotocol hstate).sameLife htried
  · obtain ⟨-, rfl⟩ := Prod.mk.inj (Option.some.inj h)
    refine named_of_none ?_ ?_
    · rw [setStatusFromComm, setStatus_protocol]
      exact hnone
    · rw [setStatusFromComm, setStatus_status]
      show BoltConnectionState.defunct ≠ .ready
      decide

theorem Named.openAt {target : Target} (htarget : target.id ≠ []) (h : Named connection)
    (hopen : connection.openAt target = some (result, connection')) : Named connection' := by
  unfold BoltConnection.openAt at hopen
  split_ifs at hopen with hstate
  · obtain ⟨closed, hclose, hopen⟩ := Option.bind_eq_some_iff.mp hopen
    exact named_openDisconnected htarget (h.close hclose).2 hopen
  · exact named_openDisconnected htarget (h.closed (not_not.mp hstate)) hopen

/-! ## What a pool does to its connections -/

/-- A call that a direct pool makes to a connection that is not handed out.  It
opens connections to one target. -/
inductive PoolCall (target : Target) (connection connection' : BoltConnection) : Prop
  | close (h : connection.close = some connection')
  | openAt (result : Int) (h : connection.openAt target = some (result, connection'))
  | init (user_agent : List UInt8) (auth_token : BoltValue) (result : Int)
    (h : connection.init user_agent auth_token = some (result, connection'))
  | reset (result : Int) (h : connection.reset = some (result, connection'))

/-- Any number of such calls. -/
abbrev PoolCalls (target : Target) : BoltConnection → BoltConnection → Prop :=
  Relation.ReflTransGen (PoolCall target)

theorem Named.poolCall {target : Target} (htarget : target.id ≠ []) (h : Named connection)
    (hcall : PoolCall target connection connection') : Named connection' := by
  cases hcall with
  | close hclose => exact (h.close hclose).1
  | openAt result hopen => exact h.openAt htarget hopen
  | init user_agent auth_token result hinit => exact h.sameLife (sameLife_init hinit)
  | reset result hreset => exact h.sameLife (sameLife_reset hreset)

theorem Named.poolCalls {target : Target} (htarget : target.id ≠ []) (h : Named connection)
    (hcalls : PoolCalls target connection connection') : Named connection' := by
  induction hcalls with
  | refl => exact h
  | tail _ hcall ih => exact ih.poolCall htarget hcall

theorem respects_poolCall {target : Target} (hcall : PoolCall target connection connection') :
    Respects connection connection' := by
  cases hcall with
  | close hclose => exact respects_close hclose
  | openAt result hopen => exact respects_openAt hopen
  | init user_agent auth_token result hinit => exact respects_init hinit
  | reset result hreset => exact respects_reset hreset

theorem respects_poolCalls {target : Target} (hcalls : PoolCalls target connection connection') :
    Respects connection connection' := by
  induction hcalls with
  | refl => exact .refl _
  | tail _ hcall ih => exact ih.trans (respects_poolCall hcall)

end BoltConnection

namespace BoltDirectPool

open BoltConnection (PoolCall PoolCalls)

variable {pool pool' pool2 : BoltDirectPool} {index : Nat} {result : Int}
  {connection : BoltConnection} {surroundings : Surroundings} {target : BoltConnection.Target}

/-- The pool has made calls to one of its connections. -/
def Calls (target : BoltConnection.Target) (index : Nat) (pool pool' : BoltDirectPool) : Prop :=
  ∃ connection connection', pool.connections[index]? = some connection ∧
    PoolCalls target connection connection' ∧
    pool' = { pool with connections := pool.connections.set index connection' }

theorem Calls.refl (hentry : pool.connections[index]? = some connection) :
    Calls target index pool pool := by
  obtain ⟨hlt, rfl⟩ := List.getElem?_eq_some_iff.mp hentry
  refine ⟨_, _, hentry, .refl, ?_⟩
  rw [List.set_getElem_self]

theorem Calls.trans (h : Calls target index pool pool') (h' : Calls target index pool' pool2) :
    Calls target index pool pool2 := by
  obtain ⟨c1, c2, hentry, hcalls, rfl⟩ := h
  obtain ⟨c, c3, hentry', hcalls', rfl⟩ := h'
  obtain ⟨hlt, -⟩ := List.getElem?_eq_some_iff.mp hentry
  obtain rfl : c2 = c := by
    rw [List.getElem?_set_self hlt] at hentry'
    exact Option.some.inj hentry'
  refine ⟨c1, c3, hentry, hcalls.trans hcalls', ?_⟩
  rw [List.set_set]

theorem onConnection_calls {work : BoltConnection → Outcome BoltConnection}
    (hwork : ∀ connection connection', work connection = some (result, connection') →
      PoolCalls target connection connection')
    (h : pool.onConnection index work = some (result, pool')) : Calls target index pool pool' := by
  obtain ⟨connection, connection', hentry, hdone, rfl⟩ := onConnection_cases h
  exact ⟨connection, connection', hentry, hwork _ _ hdone, rfl⟩

theorem closePoolEntry_calls (h : pool.closePoolEntry index = some pool') :
    Calls target index pool pool' := by
  obtain ⟨⟨status, closed⟩, hclose, rfl⟩ := Option.map_eq_some_iff.mp h
  refine onConnection_calls (fun connection connection' hwork => ?_) hclose
  split_ifs at hwork
  · obtain ⟨left, hleft, hresult⟩ := Option.map_eq_some_iff.mp hwork
    obtain ⟨-, rfl⟩ := Prod.mk.inj hresult
    exact .single (.close hleft)
  · obtain ⟨-, rfl⟩ := Prod.mk.inj (Option.some.inj hwork)
    exact .refl

theorem init_calls (h : pool.init index = some (result, pool')) : Calls target index pool pool' := by
  refine onConnection_calls (fun connection connection' hwork => ?_) h
  obtain ⟨⟨status, left⟩, hinit, hresult⟩ := Option.map_eq_some_iff.mp hwork
  obtain ⟨-, rfl⟩ := Prod.mk.inj hresult
  exact .single (.init _ _ _ hinit)

theorem openInit_calls (hentry : pool.connections[index]? = some connection)
    (h : pool.openInit surroundings index = some (result, pool')) :
    Calls surroundings.target index pool pool' := by
  unfold openInit at h
  split_ifs at h
  · obtain ⟨-, rfl⟩ := Prod.mk.inj (Option.some.inj h)
    exact .refl hentry
  · obtain ⟨⟨opened, pool1⟩, hopen, h⟩ := Option.bind_eq_some_iff.mp h
    have hcalls : Calls surroundings.target index pool pool1 :=
      onConnection_calls (fun _ _ hwork => .single (.openAt _ hwork)) hopen
    dsimp only at h
    split_ifs at h
    · exact hcalls.trans (init_calls h)
    · obtain ⟨-, rfl⟩ := Prod.mk.inj (Option.some.inj h)
      exact hcalls

theorem revive_calls (h : pool.revive surroundings index = some (result, pool')) :
    Calls surroundings.target index pool pool' := by
  unfold revive at h
  split at h
  · cases h
  · next connection hentry =>
    split at h
    · exact openInit_calls hentry h
    · exact openInit_calls hentry h
    · exact init_calls h
    · obtain ⟨⟨done, pool1⟩, hreset, h⟩ := Option.bind_eq_some_iff.mp h
      have hcalls : Calls surroundings.target index pool pool1 :=
        onConnection_calls (fun _ _ hwork => .single (.reset _ hwork)) hreset
      dsimp only at h
      split_ifs at h
      · obtain ⟨-, rfl⟩ := Prod.mk.inj (Option.some.inj h)
        exact hcalls
      · obtain ⟨c, c', hentry', -, rfl⟩ := id hcalls
        obtain ⟨hlt, -⟩ := List.getElem?_eq_some_iff.mp hentry'
        exact hcalls.trans (openInit_calls (List.getElem?_set_self hlt) h)
    · obtain ⟨-, rfl⟩ := Prod.mk.inj (Option.some.inj h)
      exact .refl hentry

theorem findUnusedConnection_calls {age : Int} {i : Nat}
    (h : pool.findUnusedConnection age = some (some i, pool')) :
    pool.agents[i]? = some false ∧ Calls target i pool pool' := by
  unfold findUnusedConnection at h
  split_ifs at h with hfull
  · cases h
  · split at h
    · cases h
    · next j hfind =>
      obtain ⟨hlt, hagent, -⟩ := List.findIdx?_eq_some_iff_getElem.mp hfind
      have hentry : pool.connections[j]? = some pool.connections[j] := List.getElem?_eq_getElem hlt
      have hfree : pool.agents[j]? = some false := by
        rw [agents, List.getElem?_map, hentry, Option.map_some, Bool.eq_false_of_not_eq_true' hagent]
      split_ifs at h
      · obtain ⟨closed, hclose, hresult⟩ := Option.map_eq_some_iff.mp h
        obtain ⟨hi, rfl⟩ := Prod.mk.inj hresult
        obtain rfl := Option.some.inj hi
        exact ⟨hfree, closePoolEntry_calls hclose⟩
      · obtain ⟨hi, rfl⟩ := Prod.mk.inj (Option.some.inj h)
        obtain rfl := Option.some.inj hi
        exact ⟨hfree, .refl hentry⟩

/-- What becomes of the connection that is released. -/
theorem recycle_calls (h : pool.recycle index = some pool') :
    ∃ c c2 c', pool.connections[index]? = some c ∧ SameLife { c with agent := false } c2 ∧
      (BoltConnection.Holds BoltConnection.Shaped c → BoltConnection.Holds BoltConnection.Blank c2) ∧
      PoolCalls target c2 c' ∧
      pool' = { pool with connections := pool.connections.set index c' } := by
  obtain ⟨c, c1, c2, c3, done, c', hentry, hrun, hbegin, hreset, hleft, rfl⟩ := recycle_cases h
  refine ⟨c, c2, c', hentry, ?_, fun hshaped => ?_, ?_, rfl⟩
  · exact (BoltConnection.sameLife_callProtocol hrun).trans
      (BoltConnection.sameLife_callProtocol hbegin)
  · have hfree : BoltConnection.Holds BoltConnection.Shaped { c with agent := false } :=
      hshaped.of_eq rfl rfl
    exact (hfree.clearRun hrun).clearBegin hbegin
  · have hdone : PoolCalls target c2 c3 := .single (.reset done hreset)
    rcases hleft with ⟨-, rfl⟩ | ⟨-, -, hclose⟩ | ⟨-, -, rfl⟩
    · exact hdone
    · exact hdone.tail (.close hclose)
    · exact hdone

/-- A section of an acquisition makes calls to one connection that is not handed
out, at most, and may hand it out if it is ready then. -/
theorem acquire_calls {acquired : Acquired}
    (h : pool.acquire surroundings = some (acquired, pool')) :
    pool' = pool ∧ (∀ i status, acquired ≠ .returned (some i) status) ∨
    ∃ i c c', pool.connections[i]? = some c ∧ c.agent = false ∧
      PoolCalls surroundings.target c c' ∧
      (acquired = .returned (some i) ⟨.ready, BOLT_SUCCESS⟩ ∧ c'.status.state = .ready ∧
        pool' = { pool with
          connections := pool.connections.set i { c' with agent := true }
          in_use_count := pool.in_use_count + 1 } ∨
       (∀ i status, acquired ≠ .returned (some i) status) ∧
        pool' = { pool with connections := pool.connections.set i c' }) := by
  rcases acquire_inv h with
    ⟨hfind, rfl⟩ | ⟨i, pool1, pool2, pool_error, connection, hfind, hrevive, hentry, hround⟩
  · rcases findUnusedConnection_cases hfind with ⟨-, rfl⟩ | ⟨i, hsome, -⟩
    · exact .inl ⟨rfl, fun _ _ => withoutConnection_ne⟩
    · cases hsome
  · obtain ⟨hfree, hfound⟩ := findUnusedConnection_calls hfind
    obtain ⟨c, c', hentry', hcalls, rfl⟩ := hfound.trans (revive_calls hrevive)
    obtain ⟨hlt, -⟩ := List.getElem?_eq_some_iff.mp hentry'
    rw [List.getElem?_set_self hlt] at hentry
    obtain rfl := Option.some.inj hentry
    rw [agents, List.getElem?_map, hentry'] at hfree
    refine .inr ⟨i, c, c', hentry', Option.some.inj hfree, hcalls, ?_⟩
    rcases hround with ⟨rfl, rfl, rfl⟩ | ⟨-, rfl, rfl⟩
    · have hready := revive_ready hrevive
      rw [stateAt, List.getElem?_set_self hlt, Option.map_some, Option.some.injEq] at hready
      refine .inl ⟨by rw [hready], hready, ?_⟩
      simp only [List.set_set]
    · exact .inr ⟨fun _ _ => withoutConnection_ne, rfl⟩

end BoltDirectPool

/-! ## Kept connections -/

namespace BoltConnection

variable {connection connection' : BoltConnection} {target : Target}

/-- A connection as the pools keep it.  If it is in use it has an id; if it is
not, it has no error callback. -/
structure Kept (connection : BoltConnection) : Prop where
  named : Named connection
  addressed : connection.agent = true → connection.id ≠ []
  silent : connection.agent = false → connection.on_error_cb = false
  tidy : Tidy connection

theorem kept_create : Kept .create where
  named := named_of_none rfl (by decide)
  addressed := nofun
  silent := fun _ => rfl
  tidy := ⟨holds_closed rfl, fun _ => holds_closed rfl⟩

theorem tidy_poolCall (h : Tidy connection) (hcall : PoolCall target connection connection') :
    Tidy connection' := by
  cases hcall with
  | close hclose => exact lasting_tidy.close _ _ h hclose
  | openAt result hopen => exact lasting_tidy.openAt _ _ _ _ h hopen
  | init user_agent auth_token result hinit => exact lasting_tidy.init _ _ _ _ _ h hinit
  | reset result hreset => exact lasting_tidy.reset _ _ _ h hreset

/-- What a pool does to a connection that is not handed out. -/
theorem Kept.poolCalls (htarget : target.id ≠ []) (h : Kept connection)
    (hfree : connection.agent = false) (hcalls : PoolCalls target connection connection') :
    Kept connection' ∧ connection'.agent = false := by
  have hsame := respects_poolCalls hcalls
  have htidy : Tidy connection' := by
    clear hsame
    induction hcalls with
    | refl => exact h.tidy
    | tail _ hcall ih => exact tidy_poolCall ih hcall
  have hagent : connection'.agent = false := hsame.agent.trans hfree
  refine ⟨⟨h.named.poolCalls htarget hcalls, ?_, ?_, htidy⟩, hagent⟩
  · intro hused
    rw [hagent] at hused
    cases hused
  · intro _
    rw [hsame.on_error_cb]
    exact h.silent hfree

/-- What a user does to a connection that is handed out. -/
theorem Kept.sameLife (h : Kept connection) (hused : connection.agent = true)
    (hsame : SameLife connection connection') (hshaped : Holds Shaped connection') :
    Kept connection' := by
  have hagent : connection'.agent = true := hsame.agent.trans hused
  refine ⟨h.named.sameLife hsame, ?_, ?_, hshaped, ?_⟩
  · intro _
    rw [hsame.named]
    exact h.addressed hused
  · intro hfree
    rw [hagent] at hfree
    cases hfree
  · intro hfree
    rw [hagent] at hfree
    cases hfree

/-- A ready connection is handed out. -/
theorem Kept.handOut (h : Kept connection) (hready : connection.status.state = .ready) :
    Kept { connection with agent := true } where
  named := ⟨h.named.named, h.named.ready, h.named.closed⟩
  addressed := fun _ => h.named.named (h.named.ready hready)
  silent := nofun
  tidy := ⟨h.tidy.shaped.of_eq rfl rfl, nofun⟩

end BoltConnection

namespace BoltDirectPool

open BoltConnection (Kept)

variable {pool pool' : BoltDirectPool} {index : Nat} {result : Int} {surroundings : Surroundings}

theorem kept_create (user_agent : List UInt8) (life_time acquisition_time : Int)
    (auth_token : BoltValue) (max_pool_size : Nat) :
    All Kept (create user_agent life_time acquisition_time auth_token max_pool_size) := by
  intro connection hconnection
  rw [List.eq_of_mem_replicate hconnection]
  exact BoltConnection.kept_create

theorem acquire_kept (htarget : surroundings.target.id ≠ []) (h : All Kept pool)
    {acquired : Acquired} (hacquire : pool.acquire surroundings = some (acquired, pool')) :
    All Kept pool' := by
  rcases acquire_calls hacquire with
    ⟨rfl, -⟩ | ⟨i, c, c', hentry, hfree, hcalls, ⟨-, hready, rfl⟩ | ⟨-, rfl⟩⟩
  · exact h
  · have hkept := ((h c (List.mem_of_getElem? hentry)).poolCalls htarget hfree hcalls).1
    exact h.set (hkept.handOut hready)
  · exact h.set ((h c (List.mem_of_getElem? hentry)).poolCalls htarget hfree hcalls).1

/-- A connection whose error callback has been cleared is released. -/
theorem recycle_kept (h : All Kept pool)
    (hsilent : ∀ connection, pool.connections[index]? = some connection →
      connection.on_error_cb = false)
    (hrecycle : pool.recycle index = some pool') : All Kept pool' := by
  let target : BoltConnection.Target := ⟨.create, [], [0]⟩
  obtain ⟨c, c2, c', hentry, hsame, hblank, hcalls, rfl⟩ := @recycle_calls pool pool' index target
    hrecycle
  have hc := h c (List.mem_of_getElem? hentry)
  have hfree : c2.agent = false := hsame.agent
  have hkept : Kept c2 := by
    have hblank2 := hblank hc.tidy.shaped
    have hnamed : BoltConnection.Named { c with agent := false } :=
      ⟨hc.named.named, hc.named.ready, hc.named.closed⟩
    refine ⟨hnamed.sameLife hsame, ?_, ?_, hblank2.mono BoltConnection.shaped_of_blank,
      fun _ => hblank2⟩
    · intro hused
      rw [hfree] at hused
      cases hused
    · intro _
      rw [hsame.on_error_cb]
      exact hsilent c hentry
  have htarget : target.id ≠ [] := by decide
  exact h.set (hkept.poolCalls htarget hfree hcalls).1

end BoltDirectPool

end Seabolt
