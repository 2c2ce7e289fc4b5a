import Seabolt.Callbacks

/-!
# Changes of the leader

A server that is not the leader any more answers a write with a FAILURE, and one
that cannot serve its database does so as well.  The error callback of the
connection then forgets the server, as a writer or altogether.

The callback is called when the state of the connection changes.  A FAILURE that
finds the connection in the state `FAILED`, because the success of a RESET has
not been fetched, changes nothing.
-/

namespace Seabolt

/-! ## The routing table under the error handler -/

namespace RoutingTable

variable {table table' : RoutingTable} {server : BoltAddress}

/-- Servers have been forgotten. -/
structure Shrinks (table table' : RoutingTable) : Prop where
  distinct : table.Distinct → table'.Distinct
  writers : table'.writers ⊆ table.writers
  forgotten : ∀ server, table.Forgotten server → table'.Forgotten server

theorem Shrinks.refl (table : RoutingTable) : Shrinks table table :=
  ⟨fun h => h, fun _ h => h, fun _ h => h⟩

theorem Shrinks.trans {t1 t2 t3 : RoutingTable} (h : Shrinks t1 t2) (h' : Shrinks t2 t3) :
    Shrinks t1 t3 :=
  ⟨h'.distinct ∘ h.distinct, fun _ hmem => h.writers (h'.writers hmem),
    fun server hforgotten => h'.forgotten server (h.forgotten server hforgotten)⟩

theorem remove_subset (set : BoltAddressSet) (address : BoltAddress) :
    BoltAddressSet.remove set address ⊆ set := by
  rw [remove_eq_erase]
  exact List.erase_subset

theorem shrinks_forgetServer (server : BoltAddress) : Shrinks table (table.forgetServer server) where
  distinct := Distinct.forgetServer
  writers := remove_subset _ _
  forgotten := fun _ h => ⟨fun hmem => h.1 (remove_subset _ _ hmem),
    fun hmem => h.2.1 (remove_subset _ _ hmem), fun hmem => h.2.2 (remove_subset _ _ hmem)⟩

theorem shrinks_forgetWriter (server : BoltAddress) : Shrinks table (table.forgetWriter server) where
  distinct := Distinct.forgetWriter
  writers := remove_subset _ _
  forgotten := fun _ h => ⟨h.1, h.2.1, fun hmem => h.2.2 (remove_subset _ _ hmem)⟩

/-- What a failure says about a server is in the table. -/
def Heeds (code : List UInt8) (server : BoltAddress) (table : RoutingTable) : Prop :=
  (code = BoltRoutingPool.FORBIDDEN_ON_READ_ONLY_DATABASE ∨ code = BoltRoutingPool.NOT_A_LEADER →
      server ∉ table.writers) ∧
    (code = BoltRoutingPool.DATABASE_UNAVAILABLE → table.Forgotten server)

theorem Heeds.shrinks {code : List UInt8} (h : table.Heeds code server)
    (hshrinks : Shrinks table table') : table'.Heeds code server :=
  ⟨fun hcode hmem => h.1 hcode (hshrinks.writers hmem),
    fun hcode => hshrinks.forgotten server (h.2 hcode)⟩

/-- The codes that the handler knows are C strings. -/
theorem Heeds.of_cString {code : List UInt8} (h : table.Heeds (code.takeWhile (· ≠ 0)) server) :
    table.Heeds code server := by
  refine ⟨fun hcode => h.1 ?_, fun hcode => h.2 ?_⟩
  · rcases hcode with rfl | rfl
    · exact .inl (by decide)
    · exact .inr (by decide)
  · rw [hcode]
    decide

end RoutingTable

namespace BoltRoutingPool

open RoutingTable (Shrinks)

variable {pool pool' : BoltRoutingPool} {handle : Handle} {status : BoltStatus}
  {calls : List Locks.Call} {server : ServerPool} {connection : BoltConnection}
  {code : List UInt8}

theorem shrinks_connectionErrorHandler
    (h : pool.connectionErrorHandler handle status = some (calls, pool')) :
    Shrinks pool.routing_table pool'.routing_table := by
  rcases connectionErrorHandler_cases h with ⟨-, rfl⟩ | ⟨-, address, rfl | rfl⟩
  · exact .refl _
  · exact RoutingTable.shrinks_forgetServer address
  · exact RoutingTable.shrinks_forgetWriter address

theorem shrinks_handleAll (statuses : List BoltStatus) :
    ∀ {pool pool' : BoltRoutingPool} {calls : List Locks.Call},
      handleAll handle statuses pool = some (calls, pool') →
      Shrinks pool.routing_table pool'.routing_table := by
  induction statuses with
  | nil =>
    intro pool pool' calls h
    obtain ⟨-, rfl⟩ := Prod.mk.inj (Option.some.inj h)
    exact .refl _
  | cons status statuses ih =>
    intro pool pool' calls h
    obtain ⟨⟨first, pool1⟩, hfirst, h⟩ := Option.bind_eq_some_iff.mp h
    obtain ⟨⟨more, pool2⟩, hmore, hresult⟩ := Option.map_eq_some_iff.mp h
    obtain ⟨-, rfl⟩ := Prod.mk.inj hresult
    exact (shrinks_connectionErrorHandler hfirst).trans (ih hmore)

/-- The handler heeds the failure of a server. -/
theorem heeds_handleConnectionErrorByFailure {address : BoltAddress} {failure : Option BoltValue}
    (hdistinct : pool.routing_table.Distinct) (hcode : failure.bind codeStr = some code) :
    (pool.handleConnectionErrorByFailure address failure).2.routing_table.Heeds code address := by
  unfold handleConnectionErrorByFailure
  rw [hcode]
  dsimp only
  split_ifs with hforbidden hleader hunavailable
  · refine ⟨fun _ => RoutingTable.not_mem_forgetWriter hdistinct, fun hcode => ?_⟩
    exact absurd (hforbidden.symm.trans hcode) (by decide)
  · refine ⟨fun _ => RoutingTable.not_mem_forgetWriter hdistinct, fun hcode => ?_⟩
    exact absurd (hleader.symm.trans hcode) (by decide)
  · have hforgotten := @RoutingTable.forgotten_forgetServer address _ hdistinct
    exact ⟨fun _ => hforgotten.2.2, fun _ => hforgotten⟩
  · refine ⟨fun hcode => ?_, fun hcode => absurd hcode hunavailable⟩
    rcases hcode with hcode | hcode
    · exact absurd hcode hforbidden
    · exact absurd hcode hleader

theorem heeds_connectionErrorHandler (hread : pool.allocated.read handle.pool = some server)
    (hentry : server.pool.connections[handle.index]? = some connection)
    (hdistinct : pool.routing_table.Distinct) (haddress : connection.id ≠ [])
    (hcode : connection.failure.bind codeStr = some code) (herror : status.error = BOLT_SERVER_FAILURE)
    (h : pool.connectionErrorHandler handle status = some (calls, pool')) :
    pool'.routing_table.Heeds code server.address := by
  have hfound : pool.addressOf handle = some (some server.address) := by
    unfold addressOf
    rw [hread, Option.bind_some, hentry, Option.map_some, if_neg haddress]
  unfold connectionErrorHandler at h
  rw [hread, Option.bind_some, hentry, Option.bind_some, hfound, Option.join_some, Option.map_some,
    herror] at h
  have hpool := (Prod.mk.inj (Option.some.inj h)).2
  rw [← hpool]
  exact heeds_handleConnectionErrorByFailure hdistinct hcode

/-- The handler is called with a failure, whatever else it is called with. -/
theorem heeds_handleAll {statuses : List BoltStatus} (hmem : ⟨.failed, BOLT_SERVER_FAILURE⟩ ∈ statuses) :
    ∀ {pool pool' : BoltRoutingPool} {calls : List Locks.Call},
      pool.allocated.read handle.pool = some server →
      server.pool.connections[handle.index]? = some connection → pool.routing_table.Distinct →
      connection.id ≠ [] → connection.failure.bind codeStr = some code →
      handleAll handle statuses pool = some (calls, pool') →
        pool'.routing_table.Heeds code server.address := by
  induction statuses with
  | nil => cases hmem
  | cons status statuses ih =>
    intro pool pool' calls hread hentry hdistinct haddress hcode h
    obtain ⟨⟨first, pool1⟩, hfirst, h⟩ := Option.bind_eq_some_iff.mp h
    obtain ⟨⟨more, pool2⟩, hmore, hresult⟩ := Option.map_eq_some_iff.mp h
    obtain ⟨-, rfl⟩ := Prod.mk.inj hresult
    rcases List.mem_cons.mp hmem with rfl | hlater
    · have hheeds := heeds_connectionErrorHandler hread hentry hdistinct haddress hcode rfl hfirst
      exact hheeds.shrinks (shrinks_handleAll statuses hmore)
    · have hallocated : pool1.allocated = pool.allocated := by
        rcases connectionErrorHandler_cases hfirst with ⟨-, rfl⟩ | ⟨-, address, rfl | rfl⟩
        · rfl
        · rfl
        · rfl
      refine ih hlater ?_ hentry ((shrinks_connectionErrorHandler hfirst).distinct hdistinct) haddress
        hcode hmore
      rw [hallocated]
      exact hread

end BoltRoutingPool

/-! ## A fetch that returns a failure -/

namespace BoltConnection

variable {connection connection' : BoltConnection} {result : Int}

/-- The operation has read a summary: `BoltConnection_fetch` has returned 0, or it
has inside `BoltConnection_fetch_summary`, which counts the records before. -/
def Summarised : Operation → Int → Prop
  | .fetch _, result => result = 0
  | .fetchSummary _, result => 0 ≤ result
  | _, _ => False

/-- The summary of the response that an operation asks for is in the stream, and
the protocol reads up to it. -/
def ReadsTo : Operation → BoltConnection → BoltConnection → Prop
  | .fetch request, connection, final =>
    connection.protocolFetch request = some (FETCH_SUMMARY, final)
  | .fetchSummary request, connection, final =>
    ∃ results, Reads request connection results FETCH_SUMMARY final ∧ 0 ≤ total results
  | _, _, _ => False

/-- The last message is a FAILURE with this code. -/
def Tells (code : List UInt8) (connection : BoltConnection) : Prop :=
  connection.lastCode = some BOLT_V1_FAILURE ∧
    connection.metadataString FAILURE_CODE_KEY = some code

/-- What the connection is before its status is set to that of a FAILURE. -/
structure Learns (connection final : BoltConnection) : Prop where
  respects : Respects connection final
  quiet : Quiet connection final
  failure : ∀ code, final.lastCode = some BOLT_V1_FAILURE →
    final.metadataString FAILURE_CODE_KEY = some code →
    ∃ message, final.failure = some (failureData (.string code) message)

theorem learns_protocolFetch {request : Nat} (hexplained : Bears Explained connection)
    (h : connection.protocolFetch request = some (FETCH_SUMMARY, connection')) :
    Learns connection connection' where
  respects := respects_protocolFetch h
  quiet := (protocolFetch_quiet h).resolve_left (by decide)
  failure _ hlast hcode := protocolFetch_failure hexplained h hlast hcode

/-- The last of the calls that read a response. -/
theorem learns_reads {request : Nat} (results : List Int) :
    ∀ {connection : BoltConnection}, Bears Explained connection →
      Reads request connection results FETCH_SUMMARY connection' → Learns connection connection' := by
  induction results with
  | nil =>
    intro connection hexplained h
    obtain ⟨last, final, none, hlast, hnone, hresults⟩ := Runs.run_uncons h.run
    obtain ⟨rfl, rfl⟩ := Prod.mk.inj (Option.some.inj hnone)
    obtain ⟨rfl, -⟩ := List.cons.inj hresults
    exact learns_protocolFetch hexplained hlast
  | cons first results ih =>
    intro connection hexplained h
    obtain ⟨got, connection1, rest, hfirst, hrest, hresults⟩ := Runs.run_uncons h.run
    obtain ⟨rfl, rfl⟩ := List.cons.inj hresults
    have hlater : Learns connection1 connection' :=
      ih (hexplained.protocolFetch settled_explained hfirst)
        ⟨hrest, fun result hmem => h.positive result (List.mem_cons_of_mem _ hmem), h.last_le⟩
    have hpositive := h.positive first List.mem_cons_self
    have hquiet := (protocolFetch_quiet hfirst).resolve_left (by
      rintro rfl
      exact absurd hpositive (by decide))
    exact ⟨(respects_protocolFetch hfirst).trans hlater.respects, hquiet.trans hlater.quiet,
      hlater.failure⟩

/-- A FAILURE sets the status. -/
theorem reported_failure (h : connection.lastCode = some BOLT_V1_FAILURE) :
    reported FETCH_SUMMARY connection =
      (FETCH_SUMMARY, connection.setStatus .failed BOLT_SERVER_FAILURE) := by
  obtain ⟨protocol, hprotocol, htype⟩ := Option.map_eq_some_iff.mp h
  have hsummary : connection.summaryStatus = some ⟨.failed, BOLT_SERVER_FAILURE⟩ := by
    rw [summaryStatus, hprotocol, Option.bind_some, BoltProtocolState.summaryStatus, htype]
    rfl
  rcases reported_cases FETCH_SUMMARY connection with
    ⟨hne, -⟩ | ⟨-, hnone, -⟩ | ⟨status, -, hsome, heq⟩
  · exact absurd rfl hne
  · rw [hsummary] at hnone
    cases hnone
  · rw [hsummary] at hsome
    obtain rfl := Option.some.inj hsome
    rw [heq]
    rfl

/-- Only a summary makes the result 0. -/
theorem summary_of_reported (h : 0 ≤ (reported result connection).1) (hle : result ≤ 0) :
    result = FETCH_SUMMARY := by
  rcases reported_cases result connection with ⟨-, heq⟩ | ⟨hsummary, -, -⟩ | ⟨status, hsummary, -, -⟩
  · rw [heq] at h
    exact le_antisymm hle h
  · exact hsummary
  · exact hsummary

/-- An operation that has read a summary has read up to it. -/
theorem readsTo_perform {operation : Operation} (hsummarised : Summarised operation result)
    (h : perform operation connection = some (result, connection')) :
    ∃ final, ReadsTo operation connection final ∧ connection' = (reported FETCH_SUMMARY final).2 := by
  cases operation with
  | fetch request =>
    simp only [perform, fetch_eq] at h
    obtain ⟨⟨fetched, final⟩, hfetch, hresult⟩ := Option.map_eq_some_iff.mp h
    dsimp only at hresult
    have hzero : fetched = FETCH_SUMMARY := by
      rcases reported_cases fetched final with ⟨-, heq⟩ | ⟨hzero, -, -⟩ | ⟨status, hzero, -, -⟩
      · rw [heq] at hresult
        exact (Prod.mk.inj hresult).1.trans hsummarised
      · exact hzero
      · exact hzero
    subst hzero
    exact ⟨final, hfetch, by rw [hresult]⟩
  | fetchSummary request =>
    obtain ⟨results, last, final, hreads, hconnection, hresult⟩ := fetchSummary_reads h
    have hnonneg : 0 ≤ result := hsummarised
    split_ifs at hresult with hnegative
    · omega
    · have hzero := summary_of_reported (not_lt.mp hnegative) hreads.last_le
      subst hzero
      rw [hresult] at hnonneg
      exact ⟨final, ⟨results, hreads, hnonneg⟩, hconnection⟩
  | openAt target => exact hsummarised.elim
  | init user_agent auth_token => exact hsummarised.elim
  | request request => exact hsummarised.elim
  | send => exact hsummarised.elim
  | reset => exact hsummarised.elim
  | close => exact hsummarised.elim

/-- An operation reads the FAILURE that is in the stream. -/
theorem perform_readsTo {operation : Operation} {final : BoltConnection}
    (hreads : ReadsTo operation connection final) (hlast : final.lastCode = some BOLT_V1_FAILURE)
    (h : perform operation connection = some (result, connection')) :
    Summarised operation result ∧ connection' = final.setStatus .failed BOLT_SERVER_FAILURE := by
  have hreported := reported_failure hlast
  cases operation with
  | fetch request =>
    simp only [perform, fetch_eq, show connection.protocolFetch request = _ from hreads,
      Option.map_some, hreported, Option.some.injEq, Prod.mk.injEq] at h
    exact ⟨h.1.symm, h.2.symm⟩
  | fetchSummary request =>
    obtain ⟨results, hreads, hnonneg⟩ := hreads
    obtain ⟨results', last, final', hreads', hconnection, hresult⟩ := fetchSummary_reads h
    obtain ⟨rfl, rfl, rfl⟩ := hreads.unique hreads'
    rw [hreported] at hconnection hresult
    rw [if_neg (lt_irrefl _)] at hresult
    exact ⟨by rw [hresult]; exact hnonneg, hconnection⟩
  | openAt target => exact hreads.elim
  | init user_agent auth_token => exact hreads.elim
  | request request => exact hreads.elim
  | send => exact hreads.elim
  | reset => exact hreads.elim
  | close => exact hreads.elim

theorem learns_readsTo {operation : Operation} {final : BoltConnection}
    (hexplained : Bears Explained connection) (h : ReadsTo operation connection final) :
    Learns connection final := by
  cases operation with
  | fetch request => exact learns_protocolFetch hexplained h
  | fetchSummary request =>
    obtain ⟨results, hreads, -⟩ := h
    exact learns_reads results hexplained hreads
  | openAt target => exact h.elim
  | init user_agent auth_token => exact h.elim
  | request request => exact h.elim
  | send => exact h.elim
  | reset => exact h.elim
  | close => exact h.elim

/-- A status that a summary changes to `FAILED` is one that the error callback is
called with. -/
theorem called_of_learns {final : BoltConnection} (h : Learns connection final)
    (hwatched : connection.on_error_cb = true) (hstate : connection.status.state ≠ .failed) :
    ⟨.failed, BOLT_SERVER_FAILURE⟩ ∈
      (final.setStatus .failed BOLT_SERVER_FAILURE).on_error_calls.drop
        connection.on_error_calls.length := by
  have hchanges : final.status.state ≠ .failed := by
    rwa [h.quiet.status]
  have hwatched' : final.on_error_cb = true := h.respects.on_error_cb.trans hwatched
  have hcalls : (final.setStatus .failed BOLT_SERVER_FAILURE).on_error_calls =
      final.on_error_calls ++ [⟨.failed, BOLT_SERVER_FAILURE⟩] := by
    rw [setStatus_eq]
    show final.callsAfter _ = _
    unfold callsAfter
    rw [if_pos ⟨Ne.symm hchanges, .inr rfl, hwatched'⟩]
  obtain ⟨more, hmore⟩ := h.respects.grows
  rw [hcalls, ← hmore, List.append_assoc, List.drop_left]
  exact List.mem_append_right _ (List.mem_singleton_self _)

/-! ## Connections with an error callback -/

/-- The failure data have a code and a message, and a connection that is in use
has an error callback. -/
structure Watched (connection : BoltConnection) : Prop where
  explained : Bears Explained connection
  watched : connection.agent = true → connection.on_error_cb = true

theorem watched_create : Watched .create := ⟨bears_none rfl, nofun⟩

theorem Watched.respects (h : Watched connection) (hexplained : Bears Explained connection')
    (hrespects : Respects connection connection') : Watched connection' := by
  refine ⟨hexplained, fun hused => ?_⟩
  rw [hrespects.on_error_cb]
  exact h.watched (hrespects.agent.symm.trans hused)

theorem Bears.poolCalls {P : BoltProtocolState → Prop} (hP : Settled P) {target : Target}
    (h : Bears P connection) (hcalls : PoolCalls target connection connection') :
    Bears P connection' := by
  induction hcalls with
  | refl => exact h
  | tail _ hcall ih =>
    cases hcall with
    | close hclose => exact ih.close hclose
    | openAt result hopen => exact ih.openAt hP hopen
    | init user_agent auth_token result hinit => exact ih.init hP hinit
    | reset result hreset => exact ih.reset hP hreset

end BoltConnection

namespace BoltDirectPool

open BoltConnection (Watched)

variable {pool pool' : BoltDirectPool} {index : Nat} {connection : BoltConnection}

/-- The callback is set after a connection has been handed out. -/
theorem acquire_watched {surroundings : Surroundings} {acquired : Acquired} (h : All Watched pool)
    (hacquire : pool.acquire surroundings = some (acquired, pool')) :
    (∀ i status, acquired ≠ .returned (some i) status) ∧ All Watched pool' ∨
    ∃ i status, acquired = .returned (some i) status ∧
      ∀ connection, pool'.connections[i]? = some connection →
        All Watched { pool' with
          connections := pool'.connections.set i { connection with on_error_cb := true } } := by
  rcases acquire_calls hacquire with
    ⟨rfl, hnone⟩ | ⟨i, c, c', hentry, hfree, hcalls, ⟨hacquired, -, rfl⟩ | ⟨hnone, rfl⟩⟩
  · exact .inl ⟨hnone, h⟩
  · have hc := h c (List.mem_of_getElem? hentry)
    have hexplained := hc.explained.poolCalls settled_explained hcalls
    refine .inr ⟨i, _, hacquired, fun connection hconnection => ?_⟩
    obtain ⟨hlt, -⟩ := List.getElem?_eq_some_iff.mp hentry
    dsimp only at hconnection
    rw [List.getElem?_set_self hlt] at hconnection
    obtain rfl := Option.some.inj hconnection
    simp only [List.set_set]
    exact h.set ⟨hexplained.of_same rfl, fun _ => rfl⟩
  · have hc := h c (List.mem_of_getElem? hentry)
    refine .inl ⟨hnone, h.set ?_⟩
    exact hc.respects (hc.explained.poolCalls settled_explained hcalls)
      (BoltConnection.respects_poolCalls hcalls)

/-- The callback is cleared before a connection is recycled. -/
theorem recycle_watched (h : All Watched pool) (hentry : pool.connections[index]? = some connection)
    (hrecycle : BoltDirectPool.recycle index { pool with
      connections := pool.connections.set index { connection with on_error_cb := false } } =
        some pool') : All Watched pool' := by
  obtain ⟨c, c1, c2, c3, done, c', hset, hrun, hbegin, hreset, hleft, rfl⟩ :=
    recycle_cases hrecycle
  obtain ⟨hlt, -⟩ := List.getElem?_eq_some_iff.mp hentry
  dsimp only at hset
  rw [List.getElem?_set_self hlt] at hset
  obtain rfl := Option.some.inj hset
  simp only [List.set_set]
  have hc : BoltConnection.Bears Explained { connection with agent := false, on_error_cb := false } :=
    (h connection (List.mem_of_getElem? hentry)).explained.of_same rfl
  have hbears : BoltConnection.Bears Explained c3 := ((hc.callProtocol settled_explained
    hrun).callProtocol settled_explained hbegin).reset settled_explained hreset
  have hrespects : Respects { connection with agent := false, on_error_cb := false } c3 :=
    ((BoltConnection.respects_callProtocol hrun).trans
      (BoltConnection.respects_callProtocol hbegin)).trans (BoltConnection.respects_reset hreset)
  have hwatched : Watched c3 := Watched.respects ⟨hc, nofun⟩ hbears hrespects
  rcases hleft with ⟨-, rfl⟩ | ⟨-, -, hclose⟩ | ⟨-, -, rfl⟩
  · exact h.set hwatched
  · exact h.set (hwatched.respects (hbears.close hclose) (BoltConnection.respects_close hclose))
  · exact h.set hwatched

end BoltDirectPool

namespace BoltRoutingPool

variable {τ : Type} {pool pool' : BoltRoutingPool} {held : List (τ × Handle)} {pointer index : Nat}
  {server : ServerPool} {direct : BoltDirectPool} {thread : τ} {handle : Handle}

/-- The connections of all direct pools are watched, and the sets of the table
have no duplicates. -/
structure Watchful (pool : BoltRoutingPool) : Prop where
  watched : ∀ pointer server, pool.allocated.read pointer = some server →
    server.pool.All BoltConnection.Watched
  distinct : pool.routing_table.Distinct

theorem watchful_create (user_agent : List UInt8) (life_time acquisition_time : Int)
    (auth_token : BoltValue) (max_pool_size : Nat) :
    Watchful (create user_agent life_time acquisition_time auth_token max_pool_size) where
  watched := by simp [create, Heap.read]
  distinct := RoutingTable.distinct_create

/-- Direct pools may go, and the table may change. -/
theorem Watchful.of_read (h : Watchful pool) (hdistinct : pool'.routing_table.Distinct)
    (hread : ∀ pointer server, pool'.allocated.read pointer = some server →
      pool.allocated.read pointer = some server) : Watchful pool' :=
  ⟨fun pointer server hserver => h.watched pointer server (hread pointer server hserver), hdistinct⟩

theorem Watchful.of_allocated (h : Watchful pool) (hdistinct : pool'.routing_table.Distinct)
    (hallocated : pool'.allocated = pool.allocated) : Watchful pool' := by
  refine h.of_read hdistinct fun pointer server hread => ?_
  rwa [hallocated] at hread

/-- Work on one direct pool. -/
theorem Watchful.write (h : Watchful pool) (hread : pool.allocated.read pointer = some server)
    (hwatched : direct.All BoltConnection.Watched) :
    Watchful { pool with
      allocated := pool.allocated.write pointer { server with pool := direct } } := by
  refine ⟨fun other object hobject => ?_, h.distinct⟩
  dsimp only at hobject
  by_cases heq : pointer = other
  · subst heq
    rw [Heap.read_write_self (Heap.lt_of_read hread)] at hobject
    rw [← Option.some.inj hobject]
    exact hwatched
  · rw [Heap.read_write_ne heq] at hobject
    exact h.watched other object hobject

theorem Watchful.acquireFrom (h : Watchful pool) {surroundings : Surroundings} {routed : Routed}
    (hacquire : pool.acquireFrom index surroundings = some (routed, pool')) : Watchful pool' := by
  obtain ⟨pointer, -, hacquire⟩ := Option.bind_eq_some_iff.mp hacquire
  obtain ⟨server, direct, hread, hdirect, rfl⟩ := onServerPool_cases hacquire
  apply h.write hread
  obtain ⟨⟨acquired, direct1⟩, hacquired, hresult⟩ := Option.bind_eq_some_iff.mp hdirect
  rcases BoltDirectPool.acquire_watched (h.watched pointer server hread) hacquired with
    ⟨hnone, hwatched⟩ | ⟨i, status, rfl, hset⟩
  · rcases acquired with ⟨_ | i, status⟩ | _
    · obtain ⟨-, rfl⟩ := Prod.mk.inj (Option.some.inj hresult)
      exact hwatched
    · exact absurd rfl (hnone i status)
    · obtain ⟨-, rfl⟩ := Prod.mk.inj (Option.some.inj hresult)
      exact hwatched
  · obtain ⟨⟨done, direct2⟩, hassign, hresult⟩ := Option.map_eq_some_iff.mp hresult
    obtain ⟨-, rfl⟩ := Prod.mk.inj hresult
    obtain ⟨c, c', hentry, hassigned, rfl⟩ := BoltDirectPool.onConnection_cases hassign
    obtain ⟨-, rfl⟩ := Prod.mk.inj (Option.some.inj hassigned)
    exact hset c hentry

theorem Watchful.release (h : Watchful pool) (htenanted : Tenanted pool held) {result : Int}
    (hheld : (thread, handle) ∈ held)
    (hrelease : pool.release (some handle) = some (result, pool')) : Watchful pool' := by
  obtain ⟨server, c, direct, recycled, hread, hentry, rfl, -, hrecycle, -, rfl⟩ :=
    htenanted.release_cases hheld hrelease
  have hwatched := BoltDirectPool.recycle_watched (h.watched _ _ hread) hentry hrecycle
  exact h.write hread hwatched

/-- A thread works on a connection that it holds. -/
theorem Watchful.onHandle (h : Watchful pool) {work : BoltConnection → Outcome BoltConnection}
    {result : Int}
    (hwork : ∀ connection connection', connection.Watched →
      work connection = some (result, connection') → connection'.Watched)
    (hdone : pool.onHandle handle work = some (result, pool')) : Watchful pool' := by
  obtain ⟨server, direct, hread, hdirect, rfl⟩ := onServerPool_cases hdone
  obtain ⟨c, c', hentry, hworked, rfl⟩ := BoltDirectPool.onConnection_cases hdirect
  have hwatched := h.watched handle.pool server hread
  exact h.write hread (hwatched.set (hwork c c' (hwatched c (List.mem_of_getElem? hentry)) hworked))

theorem Watchful.refresh (h : Watchful pool) (hconsistent : Consistent pool) {mode : BoltAccessMode}
    {now : Int} {discovery : Option Announcement} {status : Int}
    (hrefresh : pool.refresh mode now discovery = some (status, pool')) : Watchful pool' := by
  unfold BoltRoutingPool.refresh at hrefresh
  split_ifs at hrefresh
  · cases discovery with
    | none =>
      simp only [updateRoutingTable] at hrefresh
      obtain ⟨-, rfl⟩ := Prod.mk.inj (Option.some.inj hrefresh)
      exact h
    | some announcement =>
      simp only [updateRoutingTable, if_true] at hrefresh
      obtain ⟨cleaned, hcleanup, hresult⟩ := Option.map_eq_some_iff.mp hrefresh
      obtain ⟨-, rfl⟩ := Prod.mk.inj hresult
      obtain ⟨allocated, rfl, hallocated⟩ := cleanup_cases (by exact hconsistent) hcleanup
      refine h.of_read (@RoutingTable.distinct_install pool.routing_table _ _) fun pointer server hread => ?_
      dsimp only at hread
      rw [hallocated] at hread
      split_ifs at hread
      exact hread
  · obtain ⟨-, rfl⟩ := Prod.mk.inj (Option.some.inj hrefresh)
    exact h

theorem Watchful.addServer (h : Watchful pool) (address : BoltAddress) :
    Watchful (pool.addServer address).2 := by
  unfold BoltRoutingPool.addServer
  split
  · exact h
  · refine ⟨fun pointer server hread => ?_, h.distinct⟩
    rcases Heap.read_alloc_cases hread with rfl | hold
    · change (pool.allocated.alloc _).read _ = _ at hread
      rw [Heap.read_alloc_self] at hread
      obtain rfl := Option.some.inj hread
      intro connection hconnection
      rw [List.eq_of_mem_replicate hconnection]
      exact BoltConnection.watched_create
    · exact h.watched pointer server hold

/-- What one of the connections of the pool calls its error callback with. -/
theorem mem_fired {server' : ServerPool} {connection connection' : BoltConnection}
    {status : BoltStatus} (hread : pool.allocated.read pointer = some server)
    (hread' : pool'.allocated.read pointer = some server')
    (hentry : server.pool.connections[index]? = some connection)
    (hentry' : server'.pool.connections[index]? = some connection')
    (hmem : status ∈ connection'.on_error_calls.drop connection.on_error_calls.length) :
    status ∈ pool.fired pool' := by
  unfold fired
  rw [List.mem_flatMap]
  refine ⟨pointer, List.mem_range.mpr (Heap.lt_of_read hread), ?_⟩
  rw [hread, hread']
  show status ∈ server.pool.fired server'.pool
  unfold BoltDirectPool.fired
  rw [List.mem_flatMap]
  refine ⟨(connection.on_error_calls, connection'.on_error_calls), ?_, hmem⟩
  apply @List.mem_of_getElem? _ _ index
  rw [List.getElem?_zip_eq_some]
  constructor
  · rw [BoltDirectPool.records, List.getElem?_map, hentry, Option.map_some]
  · rw [BoltDirectPool.records, List.getElem?_map, hentry', Option.map_some]

end BoltRoutingPool

/-! ## Every run -/

namespace Routing

open BoltRoutingPool (Tenanted Watchful)
open BoltConnection (Summarised ReadsTo Tells)

variable {τ : Type} [DecidableEq τ] {routing routing' : Routing τ} {report : Report}
  {turn : RoutingTurn τ} {made : List Locks.Call}

theorem look_table {pool pool' : BoltRoutingPool} {mode : BoltAccessMode} {now result : Int}
    {looked : BoltRoutingPool.Looked} (h : pool.look mode now result = some (looked, pool')) :
    pool'.routing_table = pool.routing_table := by
  unfold BoltRoutingPool.look at h
  split_ifs at h
  · obtain ⟨-, rfl⟩ := Prod.mk.inj (Option.some.inj h)
    rfl
  · obtain ⟨⟨selected, pool1⟩, hselect, hresult⟩ := Option.map_eq_some_iff.mp h
    have hpool : pool1 = pool' := by
      dsimp only at hresult
      split at hresult
      · exact (Prod.mk.inj hresult).2
      · exact (Prod.mk.inj hresult).2
    rw [← hpool]
    cases mode with
    | read | write =>
      obtain ⟨found, -, hfound⟩ := Option.map_eq_some_iff.mp hselect
      obtain ⟨-, rfl⟩ := Prod.mk.inj hfound
      rfl
  · obtain ⟨-, rfl⟩ := Prod.mk.inj (Option.some.inj h)
    rfl

theorem watchful_take (h : Watchful routing.pool) (htenanted : Tenanted routing.pool routing.held)
    (htake : take turn routing = some (report, routing')) : Watchful routing'.pool := by
  have halters := alters_take htake
  cases turn with
  | call thread mode status | recheck thread | timeout thread =>
    rwa [show routing'.pool = routing.pool from halters]
  | check thread now =>
    obtain ⟨mode, result, looked, hlook⟩ := halters
    refine h.of_allocated ?_ (BoltRoutingPool.look_cases hlook).1
    rw [look_table hlook]
    exact h.distinct
  | refresh thread locked now discovery =>
    rcases halters with hpool | ⟨mode, result, hrefresh⟩
    · rwa [hpool]
    · exact h.refresh htenanted.consistent hrefresh
  | add thread locked =>
    rcases halters with hpool | ⟨server, hadd⟩
    · rwa [hpool]
    · rw [hadd]
      exact h.addServer server
  | acquire thread surroundings =>
    obtain ⟨index, routed, hacquire⟩ := halters
    exact h.acquireFrom hacquire
  | release thread connection =>
    obtain ⟨hheld, result, hrelease⟩ := halters
    exact h.release htenanted hheld hrelease
  | forgetServer thread server =>
    rw [show routing'.pool = routing.pool.forgetServer server from halters]
    exact h.of_allocated h.distinct.forgetServer rfl
  | forgetWriter thread server =>
    rw [show routing'.pool = routing.pool.forgetWriter server from halters]
    exact h.of_allocated h.distinct.forgetWriter rfl
  | use thread connection operation =>
    obtain ⟨-, result, hwork⟩ := halters
    refine h.onHandle (fun c c' hc hperform => ?_) hwork
    exact hc.respects (hc.explained.perform settled_explained hperform)
      (BoltConnection.respects_perform hperform)
  | assign thread connection access_mode =>
    obtain ⟨-, result, hwork⟩ := halters
    refine h.onHandle (fun c c' hc hassign => ?_) hwork
    obtain ⟨-, rfl⟩ := Prod.mk.inj (Option.some.inj hassign)
    exact ⟨hc.explained.of_same rfl, hc.watched⟩

theorem watchful_attend (h : Watchful routing.pool) (htenanted : Tenanted routing.pool routing.held)
    (hattend : attend turn routing = some ((report, made), routing')) : Watchful routing'.pool := by
  obtain ⟨routing1, htake, -, hcase⟩ := attend_cases hattend
  have htaken := watchful_take h htenanted htake
  rcases hcase with ⟨-, rfl, -⟩ | ⟨thread, handle, operation, -, hhandled⟩
  · exact htaken
  · have hshrinks := BoltRoutingPool.shrinks_handleAll _ hhandled
    refine htaken.of_allocated (hshrinks.distinct htaken.distinct) ?_
    rw [(BoltRoutingPool.handleAll_cases _ hhandled).2]

/-- A change of the leader has been noticed when a thread has read it. -/
def Noticed : RoutingTurn τ → Routing τ → Report × List Locks.Call → Routing τ → Prop
  | .use _ handle operation, _, (.used result, _), routing => ∀ server connection code,
    routing.pool.allocated.read handle.pool = some server →
    server.pool.connections[handle.index]? = some connection → Summarised operation result →
    Tells code connection → routing.pool.routing_table.Heeds code server.address
  | _, _, _, _ => True

/-- If a thread is about to read about a change of the leader from a connection
that is in the state `FAILED` already, the change is in the table. -/
def Known : RoutingTurn τ → Routing τ → Prop
  | .use _ handle operation, routing => ∀ server connection final code,
    routing.pool.allocated.read handle.pool = some server →
    server.pool.connections[handle.index]? = some connection →
    connection.status.state = .failed → ReadsTo operation connection final → Tells code final →
      routing.pool.routing_table.Heeds code server.address
  | _, _ => True

/-- What the use of a connection does. -/
theorem use_cases {thread : τ} {handle : Handle} {operation : Operation}
    (h : Tenanted routing.pool routing.held)
    (htake : take (.use thread handle operation) routing = some (report, routing')) :
    ∃ (result : Int) (server : ServerPool) (connection connection' : BoltConnection),
      report = .used result ∧ routing.pool.allocated.read handle.pool = some server ∧
      server.pool.connections[handle.index]? = some connection ∧ connection.agent = true ∧
      connection.Kept ∧
      BoltConnection.perform operation connection = some (result, connection') ∧
      routing'.pool = { routing.pool with
        allocated := routing.pool.allocated.write handle.pool { server with
          pool := { server.pool with
            connections := server.pool.connections.set handle.index connection' } } } := by
  simp only [take] at htake
  split_ifs at htake with hmay
  obtain ⟨⟨result, pool⟩, hdone, hresult⟩ := Option.map_eq_some_iff.mp htake
  obtain ⟨rfl, rfl⟩ := Prod.mk.inj hresult
  obtain ⟨server, direct, hread, hdirect, rfl⟩ := BoltRoutingPool.onServerPool_cases hdone
  obtain ⟨c, c', hentry, hperform, rfl⟩ := BoltDirectPool.onConnection_cases hdirect
  obtain ⟨object, connection, hobject, hconnection, hagent, hkept⟩ := h.inUse hmay.2
  obtain rfl := Option.some.inj (hread.symm.trans hobject)
  obtain rfl := Option.some.inj (hentry.symm.trans hconnection)
  exact ⟨result, server, c, c', rfl, hread, hentry, hagent, hkept, hperform, rfl⟩

/-- A turn is noticed if and only if it is about nothing new to a connection that
is in the state `FAILED`. -/
theorem noticed_iff (h : Watchful routing.pool) (htenanted : Tenanted routing.pool routing.held)
    (hproper : turn.Proper) (hattend : attend turn routing = some ((report, made), routing')) :
    Noticed turn routing (report, made) routing' ↔ Known turn routing := by
  obtain ⟨routing1, htake, -, ⟨hturn, -, -⟩ | ⟨thread, handle, operation, rfl, hhandled⟩⟩ :=
    attend_cases hattend
  · cases turn with
    | use thread handle operation => exact absurd rfl (hturn thread handle operation)
    | _ => exact iff_of_true trivial trivial
  obtain ⟨result, server, c, c', rfl, hread, hentry, hagent, hkept, hperform, hpool⟩ :=
    use_cases htenanted htake
  have hwatched := h.watched _ _ hread c (List.mem_of_getElem? hentry)
  have hread1 : routing1.pool.allocated.read handle.pool = some { server with
      pool := { server.pool with connections := server.pool.connections.set handle.index c' } } := by
    rw [hpool]
    exact Heap.read_write_self (Heap.lt_of_read hread)
  obtain ⟨hlt, -⟩ := List.getElem?_eq_some_iff.mp hentry
  have hentry1 : (server.pool.connections.set handle.index c')[handle.index]? = some c' :=
    List.getElem?_set_self hlt
  have hread' : routing'.pool.allocated.read handle.pool = some { server with
      pool := { server.pool with connections := server.pool.connections.set handle.index c' } } := by
    rw [(BoltRoutingPool.handleAll_cases _ hhandled).2]
    exact hread1
  have htable : routing1.pool.routing_table = routing.pool.routing_table := by rw [hpool]
  constructor
  · intro hnoticed server2 connection final code hserver2 hconnection hstate hreads htells
    obtain rfl := Option.some.inj (hread.symm.trans hserver2)
    obtain rfl := Option.some.inj (hentry.symm.trans hconnection)
    obtain ⟨hsummarised, rfl⟩ := BoltConnection.perform_readsTo hreads htells.1 hperform
    have hquiet := (BoltConnection.learns_readsTo hwatched.explained hreads).quiet
    have hcalls : (final.setStatus .failed BOLT_SERVER_FAILURE).on_error_calls =
        c.on_error_calls := by
      rw [BoltConnection.setStatus_eq, ← hquiet.calls]
      show final.callsAfter _ = _
      unfold BoltConnection.callsAfter
      rw [hquiet.status, hstate, if_neg fun h => h.1 rfl]
    have hfired : routing.pool.fired routing1.pool = [] := by
      rw [hpool]
      exact BoltRoutingPool.fired_write hread (BoltDirectPool.records_set hentry hcalls)
    rw [hfired] at hhandled
    have hsame := (Prod.mk.inj (Option.some.inj hhandled)).2
    rw [← htable, hsame]
    have htells' : Tells code (final.setStatus .failed BOLT_SERVER_FAILURE) := by
      rw [Tells, BoltConnection.lastCode, BoltConnection.metadataString,
        BoltConnection.setStatus_protocol]
      exact htells
    have hheeds := hnoticed _ _ code hread' hentry1 hsummarised htells'
    exact hheeds
  · intro hknown server2 connection code hserver2 hconnection hsummarised htells
    obtain rfl := Option.some.inj (hread'.symm.trans hserver2)
    obtain rfl := Option.some.inj (hentry1.symm.trans hconnection)
    obtain ⟨final, hreads, hfinal⟩ := BoltConnection.readsTo_perform hsummarised hperform
    have hlast : final.lastCode = some BOLT_V1_FAILURE := by
      rw [← BoltConnection.lastCode_reported FETCH_SUMMARY, ← Prod.eta (BoltConnection.reported _ _)]
      rw [← hfinal]
      exact htells.1
    rw [BoltConnection.reported_failure hlast] at hfinal
    obtain rfl := hfinal
    have hcode : final.metadataString FAILURE_CODE_KEY = some code := by
      have hcode := htells.2
      rwa [BoltConnection.metadataString, BoltConnection.setStatus_protocol] at hcode
    by_cases hstate : c.status.state = .failed
    · have hheeds := hknown server c final code hread hentry hstate hreads ⟨hlast, hcode⟩
      rw [← htable] at hheeds
      exact hheeds.shrinks (BoltRoutingPool.shrinks_handleAll _ hhandled)
    · have hlearns := BoltConnection.learns_readsTo hwatched.explained hreads
      have hcalled := BoltConnection.called_of_learns hlearns (hwatched.watched hagent) hstate
      have hfired := BoltRoutingPool.mem_fired hread hread1 hentry hentry1 hcalled
      obtain ⟨message, hfailure⟩ := hlearns.failure code hlast hcode
      have haddress : (final.setStatus .failed BOLT_SERVER_FAILURE).id ≠ [] := by
        rw [(BoltConnection.sameLife_perform hproper hperform).named]
        exact hkept.addressed hagent
      apply RoutingTable.Heeds.of_cString
      refine BoltRoutingPool.heeds_handleAll hfired hread1 hentry1 ?_ haddress ?_ hhandled
      · rw [htable]
        exact h.distinct
      · rw [BoltConnection.failure_setStatus, hfailure]
        rfl

/-- In every run of a new pool the threads notice every change of the leader that
they read about, if and only if no connection in the state `FAILED` ever reads
about one that is not in the table yet. -/
theorem meets_noticed_iff (user_agent : List UInt8) (life_time acquisition_time : Int)
    (auth_token : BoltValue) (max_pool_size : Nat) (turns : List (RoutingTurn τ))
    (outputs : List (Report × List Locks.Call)) (routing : Routing τ)
    (hproper : ∀ turn ∈ turns, turn.Proper)
    (hrun : Runs.run attend turns (start (BoltRoutingPool.create user_agent life_time
      acquisition_time auth_token max_pool_size)) = some (outputs, routing)) :
    Runs.Meets attend Noticed turns (start (BoltRoutingPool.create user_agent life_time
        acquisition_time auth_token max_pool_size)) ↔
      Runs.Admissible attend Known turns (start (BoltRoutingPool.create user_agent life_time
        acquisition_time auth_token max_pool_size)) := by
  have hstep : ∀ turn (s : Routing τ) output s', Watchful s.pool ∧ Tenanted s.pool s.held →
      turn.Proper → attend turn s = some (output, s') →
      (Noticed turn s output s' ↔ Known turn s) ∧
        (Noticed turn s output s' → Watchful s'.pool ∧ Tenanted s'.pool s'.held) := by
    rintro turn s ⟨report, made⟩ s' ⟨hwatchful, htenanted⟩ hturn hattend
    exact ⟨noticed_iff hwatchful htenanted hturn hattend, fun _ =>
      ⟨watchful_attend hwatchful htenanted hattend, tenanted_attend htenanted hturn hattend⟩⟩
  exact Runs.meets_iff_admissible_of_mem _ _ hstep turns hproper
    ⟨BoltRoutingPool.watchful_create _ _ _ _ _, BoltRoutingPool.tenanted_create _ _ _ _ _⟩ hrun

/-- The payload of a FAILURE with this code. -/
def failurePayload (code : List UInt8) : List UInt8 :=
  [0xB1, 0x7F, 0xA2, 0x84] ++ ascii "code" ++ [0xD0, UInt8.ofNat code.length] ++ code ++
    [0x87] ++ ascii "message" ++ [0x80]

/-- A server that accepts one connection, and then gives these answers. -/
def acceptingThen (payloads : List (List UInt8)) : Surroundings :=
  ⟨0, 0, { BoltConnection.answering (frames (([0xB1, 0x70, 0xA0] :: payloads).map chunksOf)) with
    id := ascii "conn-0" }⟩

/-- A thread acquires a connection to the writer `s` and sends a query that fails
with this answer. -/
def failing (payloads : List (List UInt8)) : List (RoutingTurn (Fin 1)) :=
  let found : Announcement := ⟨[], [serverNamed "s"], [serverNamed "r"], 1000⟩
  [.call 0 .write ⟨.disconnected, BOLT_SUCCESS⟩, .check 0 0, .refresh 0 true 0 (some found),
    .check 0 1, .add 0 true, .recheck 0, .acquire 0 (acceptingThen payloads),
    .use 0 ⟨0, 0⟩ (.request .loadRunRequest), .use 0 ⟨0, 0⟩ .send, .use 0 ⟨0, 0⟩ (.fetch 1)]

/-- The answers of a server that is not the leader. -/
def deposed : List (List UInt8) := [failurePayload BoltRoutingPool.NOT_A_LEADER]

theorem meets_noticed_iff_failing :
    ∃ outputs routing, Runs.run attend (failing deposed)
        (start (BoltRoutingPool.create (ascii "agent") 0 0 (.dictionary []) 1)) =
        some (outputs, routing) ∧
      outputs.getLast?.map Prod.fst = some (.used 0) ∧ routing.pool.routing_table.writers = [] ∧
      (Runs.Meets attend Noticed (failing deposed)
          (start (BoltRoutingPool.create (ascii "agent") 0 0 (.dictionary []) 1)) ↔
        Runs.Admissible attend Known (failing deposed)
          (start (BoltRoutingPool.create (ascii "agent") 0 0 (.dictionary []) 1))) := by
  have hview : (Runs.run attend (failing deposed)
      (start (BoltRoutingPool.create (ascii "agent") 0 0 (.dictionary []) 1))).map
        (fun result => (result.1.getLast?.map Prod.fst, result.2.pool.routing_table.writers)) =
      some (some (.used 0), []) := by
    decide +kernel
  obtain ⟨⟨outputs, routing⟩, hrun, hend⟩ := Option.map_eq_some_iff.mp hview
  obtain ⟨hlast, hwriters⟩ := Prod.mk.inj hend
  have hproper : ∀ turn ∈ failing deposed, turn.Proper := by decide
  exact ⟨outputs, routing, hrun, hlast, hwriters,
    meets_noticed_iff _ _ _ _ _ (failing deposed) outputs routing hproper hrun⟩

/-- The answers of a server that rejects a first query, and is not the leader when
it gets a second one, after a RESET. -/
def deposedLater : List (List UInt8) :=
  [failurePayload (ascii "Neo.ClientError.Statement.SyntaxError"), [0xB1, 0x70, 0xA0],
    failurePayload BoltRoutingPool.NOT_A_LEADER]

/-- The thread sends the RESET and the second query after the first has failed,
and fetches the answer to the query without that to the RESET. -/
def skipping : List (RoutingTurn (Fin 1)) :=
  failing deposedLater ++ [.use 0 ⟨0, 0⟩ (.request .loadResetRequest),
    .use 0 ⟨0, 0⟩ (.request .loadRunRequest), .use 0 ⟨0, 0⟩ .send, .use 0 ⟨0, 0⟩ (.fetch 3)]

/-- The fetch returns the second failure, and the server is still a writer. -/
theorem skipping_missed :
    ∃ outputs routing server connection, Runs.run attend skipping
        (start (BoltRoutingPool.create (ascii "agent") 0 0 (.dictionary []) 1)) =
        some (outputs, routing) ∧
      outputs.getLast?.map Prod.fst = some (.used FETCH_SUMMARY) ∧
      routing.pool.allocated.read 0 = some server ∧
      server.pool.connections[0]? = some connection ∧
      Tells BoltRoutingPool.NOT_A_LEADER connection ∧
      server.address ∈ routing.pool.routing_table.writers := by
  have hview : ((Runs.run attend skipping
      (start (BoltRoutingPool.create (ascii "agent") 0 0 (.dictionary []) 1))).bind
        fun (outputs, routing) => (routing.pool.allocated.read 0).bind fun server =>
          server.pool.connections[0]?.map fun connection =>
            decide (outputs.getLast?.map Prod.fst = some (.used FETCH_SUMMARY) ∧
              connection.lastCode = some BOLT_V1_FAILURE ∧
              connection.metadataString FAILURE_CODE_KEY = some BoltRoutingPool.NOT_A_LEADER ∧
              server.address ∈ routing.pool.routing_table.writers)) = some true := by
    decide +kernel
  obtain ⟨⟨outputs, routing⟩, hrun, hview⟩ := Option.bind_eq_some_iff.mp hview
  obtain ⟨server, hread, hview⟩ := Option.bind_eq_some_iff.mp hview
  obtain ⟨connection, hentry, hview⟩ := Option.map_eq_some_iff.mp hview
  obtain ⟨hlast, htype, hcode, hmember⟩ := of_decide_eq_true hview
  exact ⟨outputs, routing, server, connection, hrun, hlast, hread, hentry, ⟨htype, hcode⟩, hmember⟩

end Routing

end Seabolt
