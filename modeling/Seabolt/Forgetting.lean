import Seabolt.ServerIndex

/-!
# Forgetting servers

`BoltRoutingPool_handle_connection_error_by_code` and the end of
`BoltRoutingPool_acquire` that is to call it.

A direct pool that has no connection to give returns NULL and writes why into
the status of the caller.  `BoltRoutingPool_acquire` decides by its own variable
`result`, which is still `BOLT_SUCCESS` then.
-/

namespace Seabolt

namespace RoutingTable

variable {server other : BoltAddress} {table : RoutingTable}

/-- The server is in none of the three sets. -/
def Forgotten (server : BoltAddress) (table : RoutingTable) : Prop :=
  server ∉ table.routers ∧ server ∉ table.readers ∧ server ∉ table.writers

instance : Decidable (Forgotten server table) :=
  inferInstanceAs (Decidable (server ∉ table.routers ∧ server ∉ table.readers ∧
    server ∉ table.writers))

/-- No set has an address twice. -/
structure Distinct (table : RoutingTable) : Prop where
  routers : table.routers.Nodup
  readers : table.readers.Nodup
  writers : table.writers.Nodup

theorem remove_eq_erase (set : BoltAddressSet) (address : BoltAddress) :
    BoltAddressSet.remove set address = set.erase address := by
  have hindex : BoltAddressSet.indexOf set address = set.idxOf? address := by
    unfold BoltAddressSet.indexOf
    induction set with
    | nil => rfl
    | cons first set ih =>
      rw [List.findIdx?_cons, List.idxOf?_cons, ih]
      by_cases heq : address = first
      · simp [heq]
      · have hne : first ≠ address := Ne.symm heq
        simp [heq, hne]
  unfold BoltAddressSet.remove
  rw [hindex, List.erase_eq_eraseIdx]
  cases set.idxOf? address with
  | none => rfl
  | some index => rfl

theorem not_mem_remove {set : BoltAddressSet} (h : set.Nodup) :
    server ∉ BoltAddressSet.remove set server := by
  rw [remove_eq_erase]
  exact h.not_mem_erase

/-- A server that is forgotten is in none of the sets any more. -/
theorem forgotten_forgetServer (h : table.Distinct) :
    (table.forgetServer server).Forgotten server :=
  ⟨not_mem_remove h.routers, not_mem_remove h.readers, not_mem_remove h.writers⟩

theorem not_mem_forgetWriter (h : table.Distinct) :
    server ∉ (table.forgetWriter server).writers :=
  not_mem_remove h.writers

theorem nodup_remove {set : BoltAddressSet} (h : set.Nodup) (address : BoltAddress) :
    (BoltAddressSet.remove set address).Nodup := by
  rw [remove_eq_erase]
  exact h.erase address

theorem Distinct.forgetServer (h : table.Distinct) : (table.forgetServer server).Distinct :=
  ⟨nodup_remove h.routers server, nodup_remove h.readers server, nodup_remove h.writers server⟩

theorem Distinct.forgetWriter (h : table.Distinct) : (table.forgetWriter server).Distinct :=
  ⟨h.routers, h.readers, nodup_remove h.writers server⟩

theorem distinct_create : create.Distinct :=
  ⟨List.nodup_nil, List.nodup_nil, List.nodup_nil⟩

theorem distinct_install (announcement : Announcement) (now : Int) :
    (table.install announcement now).Distinct :=
  ⟨BoltAddressSet.nodup_addAll _ List.nodup_nil, BoltAddressSet.nodup_addAll _ List.nodup_nil,
    BoltAddressSet.nodup_addAll _ List.nodup_nil⟩

end RoutingTable

namespace BoltRoutingPool

/-- The cases of the switch in `BoltRoutingPool_handle_connection_error_by_code`
that forget the server. -/
def forgettingCodes : List Int :=
  [BOLT_ROUTING_UNABLE_TO_RETRIEVE_ROUTING_TABLE, BOLT_ROUTING_NO_SERVERS_TO_SELECT,
    BOLT_ROUTING_UNABLE_TO_CONSTRUCT_POOL_FOR_SERVER, BOLT_ROUTING_UNABLE_TO_REFRESH_ROUTING_TABLE,
    BOLT_ROUTING_UNEXPECTED_DISCOVERY_RESPONSE,
    BOLT_INTERRUPTED, BOLT_CONNECTION_RESET, BOLT_NO_VALID_ADDRESS, BOLT_TIMED_OUT,
    BOLT_CONNECTION_REFUSED, BOLT_NETWORK_UNREACHABLE, BOLT_TLS_ERROR, BOLT_END_OF_TRANSMISSION,
    BOLT_ADDRESS_NOT_RESOLVED]

/-- `BoltRoutingPool_handle_connection_error_by_code`. -/
def handleConnectionErrorByCode (server : BoltAddress) (code : Int) (pool : BoltRoutingPool) :
    BoltRoutingPool :=
  if code ∈ forgettingCodes then pool.forgetServer server else pool

/-- The end of `BoltRoutingPool_acquire`, after the read lock; `server` is NULL
when none has been selected. -/
def handleResult (server : Option BoltAddress) (result : Int) (pool : BoltRoutingPool) :
    BoltRoutingPool :=
  if result = BOLT_SUCCESS then pool
  else
    match server with
    | some server => pool.handleConnectionErrorByCode server result
    | none => pool

variable {pool pool' : BoltRoutingPool} {server : BoltAddress} {index : Nat}

/-- What the handling of an error would do to the table. -/
theorem handleConnectionErrorByCode_forgets (h : pool.routing_table.Distinct) (code : Int) :
    (code ∈ forgettingCodes →
      (pool.handleConnectionErrorByCode server code).routing_table.Forgotten server) ∧
    (code ∉ forgettingCodes →
      (pool.handleConnectionErrorByCode server code).routing_table = pool.routing_table) := by
  unfold handleConnectionErrorByCode
  constructor
  · intro hcode
    rw [if_pos hcode]
    exact RoutingTable.forgotten_forgetServer h
  · intro hcode
    rw [if_neg hcode]

theorem onServerPool_table {β : Type} {result : β} {pointer : Nat}
    {work : BoltDirectPool → Option (β × BoltDirectPool)}
    (h : pool.onServerPool pointer work = some (result, pool')) :
    pool'.routing_table = pool.routing_table := by
  obtain ⟨server, direct, -, -, rfl⟩ := onServerPool_cases h
  rfl

theorem acquireFrom_table {surroundings : Surroundings} {routed : Routed}
    (h : pool.acquireFrom index surroundings = some (routed, pool')) :
    pool'.routing_table = pool.routing_table := by
  obtain ⟨pointer, -, h⟩ := Option.bind_eq_some_iff.mp h
  exact onServerPool_table h

/-! ## The server that is selected -/

theorem selectLoop_mem {servers : BoltAddressSet} {start_index : Nat} (rounds : Nat) :
    ∀ (index : Nat) (least_connected_server : Option BoltAddress) (least_connected : Int)
      {server : BoltAddress}, (∀ found ∈ least_connected_server, found ∈ servers) →
      pool.selectLoop servers start_index rounds index least_connected_server least_connected =
        some (some server) → server ∈ servers := by
  induction rounds with
  | zero =>
    intro index least_connected_server least_connected server hleast h
    exact hleast server (Option.some.inj h)
  | succ rounds ih =>
    intro index least_connected_server least_connected server hleast h
    obtain ⟨current, hcurrent, h⟩ := Option.bind_eq_some_iff.mp h
    obtain ⟨active, -, h⟩ := Option.bind_eq_some_iff.mp h
    have hnext : ∀ found ∈ (if active < least_connected then (some current, active)
        else (least_connected_server, least_connected)).1, found ∈ servers := by
      split_ifs
      · intro found hfound
        rw [← Option.some.inj hfound]
        exact List.mem_of_getElem? hcurrent
      · exact hleast
    dsimp only at h
    split_ifs at h hnext
    · exact hnext server (Option.some.inj h)
    · exact hnext server (Option.some.inj h)
    · exact ih _ _ _ hnext h
    · exact ih _ _ _ hnext h

theorem selectLeastConnected_mem {servers : BoltAddressSet} {offset : Int}
    (h : pool.selectLeastConnected servers offset = some (some server)) : server ∈ servers := by
  unfold selectLeastConnected at h
  dsimp only at h
  split_ifs at h
  · cases h
  · refine selectLoop_mem _ _ _ _ (fun found hfound => ?_) h
    cases hfound

/-- A server that is selected is in the routing table. -/
theorem look_selected {mode : BoltAccessMode} {now result : Int} {found : Option Nat}
    (h : pool.look mode now result = some (.selected server found, pool')) :
    ¬pool'.routing_table.Forgotten server := by
  unfold look at h
  split_ifs at h
  · cases h
  rotate_left
  · cases h
  obtain ⟨⟨chosen, selecting⟩, hselect, hchosen⟩ := Option.map_eq_some_iff.mp h
  cases chosen with
  | none => cases hchosen
  | some chosen =>
    obtain ⟨hserver, rfl⟩ := Prod.mk.inj hchosen
    obtain ⟨rfl, -⟩ := Looked.selected.inj hserver
    cases mode with
    | read =>
      obtain ⟨selected, hleast, hselected⟩ := Option.map_eq_some_iff.mp hselect
      obtain ⟨rfl, rfl⟩ := Prod.mk.inj hselected
      exact fun hforgotten => hforgotten.2.1 (selectLeastConnected_mem hleast)
    | write =>
      obtain ⟨selected, hleast, hselected⟩ := Option.map_eq_some_iff.mp hselect
      obtain ⟨rfl, rfl⟩ := Prod.mk.inj hselected
      exact fun hforgotten => hforgotten.2.2 (selectLeastConnected_mem hleast)

end BoltRoutingPool

namespace Routing

variable {τ : Type} [DecidableEq τ] {routing routing' : Routing τ} {thread : τ}
  {server : BoltAddress} {status final : BoltStatus} {index : Nat} {waits : Bool}

/-- A call that has selected no server ends as the source says. -/
theorem fails_handleResult (result : Int) (pool : BoltRoutingPool) :
    (routing.fails thread status result pool).2.pool = pool.handleResult none result := by
  unfold BoltRoutingPool.handleResult
  split_ifs <;> rfl

/-- A call that has asked the direct pool of a server ends with a `result` that
is still `BOLT_SUCCESS`. -/
theorem acquired_handleResult {routed : BoltRoutingPool.Routed} (pool : BoltRoutingPool) :
    (routing.acquired thread server status index routed pool).2.pool =
      pool.handleResult (some server) BOLT_SUCCESS :=
  pool_acquired

/-- A turn in which a thread asks a direct pool for a connection, or waits for
one in vain. -/
def Asks (thread : τ) (turn : RoutingTurn τ) : Prop :=
  turn = .timeout thread ∨ ∃ surroundings, turn = .acquire thread surroundings

/-- What a call is to do with the table when the direct pool of the server has
no connection for it. -/
def Forgets (server : BoltAddress) (code : Int) (before after : RoutingTable) : Prop :=
  (code ∈ BoltRoutingPool.forgettingCodes → after.Forgotten server) ∧
    (code ∉ BoltRoutingPool.forgettingCodes → after = before)

/-- The table does not change when a direct pool is asked. -/
theorem table_of_asks {turn : RoutingTurn τ} {report : Report}
    (hstage : routing.stages thread = .ensured server status index waits)
    (hasks : Asks thread turn) (h : take turn routing = some (report, routing')) :
    routing'.pool.routing_table = routing.pool.routing_table := by
  rcases hasks with rfl | ⟨surroundings, rfl⟩
  · simp only [take, hstage] at h
    cases waits with
    | false => cases h
    | true =>
      obtain ⟨-, rfl⟩ := Prod.mk.inj (Option.some.inj h)
      rfl
  · simp only [take, hstage] at h
    obtain ⟨⟨routed, pool⟩, hacquire, hresult⟩ := Option.map_eq_some_iff.mp h
    have hpool : pool = routing'.pool := pool_acquired.symm.trans (congrArg (·.2.pool) hresult)
    rw [← hpool]
    exact BoltRoutingPool.acquireFrom_table hacquire

/-- A call that gets no connection from the direct pool of its server does with
the table what it is to do if and only if there is nothing to do: the code is
none for which the server is forgotten, or the server has been forgotten. -/
theorem forgets_iff {turn : RoutingTurn τ}
    (hstage : routing.stages thread = .ensured server status index waits)
    (hasks : Asks thread turn)
    (h : take turn routing = some (.acquired (.returned none final), routing')) :
    Forgets server final.error routing.pool.routing_table routing'.pool.routing_table ↔
      (final.error ∈ BoltRoutingPool.forgettingCodes →
        routing.pool.routing_table.Forgotten server) := by
  unfold Forgets
  rw [table_of_asks hstage hasks h]
  constructor
  · exact fun hforgets => hforgets.1
  · exact fun hforgotten => ⟨hforgotten, fun _ => rfl⟩

/-- A target at which the connection is refused. -/
def refusing : BoltConnection.Target where
  comm := { BoltCommunication.create with
    openScript := [some (.statusSet ⟨BOLT_CONNECTION_REFUSED, by decide⟩)] }
  hosts := [true]
  id := []

/-- A thread wants to read from the server `s`. -/
def readingFrom : List (RoutingTurn (Fin 1)) :=
  let found : Announcement := ⟨[serverNamed "s"], [], [serverNamed "r"], 1000⟩
  [.call 0 .read ⟨.disconnected, BOLT_SUCCESS⟩, .check 0 0, .refresh 0 true 0 (some found),
    .check 0 1, .add 0 true, .recheck 0]

/-- The thread before it asks the direct pool of the server. -/
def readingRouting : Routing (Fin 1) :=
  ((Runs.run take readingFrom (start (BoltRoutingPool.create (ascii "agent") 0 0
    (.dictionary []) 1))).map Prod.snd).getD (start (BoltRoutingPool.create [] 0 0 .null 0))

theorem reachable_readingRouting : Reachable readingRouting := by
  have hrun : (Runs.run take readingFrom (start (BoltRoutingPool.create (ascii "agent") 0 0
      (.dictionary []) 1))).isSome = true := by
    decide +kernel
  obtain ⟨⟨reports, routing⟩, hrun⟩ := Option.isSome_iff_exists.mp hrun
  refine ⟨_, _, _, _, _, readingFrom, reports, hrun.trans ?_⟩
  rw [readingRouting, hrun]
  rfl

theorem stage_readingRouting : readingRouting.stages 0 =
    .ensured (serverNamed "s") ⟨.disconnected, BOLT_SUCCESS⟩ 0 false := by
  decide +kernel

/-- The call returns NULL, because the connection has been refused. -/
theorem take_readingRouting : ∃ routing',
    take (.acquire 0 ⟨0, 0, refusing⟩) readingRouting =
      some (.acquired (.returned none ⟨.defunct, BOLT_CONNECTION_REFUSED⟩), routing') := by
  have hreport : (take (.acquire 0 ⟨0, 0, refusing⟩) readingRouting).map Prod.fst =
      some (.acquired (.returned none ⟨.defunct, BOLT_CONNECTION_REFUSED⟩)) := by
    decide +kernel
  obtain ⟨⟨report, routing'⟩, htake, rfl⟩ := Option.map_eq_some_iff.mp hreport
  exact ⟨routing', htake⟩

theorem forgets_iff_refused : ∃ routing',
    take (.acquire 0 ⟨0, 0, refusing⟩) readingRouting =
      some (.acquired (.returned none ⟨.defunct, BOLT_CONNECTION_REFUSED⟩), routing') ∧
    (Forgets (serverNamed "s") BOLT_CONNECTION_REFUSED readingRouting.pool.routing_table
        routing'.pool.routing_table ↔
      (BOLT_CONNECTION_REFUSED ∈ BoltRoutingPool.forgettingCodes →
        readingRouting.pool.routing_table.Forgotten (serverNamed "s"))) := by
  obtain ⟨routing', htake⟩ := take_readingRouting
  exact ⟨routing', htake, forgets_iff stage_readingRouting (.inr ⟨_, rfl⟩) htake⟩

/-- A server that refuses the connection stays in the table. -/
theorem refused_not_forgotten :
    ¬∀ (routing routing' : Routing (Fin 1)) (turn : RoutingTurn (Fin 1)) (server : BoltAddress)
      (status final : BoltStatus) (index : Nat) (waits : Bool), Reachable routing →
      routing.stages 0 = .ensured server status index waits → Asks 0 turn →
      take turn routing = some (.acquired (.returned none final), routing') →
        Forgets server final.error routing.pool.routing_table routing'.pool.routing_table := by
  intro hforgets
  obtain ⟨routing', htake⟩ := take_readingRouting
  have hasks : Asks 0 (.acquire (0 : Fin 1) ⟨0, 0, refusing⟩) := .inr ⟨_, rfl⟩
  have hafter := (hforgets _ _ _ _ _ _ _ _ reachable_readingRouting stage_readingRouting hasks
    htake).1 (by decide)
  rw [table_of_asks stage_readingRouting hasks htake] at hafter
  revert hafter
  decide +kernel

end Routing

end Seabolt
