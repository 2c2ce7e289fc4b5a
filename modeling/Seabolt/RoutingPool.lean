import Seabolt.Lib.Heap
import Seabolt.DirectPool
import Seabolt.RoutingTable

/-!
# The routing pool

`routing-pool.c`: a direct pool for each server that has been used, and the
routing table that says which servers to use.  The stretches of code under the
read or the write lock of the pool are functions on its state.

A direct pool is allocated and freed, so `server_pools` holds pointers.  Work
through a pointer to a direct pool that has been destroyed is undefined.
-/

namespace Seabolt

abbrev BOLT_ROUTING_UNABLE_TO_RETRIEVE_ROUTING_TABLE : Int := 0x800
abbrev BOLT_ROUTING_NO_SERVERS_TO_SELECT : Int := 0x801
abbrev BOLT_ROUTING_UNABLE_TO_CONSTRUCT_POOL_FOR_SERVER : Int := 0x802
abbrev BOLT_ROUTING_UNABLE_TO_REFRESH_ROUTING_TABLE : Int := 0x803
abbrev BOLT_ROUTING_UNEXPECTED_DISCOVERY_RESPONSE : Int := 0x804

def INT_MAX : Int := 2147483647

/-- The direct pool of a server, with the address that it was created for. -/
structure ServerPool where
  address : BoltAddress
  pool : BoltDirectPool

/-- A connection of one of the direct pools: the pointer to the pool, and the
index of the connection. -/
structure Handle where
  pool : Nat
  index : Nat
  deriving DecidableEq, Repr

/-- `struct BoltRoutingPool`, with the part of the configuration that it reads. -/
structure BoltRoutingPool where
  user_agent : List UInt8
  max_connection_life_time : Int
  max_connection_acquisition_time : Int
  auth_token : BoltValue
  max_pool_size : Nat
  routing_table : RoutingTable
  readers_offset : Int
  writers_offset : Int
  servers : BoltAddressSet
  server_pools : List Nat
  allocated : Heap ServerPool

/-- `BoltDirectPool_destroy`: what is closed before it is freed. -/
def BoltDirectPool.destroy (pool : BoltDirectPool) : Option BoltDirectPool :=
  (List.range pool.connections.length).foldlM (fun pool index => pool.closePoolEntry index) pool

namespace BoltRoutingPool

/-- `BoltRoutingPool_create`. -/
def create (user_agent : List UInt8) (max_connection_life_time max_connection_acquisition_time : Int)
    (auth_token : BoltValue) (max_pool_size : Nat) : BoltRoutingPool where
  user_agent := user_agent
  max_connection_life_time := max_connection_life_time
  max_connection_acquisition_time := max_connection_acquisition_time
  auth_token := auth_token
  max_pool_size := max_pool_size
  routing_table := .create
  readers_offset := 0
  writers_offset := 0
  servers := []
  server_pools := []
  allocated := []

/-- Work on the direct pool that a pointer points to. -/
def onServerPool {β : Type} (pointer : Nat) (work : BoltDirectPool → Option (β × BoltDirectPool))
    (pool : BoltRoutingPool) : Option (β × BoltRoutingPool) :=
  (pool.allocated.read pointer).bind fun server =>
    (work server.pool).map fun (result, direct) => (result, { pool with
      allocated := pool.allocated.write pointer { server with pool := direct } })

/-! ## Servers and their pools -/

/-- The `BoltDirectPool_create` of `BoltRoutingPool_ensure_server`, for a server
that has been added. -/
def createServerPool (server : BoltAddress) (pool : BoltRoutingPool) : BoltRoutingPool :=
  { pool with
    server_pools := pool.server_pools ++ [pool.allocated.length]
    allocated := pool.allocated.alloc ⟨server, .create pool.user_agent
      pool.max_connection_life_time pool.max_connection_acquisition_time pool.auth_token
      pool.max_pool_size⟩ }

/-- What `BoltRoutingPool_ensure_server` does under the write lock. -/
def addServer (server : BoltAddress) (pool : BoltRoutingPool) : Option Nat × BoltRoutingPool :=
  match BoltAddressSet.indexOf pool.servers server with
  | some index => (some index, pool)
  | none =>
    let (index, servers) := BoltAddressSet.add pool.servers server
    (index, createServerPool server { pool with servers := servers })

/-- Whether `BoltRoutingPool_cleanup` removes an entry.  The connections in use
are not looked at if the server is an active one. -/
def isUnused (active : BoltAddressSet) (entry : BoltAddress × Nat) (pool : BoltRoutingPool) :
    Option Bool :=
  if (BoltAddressSet.indexOf active entry.1).isSome then some false
  else (pool.allocated.read entry.2).map fun server => server.pool.in_use_count = 0

/-- Copy an entry to the new set and the new array of `BoltRoutingPool_cleanup`. -/
def keepEntry (kept : BoltAddressSet × List Nat) (entry : BoltAddress × Nat) :
    Option (BoltAddressSet × List Nat) :=
  match BoltAddressSet.add kept.1 entry.1 with
  | (some _, servers) => some (servers, kept.2 ++ [entry.2])
  | (none, _) => none

/-- Destroy the direct pool that a pointer points to. -/
def destroyServerPool (pool : BoltRoutingPool) (pointer : Nat) : Option BoltRoutingPool :=
  (pool.allocated.read pointer).bind fun server =>
    server.pool.destroy.map fun _ => { pool with allocated := pool.allocated.free pointer }

/-- `BoltRoutingPool_cleanup`. -/
def cleanup (pool : BoltRoutingPool) : Option BoltRoutingPool :=
  let entries := pool.servers.zip pool.server_pools
  (entries.mapM fun entry => pool.isUnused pool.routing_table.activeServers entry).bind
    fun cleanup_marker =>
      if cleanup_marker.count true > 0 then
        let kept := (entries.zip cleanup_marker).filter fun marked => !marked.2
        let removed := (entries.zip cleanup_marker).filter fun marked => marked.2
        ((kept.map Prod.fst).foldlM keepEntry ([], [])).bind fun (servers, server_pools) =>
          (removed.map fun marked => marked.1.2).foldlM destroyServerPool
            { pool with servers := servers, server_pools := server_pools }
      else some pool

/-! ## The routing table -/

/-- `BoltRoutingPool_update_routing_table`, given what the discovery has found
in the end. -/
def updateRoutingTable (now : Int) (discovery : Option Announcement) (pool : BoltRoutingPool) :
    Int × BoltRoutingPool :=
  match discovery with
  | some announcement =>
    (BOLT_SUCCESS, { pool with routing_table := pool.routing_table.install announcement now })
  | none => (BOLT_ROUTING_UNABLE_TO_RETRIEVE_ROUTING_TABLE, pool)

/-- What `BoltRoutingPool_ensure_routing_table` does under the write lock. -/
def refresh (mode : BoltAccessMode) (now : Int) (discovery : Option Announcement)
    (pool : BoltRoutingPool) : Outcome BoltRoutingPool :=
  if pool.routing_table.isExpired mode now then
    let (status, pool) := pool.updateRoutingTable now discovery
    if status = BOLT_SUCCESS then pool.cleanup.map fun pool => (status, pool)
    else some (status, pool)
  else some (BOLT_SUCCESS, pool)

/-- What `BoltRoutingPool_forget_server` does under the write lock. -/
def forgetServer (server : BoltAddress) (pool : BoltRoutingPool) : BoltRoutingPool :=
  { pool with routing_table := pool.routing_table.forgetServer server }

/-- What `BoltRoutingPool_forget_writer` does under the write lock. -/
def forgetWriter (server : BoltAddress) (pool : BoltRoutingPool) : BoltRoutingPool :=
  { pool with routing_table := pool.routing_table.forgetWriter server }

/-! ## Selecting a server -/

/-- The connections in use of a server that may not have a pool. -/
def connectionsInUse (server : BoltAddress) (pool : BoltRoutingPool) : Option Int :=
  match BoltAddressSet.indexOf pool.servers server with
  | none => some 0
  | some index => (pool.server_pools[index]?.bind pool.allocated.read).map fun server =>
      server.pool.in_use_count

/-- The loop of `BoltRoutingPool_select_least_connected`, which has as many
rounds as there are servers. -/
def selectLoop (servers : BoltAddressSet) (start_index : Nat) (pool : BoltRoutingPool) :
    Nat → Nat → Option BoltAddress → Int → Option (Option BoltAddress)
  | 0, _, least_connected_server, _ => some least_connected_server
  | rounds + 1, index, least_connected_server, least_connected =>
    servers[index]?.bind fun server =>
      (pool.connectionsInUse server).bind fun active =>
        let (least_connected_server, least_connected) :=
          if active < least_connected then (some server, active)
          else (least_connected_server, least_connected)
        let index := (index + 1) % servers.length
        if index = start_index then some least_connected_server
        else pool.selectLoop servers start_index rounds index least_connected_server least_connected

/-- `BoltRoutingPool_select_least_connected`. -/
def selectLeastConnected (servers : BoltAddressSet) (offset : Int) (pool : BoltRoutingPool) :
    Option (Option BoltAddress) :=
  if servers = [] then some none
  else
    let start_index := Int.tmod offset servers.length
    if start_index < 0 then none
    else pool.selectLoop servers start_index.toNat servers.length start_index.toNat none INT_MAX

/-- `BoltAtomic_increment`. -/
def increment (ref : Int) : Int := Int.bmod (ref + 1) 0x10000000000000000

/-- `BoltRoutingPool_select_least_connected_reader` and
`BoltRoutingPool_select_least_connected_writer`. -/
def select (mode : BoltAccessMode) (pool : BoltRoutingPool) :
    Option (Option BoltAddress × BoltRoutingPool) :=
  match mode with
  | .read =>
    let pool := { pool with readers_offset := increment pool.readers_offset }
    (pool.selectLeastConnected pool.routing_table.readers pool.readers_offset).map (·, pool)
  | .write =>
    let pool := { pool with writers_offset := increment pool.writers_offset }
    (pool.selectLeastConnected pool.routing_table.writers pool.writers_offset).map (·, pool)

/-- What `BoltRoutingPool_acquire` does next, after a look at the routing table
under the read lock. -/
inductive Looked where
  | expired
  | failed (result : Int)
  | selected (server : BoltAddress) (index : Option Nat)

/-- The stretch of `BoltRoutingPool_acquire` from the loop of
`BoltRoutingPool_ensure_routing_table`, left with a status so far, to the first
look of `BoltRoutingPool_ensure_server`. -/
def look (mode : BoltAccessMode) (now result : Int) (pool : BoltRoutingPool) :
    Option (Looked × BoltRoutingPool) :=
  if result = BOLT_SUCCESS then
    if pool.routing_table.isExpired mode now then some (.expired, pool)
    else
      (pool.select mode).map fun (server, pool) =>
        match server with
        | none => (.failed BOLT_ROUTING_NO_SERVERS_TO_SELECT, pool)
        | some server =>
          (.selected server (BoltAddressSet.indexOf pool.servers server), pool)
  else some (.failed result, pool)

/-! ## Acquiring and releasing -/

/-- How a section of the `BoltDirectPool_acquire` of `BoltRoutingPool_acquire`
ends: with what `BoltRoutingPool_acquire` returns, or in a wait. -/
inductive Routed where
  | returned (connection : Option Handle) (status : BoltStatus)
  | waits
  deriving DecidableEq

/-- The `BoltDirectPool_acquire` of `BoltRoutingPool_acquire`, and the error
callback of the connection that it returns. -/
def acquireFrom (server_pool_index : Nat) (surroundings : Surroundings) (pool : BoltRoutingPool) :
    Option (Routed × BoltRoutingPool) :=
  pool.server_pools[server_pool_index]?.bind fun pointer =>
    pool.onServerPool pointer fun direct =>
      (direct.acquire surroundings).bind fun (acquired, direct) =>
        match acquired with
        | .waits => some (.waits, direct)
        | .returned none status => some (.returned none status, direct)
        | .returned (some index) status =>
          (direct.onConnection index fun connection =>
            some (BOLT_SUCCESS, { connection with on_error_cb := true })).map fun (_, direct) =>
              (.returned (some ⟨pointer, index⟩) status, direct)

/-- Work on a connection of one of the direct pools. -/
def onHandle (handle : Handle) (work : BoltConnection → Outcome BoltConnection) :
    BoltRoutingPool → Outcome BoltRoutingPool :=
  onServerPool handle.pool fun direct => direct.onConnection handle.index work

/-- The address of a connection, or NULL.  `BoltConnection_open` and
`BoltConnection_close` set and clear it together with the id. -/
def addressOf (handle : Handle) (pool : BoltRoutingPool) : Option (Option BoltAddress) :=
  (pool.allocated.read handle.pool).bind fun server =>
    server.pool.connections[handle.index]?.map fun connection =>
      if connection.id = [] then none else some server.address

/-- The `BoltRoutingPool_ensure_server` of a release, which creates no pool.
With servers to compare with, an address that is NULL is read through. -/
def findServer (address : Option BoltAddress) (pool : BoltRoutingPool) : Option (Option Nat) :=
  match address with
  | some server => some (BoltAddressSet.indexOf pool.servers server)
  | none => if pool.servers = [] then some none else none

/-- `BoltRoutingPool_release`. -/
def release (connection : Option Handle) (pool : BoltRoutingPool) : Outcome BoltRoutingPool :=
  match connection with
  | none => none
  | some handle =>
    (pool.onHandle handle fun connection =>
      some (BOLT_SUCCESS, { connection with on_error_cb := false })).bind fun (_, pool) =>
        (pool.addressOf handle).bind fun address =>
          (pool.findServer address).bind fun server_pool_index =>
            match server_pool_index with
            | none =>
              (pool.onHandle handle fun connection =>
                connection.close.map fun connection => (BOLT_SUCCESS, connection)).map
                  fun (_, pool) => (-1, pool)
            | some index =>
              pool.server_pools[index]?.bind fun pointer =>
                pool.onServerPool pointer fun direct =>
                  direct.release (if pointer = handle.pool then some handle.index else none)

/-! ## Servers and their pools agree -/

/-- Every server has a direct pool of its own, which was created for it, and
there are no other direct pools. -/
def Consistent (pool : BoltRoutingPool) : Prop :=
  Directory ServerPool.address pool.servers pool.server_pools pool.allocated

/-- The index is the one of the server, and the direct pool there is the one
that was created for it and has not been destroyed. -/
def Valid (server : BoltAddress) (index : Nat) (pool : BoltRoutingPool) : Prop :=
  index < pool.servers.length ∧ pool.servers[index]? = some server ∧
    ∃ pointer entry, pool.server_pools[index]? = some pointer ∧
      pool.allocated.read pointer = some entry ∧ entry.address = server

/-- The servers and their direct pools are the same, whatever has happened to
the connections. -/
structure Works (pool pool' : BoltRoutingPool) : Prop where
  servers : pool'.servers = pool.servers
  server_pools : pool'.server_pools = pool.server_pools
  addresses : ∀ pointer, (pool'.allocated.read pointer).map ServerPool.address =
    (pool.allocated.read pointer).map ServerPool.address

variable {pool pool' pool2 : BoltRoutingPool} {server : BoltAddress} {pointer index : Nat}
  {β : Type} {result : β}

theorem consistent_create (user_agent : List UInt8) (life_time acquisition_time : Int)
    (auth_token : BoltValue) (max_pool_size : Nat) :
    Consistent (create user_agent life_time acquisition_time auth_token max_pool_size) :=
  Directory.nil

theorem Consistent.valid (hs : Consistent pool) (h : pool.servers[index]? = some server) :
    Valid server index pool := by
  obtain ⟨pointer, entry, hpointer, hread, haddress⟩ := Directory.object_at hs h
  obtain ⟨hlt, -⟩ := List.getElem?_eq_some_iff.mp h
  exact ⟨hlt, h, pointer, entry, hpointer, hread, haddress⟩

namespace Works

theorem refl (pool : BoltRoutingPool) : Works pool pool := ⟨rfl, rfl, fun _ => rfl⟩

theorem trans (h : Works pool pool') (h' : Works pool' pool2) : Works pool pool2 :=
  ⟨h'.servers.trans h.servers, h'.server_pools.trans h.server_pools,
    fun pointer => (h'.addresses pointer).trans (h.addresses pointer)⟩

theorem consistent (h : Works pool pool') (hs : Consistent pool) : Consistent pool' := by
  unfold Consistent
  rw [h.servers, h.server_pools]
  exact Directory.congr hs h.addresses

end Works

theorem onServerPool_cases {work : BoltDirectPool → Option (β × BoltDirectPool)}
    (h : pool.onServerPool pointer work = some (result, pool')) :
    ∃ server direct, pool.allocated.read pointer = some server ∧
      work server.pool = some (result, direct) ∧
      pool' = { pool with
        allocated := pool.allocated.write pointer { server with pool := direct } } := by
  obtain ⟨server, hread, h⟩ := Option.bind_eq_some_iff.mp h
  obtain ⟨⟨result, direct⟩, hwork, hresult⟩ := Option.map_eq_some_iff.mp h
  obtain ⟨rfl, rfl⟩ := Prod.mk.inj hresult
  exact ⟨server, direct, hread, hwork, rfl⟩

theorem onServerPool_works {work : BoltDirectPool → Option (β × BoltDirectPool)}
    (h : pool.onServerPool pointer work = some (result, pool')) : Works pool pool' := by
  obtain ⟨server, direct, hread, -, rfl⟩ := onServerPool_cases h
  refine ⟨rfl, rfl, fun other => ?_⟩
  by_cases heq : pointer = other
  · subst heq
    rw [Heap.read_write_self (Heap.lt_of_read hread), hread]
    rfl
  · rw [Heap.read_write_ne heq]

theorem onHandle_works {handle : Handle} {work : BoltConnection → Outcome BoltConnection}
    {result : Int} (h : pool.onHandle handle work = some (result, pool')) : Works pool pool' :=
  onServerPool_works h

theorem acquireFrom_works {surroundings : Surroundings} {routed : Routed}
    (h : pool.acquireFrom index surroundings = some (routed, pool')) : Works pool pool' := by
  obtain ⟨pointer, -, h⟩ := Option.bind_eq_some_iff.mp h
  exact onServerPool_works h

theorem release_works {connection : Option Handle} {result : Int}
    (h : pool.release connection = some (result, pool')) : Works pool pool' := by
  unfold release at h
  split at h
  · cases h
  · obtain ⟨⟨cleared, pool1⟩, hclear, h⟩ := Option.bind_eq_some_iff.mp h
    obtain ⟨address, -, h⟩ := Option.bind_eq_some_iff.mp h
    obtain ⟨found, -, h⟩ := Option.bind_eq_some_iff.mp h
    refine (onHandle_works hclear).trans ?_
    dsimp only at h
    split at h
    · obtain ⟨⟨closed, pool2⟩, hclose, hresult⟩ := Option.map_eq_some_iff.mp h
      obtain ⟨-, rfl⟩ := Prod.mk.inj hresult
      exact onHandle_works hclose
    · obtain ⟨pointer, -, h⟩ := Option.bind_eq_some_iff.mp h
      exact onServerPool_works h

/-- Whatever a look at the routing table finds, only an offset changes; and an
index that it finds is the one of the server. -/
theorem look_cases {mode : BoltAccessMode} {now result : Int} {looked : Looked}
    (h : pool.look mode now result = some (looked, pool')) :
    pool'.allocated = pool.allocated ∧ pool'.servers = pool.servers ∧
      pool'.server_pools = pool.server_pools ∧
      ∀ server i, looked = .selected server (some i) → pool.servers[i]? = some server := by
  unfold look at h
  split_ifs at h
  · obtain ⟨rfl, rfl⟩ := Prod.mk.inj (Option.some.inj h)
    exact ⟨rfl, rfl, rfl, nofun⟩
  · obtain ⟨⟨selected, pool1⟩, hselect, hresult⟩ := Option.map_eq_some_iff.mp h
    have hsame : pool1.allocated = pool.allocated ∧ pool1.servers = pool.servers ∧
        pool1.server_pools = pool.server_pools := by
      cases mode with
      | read =>
        obtain ⟨found, -, hfound⟩ := Option.map_eq_some_iff.mp hselect
        obtain ⟨-, rfl⟩ := Prod.mk.inj hfound
        exact ⟨rfl, rfl, rfl⟩
      | write =>
        obtain ⟨found, -, hfound⟩ := Option.map_eq_some_iff.mp hselect
        obtain ⟨-, rfl⟩ := Prod.mk.inj hfound
        exact ⟨rfl, rfl, rfl⟩
    obtain ⟨hallocated, hservers, hpools⟩ := hsame
    dsimp only at hresult
    split at hresult
    · obtain ⟨rfl, rfl⟩ := Prod.mk.inj hresult
      exact ⟨hallocated, hservers, hpools, nofun⟩
    · next chosen _ =>
      obtain ⟨rfl, rfl⟩ := Prod.mk.inj hresult
      refine ⟨hallocated, hservers, hpools, fun server i hlooked => ?_⟩
      obtain ⟨rfl, hindex⟩ := Looked.selected.inj hlooked
      rw [hservers] at hindex
      exact BoltAddressSet.getElem?_of_indexOf hindex
  · obtain ⟨rfl, rfl⟩ := Prod.mk.inj (Option.some.inj h)
    exact ⟨rfl, rfl, rfl, nofun⟩

theorem look_works {mode : BoltAccessMode} {now result : Int} {looked : Looked}
    (h : pool.look mode now result = some (looked, pool')) : Works pool pool' := by
  obtain ⟨hallocated, hservers, hpools, -⟩ := look_cases h
  exact ⟨hservers, hpools, fun _ => by rw [hallocated]⟩

/-- A look that fails has an error to report. -/
theorem look_failed {mode : BoltAccessMode} {now result error : Int}
    (h : pool.look mode now result = some (.failed error, pool')) : error ≠ BOLT_SUCCESS := by
  unfold look at h
  split_ifs at h with hresult
  · cases h
  · obtain ⟨⟨selected, pool1⟩, -, hselected⟩ := Option.map_eq_some_iff.mp h
    dsimp only at hselected
    split at hselected
    · obtain ⟨hfailed, -⟩ := Prod.mk.inj hselected
      rw [← Looked.failed.inj hfailed]
      decide
    · cases hselected
  · obtain ⟨hfailed, -⟩ := Prod.mk.inj (Option.some.inj h)
    rwa [← Looked.failed.inj hfailed]

/-- A server that is added is the last one, and the others stay where they
are. -/
theorem addServer_cases (server : BoltAddress) (hs : Consistent pool) :
    Consistent (pool.addServer server).2 ∧ pool.servers <+: (pool.addServer server).2.servers ∧
      ∃ i, (pool.addServer server).1 = some i ∧
        (pool.addServer server).2.servers[i]? = some server := by
  unfold addServer
  split
  · next index hindex =>
    exact ⟨hs, List.prefix_refl _, index, rfl, BoltAddressSet.getElem?_of_indexOf hindex⟩
  · next hindex =>
    have hnew := BoltAddressSet.indexOf_eq_none.mp hindex
    rw [BoltAddressSet.add_of_not_mem hnew]
    refine ⟨?_, List.prefix_append _ _, pool.servers.length, rfl, ?_⟩
    · exact Directory.alloc hs rfl hnew
    · exact List.getElem?_concat_length

/-! ## What the cleanup removes -/

/-- The entries of the two arrays. -/
def entries (pool : BoltRoutingPool) : List (BoltAddress × Nat) :=
  pool.servers.zip pool.server_pools

/-- Whether a cleanup removes an entry. -/
def removes (pool : BoltRoutingPool) (entry : BoltAddress × Nat) : Bool :=
  pool.isUnused pool.routing_table.activeServers entry = some true

/-- The entries that are marked, those that are not, and how many are. -/
theorem mapM_markers {α : Type} {test : α → Option Bool} (list : List α) :
    ∀ {markers : List Bool}, list.mapM test = some markers →
      ((list.zip markers).filter fun marked => !marked.2).map Prod.fst =
          list.filter (fun a => !decide (test a = some true)) ∧
        ((list.zip markers).filter fun marked => marked.2).map Prod.fst =
          list.filter (fun a => decide (test a = some true)) ∧
        markers.count true = (list.filter fun a => decide (test a = some true)).length := by
  induction list with
  | nil =>
    intro markers h
    obtain rfl := Option.some.inj h
    exact ⟨rfl, rfl, rfl⟩
  | cons a list ih =>
    intro markers h
    rw [List.mapM_cons] at h
    obtain ⟨marker, htest, h⟩ := Option.bind_eq_some_iff.mp h
    obtain ⟨markers, hrest, h⟩ := Option.bind_eq_some_iff.mp h
    obtain rfl := Option.some.inj h
    obtain ⟨hkept, hremoved, hcount⟩ := ih hrest
    cases marker with
    | true => simp [htest, hkept, hremoved, hcount]
    | false => simp [htest, hkept, hremoved, hcount]

/-- Distinct servers are copied as they are. -/
theorem foldlM_keepEntry (list : List (BoltAddress × Nat)) :
    ∀ kept : BoltAddressSet × List Nat, (kept.1 ++ list.map Prod.fst).Nodup →
      list.foldlM keepEntry kept = some (kept.1 ++ list.map Prod.fst, kept.2 ++ list.map Prod.snd) := by
  induction list with
  | nil =>
    intro kept _
    simp
  | cons entry list ih =>
    intro kept h
    have hnew : entry.1 ∉ kept.1 := by
      intro hmem
      exact (List.nodup_append.mp h).2.2 entry.1 hmem entry.1 (by simp) rfl
    have hkeep : keepEntry kept entry = some (kept.1 ++ [entry.1], kept.2 ++ [entry.2]) := by
      rw [keepEntry, BoltAddressSet.add_of_not_mem hnew]
    rw [List.foldlM_cons, hkeep]
    refine (ih (kept.1 ++ [entry.1], kept.2 ++ [entry.2]) ?_).trans ?_
    · simpa using h
    · simp

/-- Only what is destroyed goes. -/
theorem foldlM_destroyServerPool (pointers : List Nat) :
    ∀ {pool pool' : BoltRoutingPool}, pointers.foldlM destroyServerPool pool = some pool' →
      ∃ allocated, pool' = { pool with allocated := allocated } ∧
        ∀ pointer, allocated.read pointer =
          if pointer ∈ pointers then none else pool.allocated.read pointer := by
  induction pointers with
  | nil =>
    intro pool pool' h
    obtain rfl := Option.some.inj h
    exact ⟨pool.allocated, rfl, fun _ => by simp⟩
  | cons first pointers ih =>
    intro pool pool' h
    obtain ⟨pool1, hfirst, h⟩ := Option.bind_eq_some_iff.mp h
    obtain ⟨server, -, hfirst⟩ := Option.bind_eq_some_iff.mp hfirst
    obtain ⟨closed, -, rfl⟩ := Option.map_eq_some_iff.mp hfirst
    obtain ⟨allocated, rfl, hread⟩ := ih h
    refine ⟨allocated, rfl, fun pointer => ?_⟩
    rw [hread]
    by_cases heq : first = pointer
    · subst heq
      rw [Heap.read_free_self]
      simp
    · rw [Heap.read_free_ne heq]
      simp [Ne.symm heq]

/-- The cleanup keeps what it does not remove, in order, and destroys the direct
pools of what it removes. -/
theorem cleanup_cases (hs : Consistent pool) (h : pool.cleanup = some pool') :
    ∃ allocated, pool' = { pool with
        servers := (pool.entries.filter fun entry => !pool.removes entry).map Prod.fst
        server_pools := (pool.entries.filter fun entry => !pool.removes entry).map Prod.snd
        allocated := allocated } ∧
      ∀ pointer, allocated.read pointer =
        if pointer ∈ (pool.entries.filter pool.removes).map Prod.snd then none
        else pool.allocated.read pointer := by
  obtain ⟨markers, hmarkers, h⟩ := Option.bind_eq_some_iff.mp h
  obtain ⟨hkept, hremoved, hcount⟩ := mapM_markers _ hmarkers
  change _ = pool.entries.filter (fun entry => !pool.removes entry) at hkept
  change _ = pool.entries.filter pool.removes at hremoved
  split_ifs at h with hsome
  · obtain ⟨⟨servers, server_pools⟩, hcopy, h⟩ := Option.bind_eq_some_iff.mp h
    rw [hkept] at hcopy
    have hnodup : ((pool.entries.filter fun entry => !pool.removes entry).map Prod.fst).Nodup := by
      refine List.Nodup.sublist (List.filter_sublist.map Prod.fst) ?_
      rw [entries, List.map_fst_zip (Nat.le_of_eq (Directory.length hs))]
      exact hs.nodup
    rw [foldlM_keepEntry _ _ (by simpa using hnodup)] at hcopy
    obtain ⟨rfl, rfl⟩ := Prod.mk.inj (Option.some.inj hcopy)
    obtain ⟨allocated, rfl, hread⟩ := foldlM_destroyServerPool _ h
    refine ⟨allocated, by simp, fun pointer => ?_⟩
    rw [hread, ← hremoved, List.map_map]
    rfl
  · obtain rfl := Option.some.inj h
    have hnone : pool.entries.filter pool.removes = [] := by
      apply List.eq_nil_of_length_eq_zero
      change List.count true markers = (pool.entries.filter pool.removes).length at hcount
      omega
    have hall : (pool.entries.filter fun entry => !pool.removes entry) = pool.entries := by
      rw [List.filter_eq_self]
      intro entry hentry
      have hkeeps := List.filter_eq_nil_iff.mp hnone entry hentry
      simpa using hkeeps
    refine ⟨pool.allocated, ?_, fun pointer => by rw [hnone]; simp⟩
    rw [hall, entries, List.map_fst_zip (Nat.le_of_eq (Directory.length hs)),
      List.map_snd_zip (Nat.le_of_eq (Directory.length hs).symm)]

/-- A pointer is in one entry only. -/
theorem entry_unique (hs : Consistent pool) {entry entry' : BoltAddress × Nat}
    (h : entry ∈ pool.entries) (h' : entry' ∈ pool.entries) (hsame : entry.2 = entry'.2) :
    entry = entry' := by
  have hsnd : pool.entries.map Prod.snd = pool.server_pools :=
    List.map_snd_zip (Nat.le_of_eq (Directory.length hs).symm)
  have hnodup : (pool.entries.map Prod.snd).Nodup := by
    rw [hsnd]
    exact Directory.nodup_pointers hs
  exact List.inj_on_of_nodup_map hnodup h h' hsame

theorem consistent_cleanup (hs : Consistent pool) (h : pool.cleanup = some pool') :
    Consistent pool' := by
  obtain ⟨allocated, rfl, hread⟩ := cleanup_cases hs h
  have hremoved : ∀ pointer, pointer ∈ (pool.entries.filter pool.removes).map Prod.snd ↔
      ∃ entry ∈ pool.entries, pool.removes entry = true ∧ entry.2 = pointer := by
    simp only [List.mem_map, List.mem_filter, and_assoc, implies_true]
  apply Directory.filter hs fun entry => !pool.removes entry
  · intro entry hentry hkeeps
    rw [hread, if_neg]
    rintro hmem
    obtain ⟨entry', hentry', hremoves, hsame⟩ := (hremoved entry.2).mp hmem
    obtain rfl := entry_unique hs hentry' hentry hsame
    rw [hremoves] at hkeeps
    cases hkeeps
  · intro pointer object hobject
    rw [hread] at hobject
    split_ifs at hobject with hmem
    obtain ⟨i, hlt, hget⟩ := List.getElem_of_mem (Directory.listed hs pointer object hobject)
    have hlt' : i < pool.servers.length := by rwa [Directory.length hs]
    have hentry : (pool.servers[i], pointer) ∈ pool.entries := by
      have hzip : pool.entries[i]? = some (pool.servers[i], pointer) := by
        rw [entries, List.getElem?_zip_eq_some]
        exact ⟨List.getElem?_eq_getElem hlt', hget ▸ List.getElem?_eq_getElem hlt⟩
      exact List.mem_of_getElem? hzip
    refine ⟨_, hentry, ?_⟩
    rcases hremoves : pool.removes (pool.servers[i], pointer) with _ | _
    · rfl
    · exact absurd ((hremoved pointer).mpr ⟨_, hentry, hremoves, rfl⟩) hmem

/-- A filter does not move what is in front of everything that it removes. -/
theorem getElem?_filter {α : Type} {p : α → Bool} (list : List α) :
    ∀ {i : Nat}, (∀ j ≤ i, ∀ a, list[j]? = some a → p a = true) →
      (list.filter p)[i]? = list[i]? := by
  induction list with
  | nil => exact fun _ => rfl
  | cons a list ih =>
    intro i h
    have ha : p a = true := h 0 (Nat.zero_le i) a rfl
    rw [List.filter_cons_of_pos ha]
    cases i with
    | zero => rfl
    | succ i =>
      rw [List.getElem?_cons_succ, List.getElem?_cons_succ]
      exact ih fun j hj b hb => h (j + 1) (Nat.succ_le_succ hj) b (by simpa using hb)

/-- Whether a refresh takes away the server at an index: the table is expired,
the new one does not have the server, and its direct pool has no connection in
use. -/
def evicts (mode : BoltAccessMode) (now : Int) (discovery : Option Announcement)
    (pool : BoltRoutingPool) (index : Nat) : Bool :=
  pool.routing_table.isExpired mode now && discovery.any fun announcement =>
    pool.entries[index]?.any
      { pool with routing_table := pool.routing_table.install announcement now }.removes

/-- A refresh does not move a server that is in front of everything that it
takes away. -/
theorem refresh_cases {mode : BoltAccessMode} {now : Int} {discovery : Option Announcement}
    {status : Int} (hs : Consistent pool)
    (h : pool.refresh mode now discovery = some (status, pool')) :
    Consistent pool' ∧ ∀ i, (∀ j ≤ i, pool.evicts mode now discovery j = false) →
      pool'.servers[i]? = pool.servers[i]? := by
  unfold refresh at h
  split_ifs at h with hexpired
  · cases discovery with
    | none =>
      simp only [updateRoutingTable] at h
      obtain ⟨-, rfl⟩ := Prod.mk.inj (Option.some.inj h)
      exact ⟨hs, fun _ _ => rfl⟩
    | some announcement =>
      simp only [updateRoutingTable, if_true] at h
      obtain ⟨cleaned, hcleanup, hresult⟩ := Option.map_eq_some_iff.mp h
      obtain ⟨-, rfl⟩ := Prod.mk.inj hresult
      have hinstalled : Consistent { pool with
          routing_table := pool.routing_table.install announcement now } := hs
      refine ⟨consistent_cleanup hinstalled hcleanup, fun i hkeeps => ?_⟩
      obtain ⟨allocated, rfl, -⟩ := cleanup_cases hinstalled hcleanup
      dsimp only
      rw [List.getElem?_map, getElem?_filter, ← List.getElem?_map]
      · show (pool.entries.map Prod.fst)[i]? = pool.servers[i]?
        rw [entries, List.map_fst_zip (Nat.le_of_eq (Directory.length hs))]
      · intro j hj entry hentry
        have hkept := hkeeps j hj
        rw [evicts, hexpired] at hkept
        change pool.entries[j]? = some entry at hentry
        simpa [hentry] using hkept
  · obtain ⟨-, rfl⟩ := Prod.mk.inj (Option.some.inj h)
    exact ⟨hs, fun _ _ => rfl⟩

end BoltRoutingPool

end Seabolt
