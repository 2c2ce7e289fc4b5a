import Seabolt.Forgetting
import Seabolt.PoolCalls

/-!
# The tenants of a routing pool

Who holds which connections of a routing pool, seen from each of its direct
pools.  A direct pool is shared by the threads that hold its connections, and
its books are kept as those of any shared direct pool (`Sharing.Owned`).

From this follows what a cleanup destroys: a direct pool with a connection that
is handed out counts it, and so it stays.
-/

namespace Seabolt

/-- An operation that `connection.h` gives to users.  The others are private to
the library. -/
def Operation.Public : Operation → Prop
  | .request _ | .send | .fetch _ | .fetchSummary _ => True
  | .openAt _ | .init .. | .reset | .close => False

instance : ∀ operation : Operation, Decidable operation.Public
  | .request _ | .send | .fetch _ | .fetchSummary _ => .isTrue trivial
  | .openAt _ | .init .. | .reset | .close => .isFalse fun h => h

namespace BoltConnection

variable {connection connection' : BoltConnection} {result : Int}

/-- No public operation opens or closes a connection. -/
theorem sameLife_perform {operation : Operation} (hpublic : operation.Public)
    (h : perform operation connection = some (result, connection')) :
    SameLife connection connection' := by
  cases operation with
  | openAt target => exact hpublic.elim
  | init user_agent auth_token => exact hpublic.elim
  | reset => exact hpublic.elim
  | close => exact hpublic.elim
  | request request => exact sameLife_request h
  | send =>
    simp only [perform] at h
    split_ifs at h
    have hsent := sameLife_send connection
    rwa [Option.some.inj h] at hsent
  | fetch request =>
    simp only [perform, fetch_eq] at h
    obtain ⟨⟨fetched, connection1⟩, hfetch, hresult⟩ := Option.map_eq_some_iff.mp h
    have hreported := sameLife_reported fetched connection1
    dsimp only at hresult
    rw [hresult] at hreported
    exact (sameLife_protocolFetch hfetch).trans hreported
  | fetchSummary request => exact sameLife_fetchSummary h

end BoltConnection

/-- Users call public operations only, and the id that `BoltConnection_open`
prints for a connection is not empty. -/
def RoutingTurn.Proper {τ : Type} : RoutingTurn τ → Prop
  | .acquire _ surroundings => surroundings.target.id ≠ []
  | .use _ _ operation => operation.Public
  | _ => True

instance {τ : Type} : ∀ turn : RoutingTurn τ, Decidable turn.Proper
  | .acquire _ surroundings => inferInstanceAs (Decidable (surroundings.target.id ≠ []))
  | .use _ _ operation => inferInstanceAs (Decidable operation.Public)
  | .call .. | .check .. | .refresh .. | .add .. | .recheck _ | .timeout _ | .release ..
  | .forgetServer .. | .forgetWriter .. | .assign .. => .isTrue trivial

namespace BoltRoutingPool

variable {τ : Type}

/-- Who holds which connections of the direct pool that a pointer points to. -/
def heldFrom (pointer : Nat) (held : List (τ × Handle)) : List (τ × Nat) :=
  held.filterMap fun holding =>
    if holding.2.pool = pointer then some (holding.1, holding.2.index) else none

/-- The direct pools keep their books, and what is held is of a direct pool that
is there. -/
structure Tenanted (pool : BoltRoutingPool) (held : List (τ × Handle)) : Prop where
  consistent : pool.Consistent
  owned : ∀ pointer server, pool.allocated.read pointer = some server →
    Sharing.Owned ⟨server.pool, [], heldFrom pointer held⟩
  housed : ∀ holding ∈ held, ∃ server, pool.allocated.read holding.2.pool = some server
  kept : ∀ pointer server, pool.allocated.read pointer = some server →
    server.pool.All BoltConnection.Kept

variable {pool pool' : BoltRoutingPool} {held held' : List (τ × Handle)} {pointer index : Nat}
  {server : ServerPool} {direct : BoltDirectPool} {thread : τ} {handle : Handle}

theorem mem_heldFrom {holding : τ × Nat} :
    holding ∈ heldFrom pointer held ↔ (holding.1, (⟨pointer, holding.2⟩ : Handle)) ∈ held := by
  simp only [heldFrom, List.mem_filterMap]
  constructor
  · rintro ⟨⟨thread, handle⟩, hmem, heq⟩
    split_ifs at heq with hpool
    obtain rfl := Option.some.inj heq
    subst hpool
    exact hmem
  · intro hmem
    exact ⟨_, hmem, if_pos rfl⟩

theorem tenanted_create (user_agent : List UInt8) (life_time acquisition_time : Int)
    (auth_token : BoltValue) (max_pool_size : Nat) :
    Tenanted (create user_agent life_time acquisition_time auth_token max_pool_size)
      ([] : List (τ × Handle)) where
  consistent := consistent_create _ _ _ _ _
  owned := by simp [create, Heap.read]
  housed := by simp
  kept := by simp [create, Heap.read]

/-- The table and the offsets are no business of the direct pools. -/
theorem Tenanted.congr (h : Tenanted pool held) (hallocated : pool'.allocated = pool.allocated)
    (hservers : pool'.servers = pool.servers) (hpools : pool'.server_pools = pool.server_pools) :
    Tenanted pool' held where
  consistent := by
    unfold Consistent
    rw [hallocated, hservers, hpools]
    exact h.consistent
  owned := by
    rw [hallocated]
    exact h.owned
  housed := by
    rw [hallocated]
    exact h.housed
  kept := by
    rw [hallocated]
    exact h.kept

/-- Work on one direct pool. -/
theorem Tenanted.write (h : Tenanted pool held) (hread : pool.allocated.read pointer = some server)
    (howned : Sharing.Owned ⟨direct, [], heldFrom pointer held'⟩)
    (hkept : direct.All BoltConnection.Kept)
    (hothers : ∀ other ≠ pointer, heldFrom other held' = heldFrom other held)
    (hhoused : ∀ holding ∈ held', holding.2.pool = pointer ∨ holding ∈ held) :
    Tenanted { pool with
      allocated := pool.allocated.write pointer { server with pool := direct } } held' := by
  have hself : (pool.allocated.write pointer { server with pool := direct }).read pointer =
      some { server with pool := direct } := Heap.read_write_self (Heap.lt_of_read hread)
  refine ⟨?_, ?_, ?_, ?_⟩
  · have hworks : pool.Works { pool with
        allocated := pool.allocated.write pointer { server with pool := direct } } := by
      refine ⟨rfl, rfl, fun other => ?_⟩
      dsimp only
      by_cases heq : pointer = other
      · subst heq
        rw [hself, hread]
        rfl
      · rw [Heap.read_write_ne heq]
    exact hworks.consistent h.consistent
  · intro other object hobject
    dsimp only at hobject
    by_cases heq : pointer = other
    · subst heq
      rw [hself] at hobject
      obtain rfl := Option.some.inj hobject
      exact howned
    · rw [Heap.read_write_ne heq] at hobject
      rw [hothers other (Ne.symm heq)]
      exact h.owned other object hobject
  · intro holding hmem
    dsimp only
    by_cases heq : pointer = holding.2.pool
    · rw [← heq, hself]
      exact ⟨_, rfl⟩
    · rw [Heap.read_write_ne heq]
      rcases hhoused holding hmem with hpool | hold
      · exact absurd hpool.symm heq
      · exact h.housed holding hold
  · intro other object hobject
    dsimp only at hobject
    by_cases heq : pointer = other
    · subst heq
      rw [hself] at hobject
      obtain rfl := Option.some.inj hobject
      exact hkept
    · rw [Heap.read_write_ne heq] at hobject
      exact h.kept other object hobject

/-- A thread works on a connection that it holds. -/
theorem Tenanted.onHandle (h : Tenanted pool held) {work : BoltConnection → Outcome BoltConnection}
    {result : Int} (hheld : (thread, handle) ∈ held)
    (hwork : ∀ connection connection', connection.agent = true → connection.Kept →
      work connection = some (result, connection') →
      connection'.agent = true ∧ connection'.Kept)
    (hdone : pool.onHandle handle work = some (result, pool')) : Tenanted pool' held := by
  obtain ⟨server, direct, hread, hdirect, rfl⟩ := onServerPool_cases hdone
  obtain ⟨c, c', hentry, hworked, rfl⟩ := BoltDirectPool.onConnection_cases hdirect
  have howned := h.owned handle.pool server hread
  have hagent : c.agent = true := by
    have hmem : (thread, handle.index) ∈ heldFrom handle.pool held := mem_heldFrom.mpr hheld
    have hlent := howned.leases.lent handle.index (List.mem_map_of_mem hmem)
    rw [BoltDirectPool.agents, List.getElem?_map, hentry] at hlent
    exact Option.some.inj hlent
  have hkept := h.kept handle.pool server hread
  obtain ⟨hagent', hkept'⟩ := hwork c c' hagent (hkept c (List.mem_of_getElem? hentry)) hworked
  refine h.write hread ?_ (hkept.set hkept') (fun _ _ => rfl) fun _ hmem => .inr hmem
  have hagents := BoltDirectPool.agents_set hentry (hagent'.trans hagent.symm)
  refine ⟨?_, howned.counted, ?_⟩
  · show Leases.Sound (List.map _ _) _
    rw [hagents]
    exact howned.leases
  · show server.pool.max_size = ((List.map _ _).length : Int)
    rw [hagents]
    exact howned.size

/-! ## Handing out and taking back -/

theorem heldFrom_cons_self (thread : τ) (handle : Handle) (held : List (τ × Handle)) :
    heldFrom handle.pool ((thread, handle) :: held) =
      (thread, handle.index) :: heldFrom handle.pool held := by
  simp [heldFrom]

theorem heldFrom_cons_ne (hne : handle.pool ≠ pointer) :
    heldFrom pointer ((thread, handle) :: held) = heldFrom pointer held := by
  simp [heldFrom, hne]

theorem heldFrom_erase_self [DecidableEq τ] (hheld : (thread, handle) ∈ held) :
    heldFrom handle.pool (held.erase (thread, handle)) =
      (heldFrom handle.pool held).erase (thread, handle.index) := by
  induction held with
  | nil => cases hheld
  | cons first held ih =>
    obtain ⟨other, ⟨pool, index⟩⟩ := first
    by_cases heq : (other, (⟨pool, index⟩ : Handle)) = (thread, handle)
    · obtain ⟨rfl, rfl⟩ := Prod.mk.inj heq
      rw [List.erase_cons_head, heldFrom_cons_self, List.erase_cons_head]
    · have hmem := (List.mem_cons.mp hheld).resolve_left (Ne.symm heq)
      rw [List.erase_cons_tail (by simpa using heq)]
      by_cases hpool : pool = handle.pool
      · subst hpool
        have hne : (other, index) ≠ (thread, handle.index) := by
          rintro hsame
          obtain ⟨rfl, rfl⟩ := Prod.mk.inj hsame
          exact heq rfl
        have hcons : ∀ list : List (τ × Handle),
            heldFrom handle.pool ((other, (⟨handle.pool, index⟩ : Handle)) :: list) =
              (other, index) :: heldFrom handle.pool list :=
          heldFrom_cons_self other ⟨handle.pool, index⟩
        rw [hcons, hcons, List.erase_cons_tail (by simpa using hne), ih hmem]
      · have hne : (⟨pool, index⟩ : Handle).pool ≠ handle.pool := hpool
        rw [heldFrom_cons_ne hne, heldFrom_cons_ne hne, ih hmem]

theorem heldFrom_erase_ne [DecidableEq τ] (hne : handle.pool ≠ pointer) :
    heldFrom pointer (held.erase (thread, handle)) = heldFrom pointer held := by
  induction held with
  | nil => rfl
  | cons first held ih =>
    by_cases heq : first = (thread, handle)
    · subst heq
      rw [List.erase_cons_head, heldFrom_cons_ne hne]
    · rw [List.erase_cons_tail (by simpa using heq)]
      simp only [heldFrom, List.filterMap_cons] at ih ⊢
      rw [ih]

/-- A section of an acquisition that hands out a connection, or none. -/
theorem Tenanted.acquireFrom [DecidableEq τ] (h : Tenanted pool held) {surroundings : Surroundings}
    {routed : Routed} (thread : τ) (htarget : surroundings.target.id ≠ [])
    (hacquire : pool.acquireFrom index surroundings = some (routed, pool')) :
    Tenanted pool' (match routed with
      | .returned (some connection) _ => (thread, connection) :: held
      | _ => held) := by
  obtain ⟨pointer, -, hacquire⟩ := Option.bind_eq_some_iff.mp hacquire
  obtain ⟨server, direct, hread, hdirect, rfl⟩ := onServerPool_cases hacquire
  obtain ⟨⟨acquired, direct1⟩, hacquired, hresult⟩ := Option.bind_eq_some_iff.mp hdirect
  have howned := (@Sharing.exclusive_acquire τ _ _ thread direct1 (.acquire thread surroundings)
    surroundings acquired (h.owned pointer server hread) hacquired).2
  have hkept := BoltDirectPool.acquire_kept htarget (h.kept pointer server hread) hacquired
  have hnone : Sharing.Owned ⟨direct1, [], heldFrom pointer held⟩ →
      Tenanted { pool with
        allocated := pool.allocated.write pointer { server with pool := direct1 } } held :=
    fun hsame => h.write hread hsame hkept (fun _ _ => rfl) fun _ hmem => .inr hmem
  rcases acquired with ⟨_ | i, status⟩ | _
  · obtain ⟨rfl, rfl⟩ := Prod.mk.inj (Option.some.inj hresult)
    exact hnone ⟨howned.leases, howned.counted, howned.size⟩
  · obtain ⟨⟨done, direct2⟩, hset, hresult⟩ := Option.map_eq_some_iff.mp hresult
    obtain ⟨rfl, rfl⟩ := Prod.mk.inj hresult
    obtain ⟨c, c', hentry, hassigned, rfl⟩ := BoltDirectPool.onConnection_cases hset
    obtain ⟨-, rfl⟩ := Prod.mk.inj (Option.some.inj hassigned)
    have hused := Sharing.owned_use (fun connection connection' hwork => by
      rw [← (Prod.mk.inj (Option.some.inj hwork)).2]) howned hset
    have hagent : c.agent = true := by
      have hlent := howned.leases.lent i List.mem_cons_self
      change direct1.agents[i]? = some true at hlent
      rw [BoltDirectPool.agents, List.getElem?_map, hentry] at hlent
      exact Option.some.inj hlent
    have hc := hkept c (List.mem_of_getElem? hentry)
    refine h.write hread ?_ (hkept.set ?_) ?_ ?_
    · have hcons := heldFrom_cons_self thread ⟨pointer, i⟩ held
      dsimp only at hcons ⊢
      rw [hcons]
      exact ⟨hused.leases, hused.counted, hused.size⟩
    · refine ⟨⟨hc.named.named, hc.named.ready, hc.named.closed⟩, hc.addressed, ?_,
        hc.tidy.shaped.of_eq rfl rfl, ?_⟩
      · intro hfree
        rw [hagent] at hfree
        cases hfree
      · intro hfree
        rw [hagent] at hfree
        cases hfree
    · intro other hother
      exact heldFrom_cons_ne (Ne.symm hother)
    · intro holding hmem
      rcases List.mem_cons.mp hmem with rfl | hold
      · exact .inl rfl
      · exact .inr hold
  · obtain ⟨rfl, rfl⟩ := Prod.mk.inj (Option.some.inj hresult)
    exact hnone ⟨howned.leases, howned.counted, howned.size⟩

/-! ## Finding the pool of a connection -/

/-- A direct pool that is there is the one of its server. -/
theorem entry_of_read (hs : Consistent pool) (hread : pool.allocated.read pointer = some server) :
    ∃ i : Nat, pool.servers[i]? = some server.address ∧ pool.server_pools[i]? = some pointer := by
  obtain ⟨i, hlt, hget⟩ := List.getElem_of_mem (Directory.listed hs pointer server hread)
  have hlt' : i < pool.servers.length := by rwa [Directory.length hs]
  have hpointer : pool.server_pools[i]? = some pointer := by
    rw [List.getElem?_eq_getElem hlt, hget]
  obtain ⟨pointer', entry, hpointer', hread', haddress⟩ :=
    Directory.object_at hs (List.getElem?_eq_getElem hlt')
  rw [hpointer, Option.some.injEq] at hpointer'
  subst hpointer'
  rw [hread, Option.some.injEq] at hread'
  subst hread'
  exact ⟨i, by rw [List.getElem?_eq_getElem hlt', haddress], hpointer⟩

/-- `BoltRoutingPool_release` finds the direct pool that a connection is of. -/
def Finds (handle : Handle) (pool : BoltRoutingPool) : Prop :=
  ∃ (server : BoltAddress) (index : Nat), pool.addressOf handle = some (some server) ∧
    pool.findServer (some server) = some (some index) ∧
    pool.server_pools[index]? = some handle.pool

/-- What is held is in use. -/
theorem Tenanted.inUse (h : Tenanted pool held) (hheld : (thread, handle) ∈ held) :
    ∃ server connection, pool.allocated.read handle.pool = some server ∧
      server.pool.connections[handle.index]? = some connection ∧ connection.agent = true ∧
      connection.Kept := by
  obtain ⟨server, hread⟩ := h.housed _ hheld
  have hmem : (thread, handle.index) ∈ heldFrom handle.pool held := mem_heldFrom.mpr hheld
  have hlent := (h.owned _ _ hread).leases.lent handle.index (List.mem_map_of_mem hmem)
  rw [BoltDirectPool.agents, List.getElem?_map] at hlent
  obtain ⟨connection, hentry, hagent⟩ := Option.map_eq_some_iff.mp hlent
  exact ⟨server, connection, hread, hentry, hagent,
    h.kept _ _ hread connection (List.mem_of_getElem? hentry)⟩

theorem Tenanted.finds (h : Tenanted pool held) (hheld : (thread, handle) ∈ held) :
    Finds handle pool := by
  obtain ⟨server, connection, hread, hentry, hagent, hkept⟩ := h.inUse hheld
  obtain ⟨i, hserver, hpointer⟩ := entry_of_read h.consistent hread
  have haddress : pool.addressOf handle = some (some server.address) := by
    unfold addressOf
    rw [hread, Option.bind_some, hentry, Option.map_some, if_neg (hkept.addressed hagent)]
  have hindex : BoltAddressSet.indexOf pool.servers server.address = some i := by
    rcases hfound : BoltAddressSet.indexOf pool.servers server.address with _ | j
    · exact absurd (List.mem_of_getElem? hserver) (BoltAddressSet.indexOf_eq_none.mp hfound)
    · have hother := BoltAddressSet.getElem?_of_indexOf hfound
      obtain ⟨hlt, hget⟩ := List.getElem?_eq_some_iff.mp hserver
      obtain ⟨hlt', hget'⟩ := List.getElem?_eq_some_iff.mp hother
      have hsame := (h.consistent.nodup.getElem_inj_iff).mp (hget'.trans hget.symm)
      rw [hsame]
  exact ⟨server.address, i, haddress, by rw [findServer, hindex], hpointer⟩

/-- The error callback of a connection is cleared before it is released. -/
theorem Tenanted.clearCallback (h : Tenanted pool held) (hheld : (thread, handle) ∈ held)
    {result : Int} (hclear : pool.onHandle handle (fun connection =>
      some (BOLT_SUCCESS, { connection with on_error_cb := false })) = some (result, pool')) :
    Tenanted pool' held := by
  refine h.onHandle hheld (fun c c' hagent hkept hwork => ?_) hclear
  obtain ⟨-, rfl⟩ := Prod.mk.inj (Option.some.inj hwork)
  refine ⟨hagent, ⟨hkept.named.named, hkept.named.ready, hkept.named.closed⟩, hkept.addressed,
    fun _ => rfl, hkept.tidy.shaped.of_eq rfl rfl, fun hfree => ?_⟩
  exact (hkept.tidy.blank hfree).of_eq rfl rfl

/-- A release gives the connection back to the direct pool that has issued it. -/
theorem Tenanted.release_cases (h : Tenanted pool held) {result : Int}
    (hheld : (thread, handle) ∈ held)
    (hrelease : pool.release (some handle) = some (result, pool')) :
    ∃ (server : ServerPool) (c : BoltConnection) (direct recycled : BoltDirectPool),
      pool.allocated.read handle.pool = some server ∧
      server.pool.connections[handle.index]? = some c ∧
      direct = { server.pool with connections :=
        server.pool.connections.set handle.index { c with on_error_cb := false } } ∧
      Tenanted { pool with
        allocated := pool.allocated.write handle.pool { server with pool := direct } } held ∧
      direct.recycle handle.index = some recycled ∧ result = handle.index ∧
      pool' = { pool with
        allocated := pool.allocated.write handle.pool { server with
          pool := { recycled with in_use_count := recycled.in_use_count - 1 } } } := by
  obtain ⟨⟨cleared, pool1⟩, hclear, hrelease⟩ := Option.bind_eq_some_iff.mp hrelease
  have hpool1 := h.clearCallback hheld hclear
  obtain ⟨server, direct, hread, hwork, rfl⟩ := onServerPool_cases hclear
  obtain ⟨c, c', hentry, hassigned, rfl⟩ := BoltDirectPool.onConnection_cases hwork
  obtain ⟨-, rfl⟩ := Prod.mk.inj (Option.some.inj hassigned)
  obtain ⟨address, i, haddress, hfind, hpointer⟩ := hpool1.finds hheld
  dsimp only at hrelease
  rw [haddress, Option.bind_some, hfind, Option.bind_some] at hrelease
  dsimp only at hrelease hpointer
  rw [hpointer, Option.bind_some] at hrelease
  obtain ⟨entry, direct, hread', hdirect, rfl⟩ := onServerPool_cases hrelease
  dsimp only at hread'
  rw [Heap.read_write_self (Heap.lt_of_read hread)] at hread'
  obtain rfl := Option.some.inj hread'
  rw [if_pos rfl] at hdirect
  obtain ⟨hlt, -⟩ := List.getElem?_eq_some_iff.mp hentry
  have hfound : BoltDirectPool.findConnection (some handle.index) { server.pool with
      connections := server.pool.connections.set handle.index { c with on_error_cb := false } } =
        some handle.index := by
    simp [BoltDirectPool.findConnection, hlt]
  unfold BoltDirectPool.release at hdirect
  rw [hfound] at hdirect
  obtain ⟨recycled, hrecycle, hresult⟩ := Option.map_eq_some_iff.mp hdirect
  obtain ⟨rfl, rfl⟩ := Prod.mk.inj hresult
  refine ⟨server, c, _, recycled, hread, hentry, rfl, hpool1, hrecycle, rfl, ?_⟩
  simp only [Heap.write, List.set_set]

theorem Tenanted.release [DecidableEq τ] (h : Tenanted pool held) {result : Int}
    (hheld : (thread, handle) ∈ held)
    (hrelease : pool.release (some handle) = some (result, pool')) :
    Tenanted pool' (held.erase (thread, handle)) ∧ result = handle.index := by
  obtain ⟨server, c, direct, recycled, hread, hentry, hdirect, hcleared, hrecycle, rfl, rfl⟩ :=
    h.release_cases hheld hrelease
  have hself : (pool.allocated.write handle.pool { server with pool := direct }).read handle.pool =
      some { server with pool := direct } := Heap.read_write_self (Heap.lt_of_read hread)
  have hmem : (thread, handle.index) ∈ heldFrom handle.pool held := mem_heldFrom.mpr hheld
  have hindex : direct.findConnection (some handle.index) = some handle.index :=
    (hcleared.owned _ _ hself).findConnection hmem
  have howned := Sharing.owned_release (hcleared.owned _ _ hself) hmem (by
    unfold BoltDirectPool.release
    rw [hindex]
    exact Option.map_eq_some_iff.mpr ⟨recycled, hrecycle, rfl⟩)
  have hsilent : ∀ connection, direct.connections[handle.index]? = some connection →
      connection.on_error_cb = false := by
    obtain ⟨hlt, -⟩ := List.getElem?_eq_some_iff.mp hentry
    intro connection hconnection
    rw [hdirect] at hconnection
    dsimp only at hconnection
    rw [List.getElem?_set_self hlt] at hconnection
    rw [← Option.some.inj hconnection]
  have hkept := BoltDirectPool.recycle_kept (hcleared.kept _ _ hself) hsilent hrecycle
  refine ⟨h.write hread ?_ hkept ?_ ?_, rfl⟩
  · rw [heldFrom_erase_self hheld]
    exact ⟨howned.leases, howned.counted, howned.size⟩
  · intro other hother
    exact heldFrom_erase_ne (Ne.symm hother)
  · intro holding hleft
    exact .inr (List.mem_of_mem_erase hleft)

/-! ## What a cleanup destroys -/

/-- The server of a direct pool is in none of the sets of the table, and none of
its connections is in use. -/
def Abandoned (table : RoutingTable) (server : ServerPool) : Prop :=
  table.Forgotten server.address ∧ server.pool.in_use_count = 0

instance {table : RoutingTable} {server : ServerPool} : Decidable (Abandoned table server) :=
  inferInstanceAs (Decidable (table.Forgotten server.address ∧ server.pool.in_use_count = 0))

theorem mem_activeServers {address : BoltAddress} {table : RoutingTable} :
    address ∈ table.activeServers ↔ ¬table.Forgotten address := by
  unfold RoutingTable.activeServers RoutingTable.Forgotten
  rw [BoltAddressSet.mem_addAll, BoltAddressSet.mem_addAll, BoltAddressSet.mem_addAll]
  simp only [List.not_mem_nil, false_or]
  tauto

theorem removes_iff {entry : BoltAddress × Nat}
    (hread : pool.allocated.read entry.2 = some server) (haddress : entry.1 = server.address) :
    pool.removes entry = true ↔ Abandoned pool.routing_table server := by
  unfold removes isUnused Abandoned
  rw [haddress, hread]
  by_cases hactive : server.address ∈ pool.routing_table.activeServers
  · have hsome : (BoltAddressSet.indexOf pool.routing_table.activeServers server.address).isSome := by
      rw [← Option.ne_none_iff_isSome]
      exact fun hnone => BoltAddressSet.indexOf_eq_none.mp hnone hactive
    rw [if_pos hsome]
    simp [mem_activeServers.mp hactive]
  · rw [BoltAddressSet.indexOf_eq_none.mpr hactive]
    have hforgotten : pool.routing_table.Forgotten server.address := by
      by_contra hnot
      exact hactive (mem_activeServers.mpr hnot)
    simp [hforgotten]

/-- A cleanup destroys exactly the direct pools that are abandoned, and leaves
the others as they are. -/
theorem read_cleanup (hs : Consistent pool) (hread : pool.allocated.read pointer = some server)
    (h : pool.cleanup = some pool') :
    pool'.allocated.read pointer =
      if Abandoned pool.routing_table server then none else some server := by
  obtain ⟨i, hserver, hpointer⟩ := entry_of_read hs hread
  have hentry : (server.address, pointer) ∈ pool.entries := by
    apply @List.mem_of_getElem? _ _ i
    rw [entries, List.getElem?_zip_eq_some]
    exact ⟨hserver, hpointer⟩
  have hremoves : pool.removes (server.address, pointer) = true ↔ _ := removes_iff hread rfl
  obtain ⟨allocated, rfl, hallocated⟩ := cleanup_cases hs h
  have hmem : pointer ∈ (pool.entries.filter pool.removes).map Prod.snd ↔
      Abandoned pool.routing_table server := by
    rw [← hremoves, List.mem_map]
    constructor
    · rintro ⟨entry, hremoved, hsame⟩
      obtain ⟨hentry', hremoved⟩ := List.mem_filter.mp hremoved
      rwa [entry_unique hs hentry' hentry hsame] at hremoved
    · intro hremoved
      exact ⟨_, List.mem_filter.mpr ⟨hentry, hremoved⟩, rfl⟩
  dsimp only
  rw [hallocated, hread]
  simp only [hmem]

/-- A direct pool with a connection that is handed out is not abandoned. -/
theorem Tenanted.not_abandoned (h : Tenanted pool held) {table : RoutingTable}
    (hheld : (thread, handle) ∈ held) (hread : pool.allocated.read handle.pool = some server) :
    ¬Abandoned table server := by
  rintro ⟨-, hcount⟩
  have hmem : (thread, handle.index) ∈ heldFrom handle.pool held := mem_heldFrom.mpr hheld
  have hcounted := (h.owned _ _ hread).counted
  dsimp only at hcounted
  rw [hcount] at hcounted
  have hpos := List.length_pos_of_mem hmem
  omega

theorem Tenanted.cleanup (h : Tenanted pool held) (hcleanup : pool.cleanup = some pool') :
    Tenanted pool' held := by
  have hkeeps : ∀ pointer server, pool'.allocated.read pointer = some server →
      pool.allocated.read pointer = some server := by
    intro pointer server hread
    obtain ⟨allocated, rfl, hallocated⟩ := cleanup_cases h.consistent hcleanup
    dsimp only at hread
    rw [hallocated] at hread
    split_ifs at hread
    exact hread
  refine ⟨consistent_cleanup h.consistent hcleanup, ?_, ?_, ?_⟩
  · exact fun pointer server hread => h.owned pointer server (hkeeps pointer server hread)
  · rintro ⟨thread, handle⟩ hheld
    obtain ⟨server, hread⟩ := h.housed _ hheld
    refine ⟨server, ?_⟩
    rw [read_cleanup h.consistent hread hcleanup, if_neg (h.not_abandoned hheld hread)]
  · exact fun pointer server hread => h.kept pointer server (hkeeps pointer server hread)

theorem Tenanted.addServer (h : Tenanted pool held) (address : BoltAddress) :
    Tenanted (pool.addServer address).2 held := by
  have hconsistent := (addServer_cases address h.consistent).1
  unfold BoltRoutingPool.addServer at hconsistent ⊢
  split at hconsistent
  · exact h
  · next hindex =>
    rw [BoltAddressSet.add_of_not_mem (BoltAddressSet.indexOf_eq_none.mp hindex)] at hconsistent ⊢
    have hnobody : heldFrom pool.allocated.length held = [] := by
      rw [List.eq_nil_iff_forall_not_mem]
      intro holding hmem
      obtain ⟨server, hread⟩ := h.housed _ (mem_heldFrom.mp hmem)
      exact absurd (Heap.lt_of_read hread) (Nat.lt_irrefl _)
    refine ⟨hconsistent, ?_, ?_, ?_⟩
    · intro pointer server hread
      rcases Heap.read_alloc_cases hread with rfl | hold
      · change (pool.allocated.alloc _).read _ = _ at hread
        rw [Heap.read_alloc_self] at hread
        obtain rfl := Option.some.inj hread
        rw [hnobody]
        exact Sharing.owned_create _ _ _ _ _
      · exact h.owned pointer server hold
    · intro holding hmem
      obtain ⟨server, hread⟩ := h.housed holding hmem
      exact ⟨server, Heap.read_alloc hread⟩
    · intro pointer server hread
      rcases Heap.read_alloc_cases hread with rfl | hold
      · change (pool.allocated.alloc _).read _ = _ at hread
        rw [Heap.read_alloc_self] at hread
        obtain rfl := Option.some.inj hread
        exact BoltDirectPool.kept_create _ _ _ _ _
      · exact h.kept pointer server hold

theorem Tenanted.refresh (h : Tenanted pool held) {mode : BoltAccessMode} {now : Int}
    {discovery : Option Announcement} {status : Int}
    (hrefresh : pool.refresh mode now discovery = some (status, pool')) : Tenanted pool' held := by
  unfold BoltRoutingPool.refresh at hrefresh
  split_ifs at hrefresh
  · cases discovery with
    | none =>
      simp only [updateRoutingTable] at hrefresh
      obtain ⟨-, rfl⟩ := Prod.mk.inj (Option.some.inj hrefresh)
      exact h
    | some announcement =>
      simp only [updateRoutingTable, if_true] at hrefresh
      obtain ⟨cleaned, hcleanup, hresult⟩ := Option.map_eq_some_iff.mp hrefresh
      obtain ⟨-, rfl⟩ := Prod.mk.inj hresult
      have hinstalled : Tenanted { pool with
          routing_table := pool.routing_table.install announcement now } held := h.congr rfl rfl rfl
      exact hinstalled.cleanup hcleanup
  · obtain ⟨-, rfl⟩ := Prod.mk.inj (Option.some.inj hrefresh)
    exact h

end BoltRoutingPool

namespace Routing

open BoltRoutingPool (Tenanted Finds Abandoned)

variable {τ : Type} [DecidableEq τ] {routing routing' : Routing τ} {report : Report}
  {thread : τ}

/-- A thread installs a new table in this turn, and cleans up after it. -/
def Installs : RoutingTurn τ → Routing τ → Prop
  | .refresh thread true now (some _), routing => ∃ mode status,
    routing.stages thread = .refreshing mode status ∧
      routing.pool.routing_table.isExpired mode now = true
  | _, _ => False

/-- What is destroyed in a turn, and what is not. -/
def Sweeps (turn : RoutingTurn τ) (routing routing' : Routing τ) : Prop :=
  ∀ pointer server, routing.pool.allocated.read pointer = some server →
    (routing'.pool.allocated.read pointer = none ↔
      Installs turn routing ∧ Abandoned routing'.pool.routing_table server) ∧
    (Installs turn routing → routing'.pool.allocated.read pointer ≠ none →
      routing'.pool.allocated.read pointer = some server)

/-- What is required of every turn. -/
structure Upheld (turn : RoutingTurn τ) (routing : Routing τ) (report : Report)
    (routing' : Routing τ) : Prop where
  /-- Every server has the direct pool that was created for it. -/
  consistent : routing'.pool.Consistent
  /-- A cleanup destroys what is abandoned. -/
  sweeps : Sweeps turn routing routing'
  /-- A release will find the direct pool of everything that is handed out. -/
  finds : ∀ holding ∈ routing'.held, Finds holding.2 routing'.pool
  /-- A release has found it. -/
  released : ∀ thread handle, turn = .release thread handle → report = .released handle.index

omit [DecidableEq τ] in
/-- A turn that installs no table destroys nothing if the direct pools are those
of before. -/
theorem sweeps_of_works {turn : RoutingTurn τ} (hinstalls : ¬Installs turn routing)
    (hworks : routing.pool.Works routing'.pool) : Sweeps turn routing routing' := by
  intro pointer server hread
  refine ⟨iff_of_false ?_ fun hsome => hinstalls hsome.1, fun hsome => absurd hsome hinstalls⟩
  intro hnone
  have haddress := hworks.addresses pointer
  rw [hread, hnone] at haddress
  cases haddress

/-- Who holds what when a thread has come to the end of a section of an
acquisition. -/
theorem held_acquired {server : BoltAddress} {status : BoltStatus} {index : Nat}
    {routed : BoltRoutingPool.Routed} {pool : BoltRoutingPool} :
    (routing.acquired thread server status index routed pool).2.held = (match routed with
      | .returned (some connection) _ => (thread, connection) :: routing.held
      | _ => routing.held) := by
  rcases routed with ⟨_ | connection, final⟩ | _ <;> rfl

theorem held_looked {mode : BoltAccessMode} {status : BoltStatus}
    {looked : BoltRoutingPool.Looked} {pool : BoltRoutingPool} :
    (routing.looked thread mode status looked pool).2.held = routing.held := by
  rcases looked with _ | result | ⟨server, _ | index⟩ <;> rfl

/-- The refresh of a table. -/
theorem sweeps_refresh {now : Int} {discovery : Option Announcement} {mode : BoltAccessMode}
    {status : BoltStatus} {result : Int} {pool : BoltRoutingPool} {stage : Stage}
    (hstage : routing.stages thread = .refreshing mode status) (hs : routing.pool.Consistent)
    (h : routing.pool.refresh mode now discovery = some (result, pool)) :
    Sweeps (.refresh thread true now discovery) routing (routing.goTo thread stage pool) := by
  have hsame : ¬Installs (.refresh thread true now discovery) routing → pool = routing.pool →
      Sweeps (.refresh thread true now discovery) routing (routing.goTo thread stage pool) := by
    rintro hinstalls rfl
    exact sweeps_of_works hinstalls (.refl _)
  unfold BoltRoutingPool.refresh at h
  split_ifs at h with hexpired
  · cases discovery with
    | none =>
      simp only [BoltRoutingPool.updateRoutingTable] at h
      obtain ⟨-, rfl⟩ := Prod.mk.inj (Option.some.inj h)
      exact hsame (fun hsome => hsome) rfl
    | some announcement =>
      simp only [BoltRoutingPool.updateRoutingTable, if_true] at h
      obtain ⟨cleaned, hcleanup, hresult⟩ := Option.map_eq_some_iff.mp h
      obtain ⟨-, rfl⟩ := Prod.mk.inj hresult
      have hinstalls : Installs (.refresh thread true now (some announcement)) routing :=
        ⟨mode, status, hstage, hexpired⟩
      intro pointer server hread
      have hinstalled : BoltRoutingPool.Consistent { routing.pool with
          routing_table := routing.pool.routing_table.install announcement now } := hs
      have hafter := BoltRoutingPool.read_cleanup hinstalled hread hcleanup
      obtain ⟨allocated, rfl, -⟩ := BoltRoutingPool.cleanup_cases hinstalled hcleanup
      unfold goTo
      dsimp only at hafter ⊢
      rw [hafter]
      by_cases habandoned : Abandoned (routing.pool.routing_table.install announcement now) server
      · simp [habandoned, hinstalls]
      · simp [habandoned]
  · obtain ⟨-, rfl⟩ := Prod.mk.inj (Option.some.inj h)
    refine hsame (fun hsome => ?_) rfl
    cases discovery with
    | none => exact hsome
    | some announcement =>
      obtain ⟨mode', status', hstage', hexpired'⟩ := hsome
      rw [hstage] at hstage'
      obtain ⟨rfl, -⟩ := Stage.refreshing.inj hstage'
      exact hexpired hexpired'

omit [DecidableEq τ] in
theorem upheld_of {turn : RoutingTurn τ} (h : Tenanted routing'.pool routing'.held)
    (hsweeps : Sweeps turn routing routing')
    (hreleased : ∀ thread handle, turn = .release thread handle →
      report = .released handle.index) : Upheld turn routing report routing' where
  consistent := h.consistent
  sweeps := hsweeps
  finds := fun _ hheld => h.finds hheld
  released := hreleased

/-- Every proper turn does what is required of it. -/
theorem upheld_take (turn : RoutingTurn τ) (h : Tenanted routing.pool routing.held)
    (hproper : turn.Proper) (htake : take turn routing = some (report, routing')) :
    Upheld turn routing report routing' ∧ Tenanted routing'.pool routing'.held := by
  have hrest : Tenanted routing'.pool routing'.held → ¬Installs turn routing →
      routing.pool.Works routing'.pool → (∀ thread handle, turn ≠ .release thread handle) →
      Upheld turn routing report routing' ∧ Tenanted routing'.pool routing'.held :=
    fun hkept hinstalls hworks hturn => ⟨upheld_of hkept (sweeps_of_works hinstalls hworks)
      fun thread handle hrelease => absurd hrelease (hturn thread handle), hkept⟩
  cases turn with
  | call thread mode status =>
    simp only [take] at htake
    split at htake
    · obtain ⟨-, rfl⟩ := Prod.mk.inj (Option.some.inj htake)
      exact hrest h (fun hsome => hsome) (.refl _) (by simp)
    · cases htake
  | check thread now =>
    simp only [take] at htake
    split at htake
    · obtain ⟨⟨looked, pool⟩, hlook, hresult⟩ := Option.map_eq_some_iff.mp htake
      obtain ⟨hallocated, hservers, hpools, -⟩ := BoltRoutingPool.look_cases hlook
      have hworks := BoltRoutingPool.look_works hlook
      have hpool : pool = routing'.pool := pool_looked.symm.trans (congrArg (·.2.pool) hresult)
      have hheld : routing.held = routing'.held :=
        held_looked.symm.trans (congrArg (·.2.held) hresult)
      apply hrest _ (fun hsome => hsome) _ (by simp)
      · rw [← hpool, ← hheld]
        exact h.congr hallocated hservers hpools
      · rwa [← hpool]
    · cases htake
  | refresh thread locked now discovery =>
    simp only [take] at htake
    split at htake
    · next mode status hstage =>
      split_ifs at htake with hlocked
      · obtain ⟨⟨result, pool⟩, hrefresh, hresult⟩ := Option.map_eq_some_iff.mp htake
        obtain ⟨-, rfl⟩ := Prod.mk.inj hresult
        subst hlocked
        have hkept : Tenanted pool routing.held := h.refresh hrefresh
        refine ⟨upheld_of hkept ?_ (by simp), hkept⟩
        exact sweeps_refresh hstage h.consistent hrefresh
      · obtain ⟨-, rfl⟩ := Prod.mk.inj (Option.some.inj htake)
        refine hrest h (fun hsome => ?_) (.refl _) (by simp)
        cases locked with
        | true => exact hlocked rfl
        | false => exact hsome
    · cases htake
  | add thread locked =>
    simp only [take] at htake
    split at htake
    · next server status hstage =>
      split_ifs at htake
      · obtain ⟨-, rfl⟩ := Prod.mk.inj (Option.some.inj htake)
        have hkept : Tenanted (routing.pool.addServer server).2 routing.held := h.addServer server
        refine ⟨upheld_of hkept ?_ (by simp), hkept⟩
        intro pointer object hread
        have hsame : (routing.pool.addServer server).2.allocated.read pointer = some object := by
          unfold BoltRoutingPool.addServer
          split
          · exact hread
          · exact Heap.read_alloc hread
        refine ⟨iff_of_false (fun hnone => ?_) fun hsome => hsome.1, fun hsome => hsome.elim⟩
        change (routing.pool.addServer server).2.allocated.read pointer = none at hnone
        rw [hsame] at hnone
        cases hnone
      · obtain ⟨-, rfl⟩ := Prod.mk.inj (Option.some.inj htake)
        exact hrest h (fun hsome => hsome) (.refl _) (by simp)
    · cases htake
  | recheck thread =>
    simp only [take] at htake
    split at htake
    · obtain ⟨-, rfl⟩ := Prod.mk.inj (Option.some.inj htake)
      exact hrest h (fun hsome => hsome) (.refl _) (by simp)
    · obtain ⟨-, rfl⟩ := Prod.mk.inj (Option.some.inj htake)
      exact hrest h (fun hsome => hsome) (.refl _) (by simp)
    · cases htake
  | acquire thread surroundings =>
    simp only [take] at htake
    split at htake
    · obtain ⟨⟨routed, pool⟩, hacquire, hresult⟩ := Option.map_eq_some_iff.mp htake
      have hkept := h.acquireFrom thread hproper hacquire
      have hworks := BoltRoutingPool.acquireFrom_works hacquire
      have hpool : pool = routing'.pool := pool_acquired.symm.trans (congrArg (·.2.pool) hresult)
      have hheld : _ = routing'.held := held_acquired.symm.trans (congrArg (·.2.held) hresult)
      apply hrest _ (fun hsome => hsome) _ (by simp)
      · rw [← hpool, ← hheld]
        exact hkept
      · rwa [← hpool]
    · cases htake
  | timeout thread =>
    simp only [take] at htake
    split at htake
    · obtain ⟨-, rfl⟩ := Prod.mk.inj (Option.some.inj htake)
      exact hrest h (fun hsome => hsome) (.refl _) (by simp)
    · cases htake
  | release thread connection =>
    simp only [take] at htake
    split_ifs at htake with hmay
    obtain ⟨⟨result, pool⟩, hrelease, hresult⟩ := Option.map_eq_some_iff.mp htake
    obtain ⟨rfl, rfl⟩ := Prod.mk.inj hresult
    obtain ⟨hkept, rfl⟩ := h.release hmay.2 hrelease
    refine ⟨upheld_of hkept ?_ ?_, hkept⟩
    · exact sweeps_of_works (fun hsome => hsome) (BoltRoutingPool.release_works hrelease)
    · intro other handle hturn
      obtain ⟨-, rfl⟩ := RoutingTurn.release.inj hturn
      rfl
  | forgetServer thread server =>
    simp only [take] at htake
    split_ifs at htake
    obtain ⟨-, rfl⟩ := Prod.mk.inj (Option.some.inj htake)
    exact hrest (h.congr rfl rfl rfl) (fun hsome => hsome) ⟨rfl, rfl, fun _ => rfl⟩ (by simp)
  | forgetWriter thread server =>
    simp only [take] at htake
    split_ifs at htake
    obtain ⟨-, rfl⟩ := Prod.mk.inj (Option.some.inj htake)
    exact hrest (h.congr rfl rfl rfl) (fun hsome => hsome) ⟨rfl, rfl, fun _ => rfl⟩ (by simp)
  | use thread connection operation =>
    simp only [take] at htake
    split_ifs at htake with hmay
    obtain ⟨⟨result, pool⟩, hwork, hresult⟩ := Option.map_eq_some_iff.mp htake
    obtain ⟨-, rfl⟩ := Prod.mk.inj hresult
    refine hrest ?_ (fun hsome => hsome) (BoltRoutingPool.onHandle_works hwork) (by simp)
    refine h.onHandle hmay.2 (fun c c' hagent hkept hperform => ?_) hwork
    have hsame := BoltConnection.sameLife_perform hproper hperform
    exact ⟨hsame.agent.trans hagent, hkept.sameLife hagent hsame (hkept.tidy.shaped.perform hperform)⟩
  | assign thread connection access_mode =>
    simp only [take] at htake
    split_ifs at htake with hmay
    obtain ⟨⟨result, pool⟩, hwork, hresult⟩ := Option.map_eq_some_iff.mp htake
    obtain ⟨-, rfl⟩ := Prod.mk.inj hresult
    refine hrest ?_ (fun hsome => hsome) (BoltRoutingPool.onHandle_works hwork) (by simp)
    refine h.onHandle hmay.2 (fun c c' hagent hkept hassign => ?_) hwork
    obtain ⟨-, rfl⟩ := Prod.mk.inj (Option.some.inj hassign)
    refine ⟨hagent, ⟨hkept.named.named, hkept.named.ready, hkept.named.closed⟩, hkept.addressed,
      hkept.silent, hkept.tidy.shaped.of_eq rfl rfl, fun hfree => ?_⟩
    exact (hkept.tidy.blank hfree).of_eq rfl rfl

/-- Whatever the threads do with a new pool, every server keeps the direct pool
that was created for it, a cleanup destroys the direct pools that are abandoned
and no others, and a connection that is handed out finds its way back. -/
theorem meets_upheld (user_agent : List UInt8) (life_time acquisition_time : Int)
    (auth_token : BoltValue) (max_pool_size : Nat) (turns : List (RoutingTurn τ))
    (reports : List Report) (routing : Routing τ) (hproper : ∀ turn ∈ turns, turn.Proper)
    (hrun : Runs.run take turns (start (BoltRoutingPool.create user_agent life_time
      acquisition_time auth_token max_pool_size)) = some (reports, routing)) :
    Runs.Meets take Upheld turns (start (BoltRoutingPool.create user_agent life_time
      acquisition_time auth_token max_pool_size)) := by
  have hstart : Tenanted (BoltRoutingPool.create user_agent life_time acquisition_time auth_token
      max_pool_size) ([] : List (τ × Handle)) := BoltRoutingPool.tenanted_create _ _ _ _ _
  have hstep : ∀ turn (s : Routing τ) report s', Tenanted s.pool s.held → turn.Proper →
      take turn s = some (report, s') → Upheld turn s report s' ∧ Tenanted s'.pool s'.held :=
    fun turn _ _ _ hs hturn htake => upheld_take turn hs hturn htake
  refine Runs.meets_of_run hstep turns hstart ?_ hrun
  exact Runs.admissible_of_mem turns (fun turn hturn _ => hproper turn hturn) _

/-- A thread reads from the server `s`.  The next table does not have the server
any more, but its direct pool stays until the connection has been released. -/
def outlivedByUse : List (RoutingTurn (Fin 2)) :=
  let before : Announcement := ⟨[serverNamed "s"], [], [serverNamed "r"], 1000⟩
  let after : Announcement := ⟨[], [serverNamed "t"], [serverNamed "r"], 1000⟩
  let target := BoltConnection.answering
    (frames ([[0xB1, 0x70, 0xA0], [0xB1, 0x70, 0xA0]].map chunksOf))
  let surroundings : Surroundings := ⟨0, 0, { target with id := ascii "conn-0" }⟩
  [.call 0 .read ⟨.disconnected, BOLT_SUCCESS⟩, .check 0 0, .refresh 0 true 0 (some before),
    .check 0 1, .add 0 true, .recheck 0, .acquire 0 surroundings,
    .call 1 .write ⟨.disconnected, BOLT_SUCCESS⟩, .check 1 2, .refresh 1 true 2 (some after),
    .release 0 ⟨0, 0⟩,
    .call 0 .read ⟨.disconnected, BOLT_SUCCESS⟩, .check 0 3, .refresh 0 true 3 (some after)]

theorem meets_upheld_outlivedByUse :
    Runs.Meets take Upheld outlivedByUse
      (start (BoltRoutingPool.create (ascii "agent") 0 0 (.dictionary []) 1)) := by
  have hrun : (Runs.run take outlivedByUse
      (start (BoltRoutingPool.create (ascii "agent") 0 0 (.dictionary []) 1))).isSome = true := by
    decide +kernel
  obtain ⟨⟨reports, routing⟩, hrun⟩ := Option.isSome_iff_exists.mp hrun
  exact meets_upheld _ _ _ _ _ outlivedByUse reports routing (by decide) hrun

end Routing

end Seabolt
