import Seabolt.Recycling
import Seabolt.NoPool
import Seabolt.ServerIndex

/-!
# Connectors

`connector.c`: one interface to the three kinds of pools.  The scheme of a
connector says which pool it has, and with it what a pointer to a connection
is, what the threads that share it can do, and what is recorded about the
connections that are out.
-/

namespace Seabolt

/-- `BoltScheme`. -/
inductive BoltScheme where
  | direct | neo4j | directUnpooled
  deriving DecidableEq

namespace BoltScheme

/-- The `pool_state` of a connector. -/
def Pool : BoltScheme → Type
  | direct => BoltDirectPool
  | neo4j => BoltRoutingPool
  | directUnpooled => BoltNoPool

/-- A pointer to a connection. -/
def Connection : BoltScheme → Type
  | direct => Nat
  | neo4j => Handle
  | directUnpooled => Nat

/-- The connection that a pointer points to. -/
def connectionAt : (scheme : BoltScheme) → scheme.Connection → scheme.Pool → Option BoltConnection
  | direct, (index : Nat), (pool : BoltDirectPool) => pool.connections[index]?
  | neo4j, (handle : Handle), (pool : BoltRoutingPool) =>
    (pool.allocated.read handle.pool).bind fun server => server.pool.connections[handle.index]?
  | directUnpooled, (pointer : Nat), (pool : BoltNoPool) => pool.allocated.read pointer

/-- Work on the connection that a pointer points to. -/
def onConnection : (scheme : BoltScheme) → scheme.Connection →
    (BoltConnection → Outcome BoltConnection) → scheme.Pool → Outcome scheme.Pool
  | direct => BoltDirectPool.onConnection
  | neo4j => BoltRoutingPool.onHandle
  | directUnpooled => BoltNoPool.onConnection

/-- Set the access mode of a connection that is not NULL. -/
def assign (scheme : BoltScheme) (mode : BoltAccessMode) (connection : Option scheme.Connection)
    (pool : scheme.Pool) : Option scheme.Pool :=
  match connection with
  | none => some pool
  | some connection => (scheme.onConnection connection (fun connection =>
      some (BOLT_SUCCESS, { connection with access_mode := mode })) pool).map Prod.snd

/-- The release of the pool of a scheme. -/
def release : (scheme : BoltScheme) → Option scheme.Connection → scheme.Pool → Outcome scheme.Pool
  | direct => BoltDirectPool.release
  | neo4j => BoltRoutingPool.release
  | directUnpooled => BoltNoPool.release

end BoltScheme

/-- `BoltConnector_release`, on the pool of the connector. -/
def BoltConnector.release (scheme : BoltScheme) (connection : Option scheme.Connection)
    (pool : scheme.Pool) : Option scheme.Pool :=
  (scheme.assign .write connection pool).bind fun pool =>
    (scheme.release connection pool).map Prod.snd

namespace BoltScheme

variable {τ : Type} [DecidableEq τ]

/-! ## Threads that share a connector -/

/-- The threads that share a pool. -/
def Threads (τ : Type) : BoltScheme → Type
  | direct => Sharing τ
  | neo4j => Routing τ
  | directUnpooled => Unpooled τ

/-- The pool that the threads share. -/
def pool : (scheme : BoltScheme) → scheme.Threads τ → scheme.Pool
  | direct => Sharing.pool
  | neo4j => Routing.pool
  | directUnpooled => Unpooled.pool

/-- The connections that are handed out. -/
def held : (scheme : BoltScheme) → scheme.Threads τ → List (τ × scheme.Connection)
  | direct => Sharing.held
  | neo4j => Routing.held
  | directUnpooled => Unpooled.held

/-- The threads have come here from a new pool. -/
def Reachable : (scheme : BoltScheme) → scheme.Threads τ → Prop
  | direct, (sharing : Sharing τ) => sharing.Reachable
  | neo4j, (routing : Routing τ) => routing.Reachable
  | directUnpooled, (threads : Unpooled τ) => threads.Reachable

/-! ## Spurious releases -/

/-- A pointer that is not to a connection that is handed out: NULL, or a
connection that has been released. -/
def Spurious (scheme : BoltScheme) (connection : Option scheme.Connection)
    (threads : scheme.Threads τ) : Prop :=
  ∀ pointer, connection = some pointer → pointer ∉ (scheme.held threads).map Prod.snd

end BoltScheme

/-- The agents, the count, the connections and their states are the same. -/
structure BoltDirectPool.Undisturbed (pool pool' : BoltDirectPool) : Prop where
  agents : pool'.agents = pool.agents
  in_use_count : pool'.in_use_count = pool.in_use_count
  states : (pool'.connections.map fun connection => connection.status.state) =
    pool.connections.map fun connection => connection.status.state

namespace BoltScheme

/-- What is recorded about the connections is the same, and so are their
states. -/
def Undisturbed : (scheme : BoltScheme) → scheme.Pool → scheme.Pool → Prop
  | direct, (pool : BoltDirectPool), (pool' : BoltDirectPool) => pool.Undisturbed pool'
  | neo4j, (pool : BoltRoutingPool), (pool' : BoltRoutingPool) =>
    pool'.servers = pool.servers ∧ pool'.server_pools = pool.server_pools ∧
      ∀ pointer, Option.Rel (fun server server' => server.pool.Undisturbed server'.pool)
        (pool.allocated.read pointer) (pool'.allocated.read pointer)
  | directUnpooled, (pool : BoltNoPool), (pool' : BoltNoPool) =>
    pool'.connections = pool.connections ∧ ∀ pointer,
      (pool'.allocated.read pointer).map (fun connection => connection.status.state) =
        (pool.allocated.read pointer).map fun connection => connection.status.state

/-- The release of a connector returns, and changes nothing that is recorded. -/
def Harmless (scheme : BoltScheme) (connection : Option scheme.Connection) (pool : scheme.Pool) :
    Prop :=
  ∃ pool', BoltConnector.release scheme connection pool = some pool' ∧
    scheme.Undisturbed pool pool'

end BoltScheme

/-- Every release counts one connection less as in use, also when it has found
none. -/
theorem BoltDirectPool.release_count {pool pool' : BoltDirectPool} {connection : Option Nat}
    {result : Int} (h : pool.release connection = some (result, pool')) :
    pool'.in_use_count = pool.in_use_count - 1 := by
  unfold BoltDirectPool.release at h
  split at h
  · obtain ⟨left, hrecycle, hresult⟩ := Option.map_eq_some_iff.mp h
    obtain ⟨-, rfl⟩ := Prod.mk.inj hresult
    obtain ⟨-, hcount, -⟩ := BoltDirectPool.recycle_agents hrecycle
    rw [hcount]
  · obtain ⟨-, rfl⟩ := Prod.mk.inj (Option.some.inj h)
    rfl

/-- With a direct pool for every server, a release that returns has found a
direct pool, which counts one connection less as in use. -/
theorem BoltRoutingPool.release_count {pool pool' : BoltRoutingPool} {connection : Option Handle}
    {result : Int} (hs : pool.Consistent) (h : pool.release connection = some (result, pool')) :
    ∃ pointer server server', pool.allocated.read pointer = some server ∧
      pool'.allocated.read pointer = some server' ∧
      server'.pool.in_use_count = server.pool.in_use_count - 1 := by
  unfold BoltRoutingPool.release at h
  split at h
  · cases h
  · next handle =>
    obtain ⟨⟨cleared, pool1⟩, hclear, h⟩ := Option.bind_eq_some_iff.mp h
    have hs1 : pool1.Consistent := (onHandle_works hclear).consistent hs
    obtain ⟨address, haddress, h⟩ := Option.bind_eq_some_iff.mp h
    obtain ⟨found, hfound, h⟩ := Option.bind_eq_some_iff.mp h
    obtain ⟨server, hserver, hconnection⟩ := Option.bind_eq_some_iff.mp haddress
    obtain ⟨c, -, hid⟩ := Option.map_eq_some_iff.mp hconnection
    have hmem : server.address ∈ pool1.servers := by
      obtain ⟨i, hlt, hget⟩ := List.getElem_of_mem (Directory.listed hs1 handle.pool server hserver)
      have hlt' : i < pool1.servers.length := by rwa [Directory.length hs1]
      obtain ⟨pointer, entry, hpointer, hread, hkey⟩ :=
        Directory.object_at hs1 (List.getElem?_eq_getElem hlt')
      rw [List.getElem?_eq_getElem hlt, hget] at hpointer
      rw [← Option.some.inj hpointer, hserver] at hread
      rw [Option.some.inj hread, hkey]
      exact List.getElem_mem hlt'
    have hsome : ∃ index, found = some index := by
      rcases address with _ | address
      · simp only [findServer] at hfound
        split_ifs at hfound with hnone
        rw [hnone] at hmem
        cases hmem
      · split_ifs at hid
        rw [← Option.some.inj hid] at hfound
        simp only [findServer, Option.some.injEq] at hfound
        rcases found with _ | index
        · exact absurd hmem (BoltAddressSet.indexOf_eq_none.mp hfound)
        · exact ⟨index, rfl⟩
    obtain ⟨index, rfl⟩ := hsome
    obtain ⟨pointer, -, h⟩ := Option.bind_eq_some_iff.mp h
    obtain ⟨entry, direct, hread, hrelease, rfl⟩ := onServerPool_cases h
    have hcount := BoltDirectPool.release_count hrelease
    obtain ⟨entry', direct', hread', hwork, rfl⟩ := onServerPool_cases hclear
    obtain ⟨c', c'', -, -, rfl⟩ := BoltDirectPool.onConnection_cases hwork
    dsimp only at hread ⊢
    by_cases heq : handle.pool = pointer
    · subst heq
      rw [Heap.read_write_self (Heap.lt_of_read hread')] at hread
      obtain rfl := Option.some.inj hread
      refine ⟨handle.pool, entry', _, hread', Heap.read_write_self ?_, hcount⟩
      exact Heap.lt_of_read (Heap.read_write_self (Heap.lt_of_read hread'))
    · have hsame := hread
      rw [Heap.read_write_ne heq] at hsame
      exact ⟨pointer, entry, _, hsame, Heap.read_write_self (Heap.lt_of_read hread), hcount⟩

namespace BoltScheme

variable {τ : Type} [DecidableEq τ]

/-- Setting an access mode does not count. -/
theorem assign_direct {mode : BoltAccessMode} {connection : Option Nat} {pool pool' : BoltDirectPool}
    (h : assign direct mode connection pool = some pool') :
    pool'.in_use_count = pool.in_use_count := by
  rcases connection with _ | index
  · rw [← Option.some.inj h]
  · obtain ⟨⟨status, assigned⟩, hwork, rfl⟩ := Option.map_eq_some_iff.mp h
    obtain ⟨c, c', -, -, rfl⟩ := BoltDirectPool.onConnection_cases hwork
    rfl

theorem assign_neo4j {mode : BoltAccessMode} {connection : Option Handle}
    {pool pool' : BoltRoutingPool} (h : assign neo4j mode connection pool = some pool') :
    pool.Works pool' ∧ ∀ pointer,
      (pool'.allocated.read pointer).map (fun server => server.pool.in_use_count) =
        (pool.allocated.read pointer).map fun server => server.pool.in_use_count := by
  rcases connection with _ | handle
  · rw [← Option.some.inj h]
    exact ⟨.refl pool, fun _ => rfl⟩
  · obtain ⟨⟨status, assigned⟩, hwork, rfl⟩ := Option.map_eq_some_iff.mp h
    refine ⟨BoltRoutingPool.onHandle_works hwork, fun pointer => ?_⟩
    obtain ⟨server, direct, hread, hassigned, rfl⟩ := BoltRoutingPool.onServerPool_cases hwork
    obtain ⟨c, c', -, -, rfl⟩ := BoltDirectPool.onConnection_cases hassigned
    dsimp only
    by_cases heq : handle.pool = pointer
    · rw [← heq, Heap.read_write_self (Heap.lt_of_read hread), hread]
      rfl
    · rw [Heap.read_write_ne heq]

theorem disturbed_direct {pool assigned released : BoltDirectPool}
    (hassigned : assigned.in_use_count = pool.in_use_count)
    (hreleased : released.in_use_count = assigned.in_use_count - 1) : ¬pool.Undisturbed released := by
  intro h
  have hsame := h.in_use_count
  omega

theorem count_of_undisturbed {pool pool' : BoltRoutingPool} {pointer : Nat}
    {server server' : ServerPool} (h : Undisturbed neo4j pool pool')
    (hread : pool.allocated.read pointer = some server)
    (hread' : pool'.allocated.read pointer = some server') :
    server'.pool.in_use_count = server.pool.in_use_count := by
  have hrel := h.2.2 pointer
  rw [hread, hread'] at hrel
  obtain ⟨hsame⟩ := hrel
  exact hsame.in_use_count

/-- There is no scheme and no state in which a spurious release is harmless. -/
theorem not_harmless_of_spurious (scheme : BoltScheme) (threads : scheme.Threads τ)
    (hreachable : scheme.Reachable threads) (connection : Option scheme.Connection)
    (hspurious : scheme.Spurious connection threads) :
    ¬scheme.Harmless connection (scheme.pool threads) := by
  rintro ⟨pool', hrelease, hundisturbed⟩
  obtain ⟨assigned, hassign, hrelease⟩ := Option.bind_eq_some_iff.mp hrelease
  obtain ⟨⟨result, released⟩, hreleased, rfl⟩ := Option.map_eq_some_iff.mp hrelease
  cases scheme with
  | direct =>
    exact disturbed_direct (assign_direct hassign) (BoltDirectPool.release_count hreleased) hundisturbed
  | neo4j =>
    obtain ⟨hworks, hassigned⟩ := assign_neo4j hassign
    have hconsistent := hworks.consistent (Routing.Reachable.consistent hreachable)
    obtain ⟨pointer, server, server', hread, hread', hcount⟩ :=
      BoltRoutingPool.release_count hconsistent hreleased
    have hbefore := hassigned pointer
    rw [hread, Option.map_some] at hbefore
    obtain ⟨server0, hread0, hcount0⟩ := Option.map_eq_some_iff.mp hbefore.symm
    have hsame := count_of_undisturbed hundisturbed hread0 hread'
    omega
  | directUnpooled =>
    obtain ⟨pointer, c, rfl, hread, -⟩ := BoltNoPool.release_cases hreleased
    obtain ⟨⟨status, used⟩, hwork, -⟩ := Option.map_eq_some_iff.mp hassign
    obtain ⟨c', hread', -⟩ := Option.bind_eq_some_iff.mp hwork
    exact hspurious pointer rfl (Unpooled.Reachable.held hreachable pointer c' hread')

/-- A thread acquires the only connection of a pool and releases it. -/
def acquireRelease : List (Turn Nat) :=
  let surroundings : Surroundings := ⟨0, 0, BoltConnection.answering
    (frames ([[0xB1, 0x70, 0xA0], [0xB1, 0x70, 0xA0]].map chunksOf))⟩
  [.acquire 1 surroundings, .release 1 0]

theorem not_harmless_of_spurious_acquireRelease :
    ∃ sharing : Sharing Nat, (∃ notices, Runs.run Sharing.take acquireRelease (Sharing.start
        (.create (ascii "agent") 0 0 (.dictionary []) 1)) = some (notices, sharing)) ∧
      ¬Harmless direct (some (0 : Nat) : Option Nat) sharing.pool := by
  have hrun : ((Runs.run Sharing.take acquireRelease (Sharing.start
      (.create (ascii "agent") 0 0 (.dictionary []) 1))).map fun (_, sharing) => sharing.held) =
      some [] := by
    decide +kernel
  obtain ⟨⟨notices, sharing⟩, hrun, hheld⟩ := Option.map_eq_some_iff.mp hrun
  refine ⟨sharing, ⟨notices, hrun⟩, not_harmless_of_spurious direct sharing
    ⟨_, _, _, _, _, _, _, hrun⟩ (some (0 : Nat) : Option Nat) ?_⟩
  intro pointer _ hmem
  change pointer ∈ sharing.held.map Prod.snd at hmem
  dsimp only at hheld
  rw [hheld] at hmem
  cases hmem

/-- Two threads want the only connection of a pool, and the second gets none. -/
def exhausted : List (Turn Nat) :=
  let surroundings : Surroundings := ⟨0, 0, BoltConnection.answering
    (frames ([[0xB1, 0x70, 0xA0], [0xB1, 0x70, 0xA0]].map chunksOf))⟩
  [.acquire 1 surroundings, .acquire 2 surroundings]

/-- When the second thread releases what it has got, the pool forgets that the
connection of the first thread is in use. -/
theorem release_exhausted :
    ¬∀ (threads : Threads Nat direct), Reachable direct threads → ∀ connection,
      Spurious direct connection threads → Harmless direct connection (pool direct threads) := by
  intro hharmless
  have hrun : ((Runs.run Sharing.take exhausted (Sharing.start
      (.create (ascii "agent") 0 0 (.dictionary []) 1))).map fun (notices, sharing) =>
        (notices.getLast?, sharing.pool.in_use_count)) =
      some (some (.acquired (.returned none ⟨.disconnected, BOLT_POOL_FULL⟩)), 1) := by
    decide +kernel
  obtain ⟨⟨notices, sharing⟩, hrun, hresult⟩ := Option.map_eq_some_iff.mp hrun
  obtain ⟨-, hcount⟩ := Prod.mk.inj hresult
  obtain ⟨pool', hrelease, hundisturbed⟩ :=
    hharmless sharing ⟨_, _, _, _, _, _, _, hrun⟩ none nofun
  obtain rfl := Option.some.inj hrelease
  have hsame : sharing.pool.in_use_count - 1 = sharing.pool.in_use_count :=
    BoltDirectPool.Undisturbed.in_use_count hundisturbed
  omega

end BoltScheme

end Seabolt
