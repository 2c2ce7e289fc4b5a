import Seabolt.Lib.Heap
import Seabolt.DirectPool

/-!
# Connections without a pool

`no-pool.c`: every acquisition creates a connection, and every release closes
and frees it.  The array `connections` records the ones that are out.

A thread works on a connection of its own while it acquires or releases, so a
whole call is one turn.
-/

namespace Seabolt

/-- `struct BoltNoPool`, with the part of the configuration that it reads.
`connections` holds pointers to the objects that are `allocated`. -/
structure BoltNoPool where
  user_agent : List UInt8
  auth_token : BoltValue
  connections : List Nat
  allocated : Heap BoltConnection

/-- Resolve the address, open the connection and initialise it.  The first step
that fails sets the error of the pool. -/
def BoltConnection.connect (surroundings : Surroundings) (user_agent : List UInt8)
    (auth_token : BoltValue) (connection : BoltConnection) : Outcome BoltConnection :=
  if surroundings.resolved ≠ 0 then some (BOLT_ADDRESS_NOT_RESOLVED, connection)
  else
    (connection.openAt surroundings.target).bind fun (opened, connection) =>
      if opened = 0 then connection.initOrMoreInfo user_agent auth_token
      else some (BOLT_CONNECTION_HAS_MORE_INFO, connection)

namespace BoltNoPool

/-- `BoltNoPool_create`. -/
def create (user_agent : List UInt8) (auth_token : BoltValue) : BoltNoPool where
  user_agent := user_agent
  auth_token := auth_token
  connections := []
  allocated := []

/-- `find_open_connection`. -/
def findOpenConnection (connection : Nat) (pool : BoltNoPool) : Option Nat :=
  pool.connections.findIdx? fun candidate => candidate = connection

/-- The first three steps of `BoltNoPool_acquire`, on a new connection. -/
def connect (surroundings : Surroundings) (pool : BoltNoPool) : Outcome BoltConnection :=
  BoltConnection.create.connect surroundings pool.user_agent pool.auth_token

/-- `BoltNoPool_acquire`.  It returns the connection whether or not there has
been an error, and records it if there has been none. -/
def acquire (surroundings : Surroundings) (pool : BoltNoPool) :
    Option ((Option Nat × BoltStatus) × BoltNoPool) :=
  (pool.connect surroundings).map fun (pool_error, connection) =>
    let pointer := pool.allocated.length
    let created := { pool with allocated := pool.allocated.alloc connection }
    if pool_error = BOLT_SUCCESS then
      ((some pointer, ⟨connection.status.state, BOLT_SUCCESS⟩),
        { created with connections := pool.connections ++ [pointer] })
    else if pool_error = BOLT_CONNECTION_HAS_MORE_INFO then
      ((some pointer, connection.status), created)
    else ((some pointer, ⟨.disconnected, pool_error⟩), created)

/-- Work on the connection that a pointer points to. -/
def onConnection (pointer : Nat) (work : BoltConnection → Outcome BoltConnection)
    (pool : BoltNoPool) : Outcome BoltNoPool :=
  (pool.allocated.read pointer).bind fun connection =>
    (work connection).map fun (status, connection) =>
      (status, { pool with allocated := pool.allocated.write pointer connection })

/-- `BoltNoPool_release`.  A connection that is NULL or has been freed is read
through by `BoltConnection_close`. -/
def release (connection : Option Nat) (pool : BoltNoPool) : Outcome BoltNoPool :=
  connection.bind fun pointer =>
    let index := pool.findOpenConnection pointer
    let pool := { pool with
      connections := match index with
        | some index => pool.connections.eraseIdx index
        | none => pool.connections }
    (pool.allocated.read pointer).bind fun connection =>
      connection.close.map fun _ =>
        ((match index with | some index => (index : Int) | none => -1),
          { pool with allocated := pool.allocated.free pointer })

variable {pool pool' : BoltNoPool} {surroundings : Surroundings} {connection : Option Nat}
  {status : BoltStatus}

/-- An acquisition creates one connection, and records it if it has connected. -/
theorem acquire_cases (h : pool.acquire surroundings = some ((connection, status), pool')) :
    ∃ pool_error c, pool.connect surroundings = some (pool_error, c) ∧
      connection = some pool.allocated.length ∧
      pool'.allocated = pool.allocated.alloc c ∧
      (pool_error = BOLT_SUCCESS ∧ status = ⟨c.status.state, BOLT_SUCCESS⟩ ∧
        pool'.connections = pool.connections ++ [pool.allocated.length] ∨
       pool_error ≠ BOLT_SUCCESS ∧ pool'.connections = pool.connections ∧
        status = if pool_error = BOLT_CONNECTION_HAS_MORE_INFO then c.status
          else ⟨.disconnected, pool_error⟩) := by
  obtain ⟨⟨pool_error, c⟩, hconnect, hresult⟩ := Option.map_eq_some_iff.mp h
  refine ⟨pool_error, c, hconnect, ?_⟩
  dsimp only at hresult
  split_ifs at hresult with hdone hmore
  · simp only [Prod.mk.injEq] at hresult
    obtain ⟨⟨rfl, rfl⟩, rfl⟩ := hresult
    exact ⟨rfl, rfl, .inl ⟨hdone, rfl, rfl⟩⟩
  · simp only [Prod.mk.injEq] at hresult
    obtain ⟨⟨rfl, rfl⟩, rfl⟩ := hresult
    exact ⟨rfl, rfl, .inr ⟨hdone, rfl, by rw [if_pos hmore]⟩⟩
  · simp only [Prod.mk.injEq] at hresult
    obtain ⟨⟨rfl, rfl⟩, rfl⟩ := hresult
    exact ⟨rfl, rfl, .inr ⟨hdone, rfl, by rw [if_neg hmore]⟩⟩

/-- A release frees the connection. -/
theorem release_cases {result : Int} (h : pool.release connection = some (result, pool')) :
    ∃ pointer c, connection = some pointer ∧ pool.allocated.read pointer = some c ∧
      pool'.allocated = pool.allocated.free pointer := by
  rcases connection with _ | pointer
  · cases h
  · simp only [release, Option.bind_some] at h
    obtain ⟨c, hread, h⟩ := Option.bind_eq_some_iff.mp h
    obtain ⟨closed, -, hresult⟩ := Option.map_eq_some_iff.mp h
    obtain ⟨-, rfl⟩ := Prod.mk.inj hresult
    exact ⟨pointer, c, rfl, hread, rfl⟩

end BoltNoPool

/-! ## Threads without a pool -/

/-- The connections that there are, and who has got which of them. -/
structure Unpooled (τ : Type) where
  pool : BoltNoPool
  held : List (τ × Nat)

/-- The turns of the threads. -/
inductive UnpooledTurn (τ : Type) where
  | acquire (thread : τ) (surroundings : Surroundings)
  | release (thread : τ) (connection : Nat)
  | use (thread : τ) (connection : Nat) (operation : Operation)
  | assign (thread : τ) (connection : Nat) (access_mode : BoltAccessMode)

/-- What a thread learns from its turn. -/
inductive UnpooledNotice where
  | acquired (connection : Option Nat) (status : BoltStatus)
  | released (result : Int)
  | used (result : Int)
  deriving DecidableEq

namespace Unpooled

variable {τ : Type} [DecidableEq τ]

/-- Nobody has acquired anything. -/
def start (pool : BoltNoPool) : Unpooled τ := ⟨pool, []⟩

/-- A turn, if it is the thread's to take. -/
def take : Runs.Step (UnpooledTurn τ) (Unpooled τ) UnpooledNotice
  | .acquire thread surroundings, threads =>
    (threads.pool.acquire surroundings).map fun ((connection, status), pool) =>
      (.acquired connection status,
        ⟨pool, (connection.map fun pointer => (thread, pointer)).toList ++ threads.held⟩)
  | .release thread connection, threads =>
    if (thread, connection) ∈ threads.held then
      (threads.pool.release (some connection)).map fun (result, pool) =>
        (.released result, ⟨pool, threads.held.erase (thread, connection)⟩)
    else none
  | .use thread connection operation, threads =>
    if (thread, connection) ∈ threads.held then
      (threads.pool.onConnection connection (BoltConnection.perform operation)).map
        fun (result, pool) => (.used result, { threads with pool := pool })
    else none
  | .assign thread connection access_mode, threads =>
    if (thread, connection) ∈ threads.held then
      (threads.pool.onConnection connection fun connection =>
        some (BOLT_SUCCESS, { connection with access_mode := access_mode })).map
          fun (result, pool) => (.used result, { threads with pool := pool })
    else none

/-- Every connection that there is has been acquired and not been released. -/
def Held {τ : Type} (threads : Unpooled τ) : Prop :=
  ∀ pointer c, threads.pool.allocated.read pointer = some c → pointer ∈ threads.held.map Prod.snd

variable {threads threads' : Unpooled τ} {notice : UnpooledNotice}

omit [DecidableEq τ] in
theorem held_use {pool : BoltNoPool} {pointer : Nat} {work : BoltConnection → Outcome BoltConnection}
    {result : Int} (hs : Held threads)
    (h : threads.pool.onConnection pointer work = some (result, pool)) :
    Held { threads with pool := pool } := by
  obtain ⟨c, hread, h⟩ := Option.bind_eq_some_iff.mp h
  obtain ⟨⟨status, c'⟩, -, hresult⟩ := Option.map_eq_some_iff.mp h
  obtain ⟨-, rfl⟩ := Prod.mk.inj hresult
  intro other c2 hread'
  dsimp only at hread' ⊢
  by_cases heq : pointer = other
  · subst heq
    exact hs pointer c hread
  · rw [Heap.read_write_ne heq] at hread'
    exact hs other c2 hread'

theorem held_take (turn : UnpooledTurn τ) (hs : Held threads)
    (h : take turn threads = some (notice, threads')) : Held threads' := by
  cases turn with
  | acquire thread surroundings =>
    obtain ⟨⟨⟨connection, status⟩, pool⟩, hacquire, hresult⟩ := Option.map_eq_some_iff.mp h
    obtain ⟨-, rfl⟩ := Prod.mk.inj hresult
    obtain ⟨pool_error, c, -, rfl, hallocated, -⟩ := BoltNoPool.acquire_cases hacquire
    intro pointer c' hread
    dsimp only at hread ⊢
    rw [hallocated] at hread
    rcases Heap.read_alloc_cases hread with rfl | hold
    · simp
    · have hheld := hs pointer c' hold
      simp only [List.map_append, List.mem_append]
      exact .inr hheld
  | release thread connection =>
    simp only [take] at h
    split_ifs at h
    obtain ⟨⟨result, pool⟩, hrelease, hresult⟩ := Option.map_eq_some_iff.mp h
    obtain ⟨-, rfl⟩ := Prod.mk.inj hresult
    obtain ⟨pointer, c, hpointer, -, hallocated⟩ := BoltNoPool.release_cases hrelease
    obtain rfl := Option.some.inj hpointer
    intro other c' hread
    dsimp only at hread ⊢
    rw [hallocated] at hread
    have hne : connection ≠ other := by
      rintro rfl
      rw [Heap.read_free_self] at hread
      cases hread
    rw [Heap.read_free_ne hne] at hread
    obtain ⟨⟨holder, other⟩, hmem, rfl⟩ := List.mem_map.mp (hs other c' hread)
    refine List.mem_map.mpr ⟨(holder, other), ?_, rfl⟩
    refine (List.mem_erase_of_ne ?_).mpr hmem
    intro hsame
    exact hne (congrArg Prod.snd hsame).symm
  | use thread connection operation =>
    simp only [take] at h
    split_ifs at h
    obtain ⟨⟨result, pool⟩, hwork, hresult⟩ := Option.map_eq_some_iff.mp h
    obtain ⟨-, rfl⟩ := Prod.mk.inj hresult
    exact held_use hs hwork
  | assign thread connection access_mode =>
    simp only [take] at h
    split_ifs at h
    obtain ⟨⟨result, pool⟩, hwork, hresult⟩ := Option.map_eq_some_iff.mp h
    obtain ⟨-, rfl⟩ := Prod.mk.inj hresult
    exact held_use hs hwork

/-- The threads have come here from a new pool. -/
def Reachable (threads : Unpooled τ) : Prop :=
  ∃ user_agent auth_token turns notices,
    Runs.run take turns (start (BoltNoPool.create user_agent auth_token)) = some (notices, threads)

theorem Reachable.held (h : Reachable threads) : Held threads := by
  obtain ⟨user_agent, auth_token, turns, notices, hrun⟩ := h
  refine Runs.keeps_of_run (fun turn _ _ _ hs htake => held_take turn hs htake) turns ?_ hrun
  intro pointer c hread
  cases hread

end Unpooled

end Seabolt
