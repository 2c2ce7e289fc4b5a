import Seabolt.DirectPool

/-!
# Threads that share a direct pool

Any number of threads acquire connections from a pool and release them.  The
sections under the mutex of the pool are the turns that the threads take, in any
order; a thread whose section has ended in a timed wait takes its next turn when
it is woken or when its time is over.

A thread releases only what it holds, once.  While it holds a connection it may
call the functions of the connection, in any order, and its connector may write
the fields that belong to the user.
-/

namespace Seabolt

/-- A pool, the threads that wait for a connection of it, and who holds which of
its connections. -/
structure Sharing (τ : Type) where
  pool : BoltDirectPool
  waiting : List τ
  held : List (τ × Nat)

/-- The turns of the threads. -/
inductive Turn (τ : Type) where
  | acquire (thread : τ) (surroundings : Surroundings)
  | wake (thread : τ) (surroundings : Surroundings)
  | timeout (thread : τ)
  | release (thread : τ) (index : Nat)
  | use (thread : τ) (index : Nat) (operation : Operation)
  | assign (thread : τ) (index : Nat) (access_mode : BoltAccessMode) (on_error_cb : Bool)

/-- What a thread learns from its turn. -/
inductive Notice where
  | acquired (acquired : Acquired)
  | released (index : Int)
  | used (result : Int)
  deriving DecidableEq

namespace Sharing

variable {τ : Type} [DecidableEq τ]

/-- A pool that nobody uses. -/
def start (pool : BoltDirectPool) : Sharing τ := ⟨pool, [], []⟩

/-- A thread has come to the end of a section of `BoltDirectPool_acquire`. -/
def acquired (thread : τ) (result : Acquired) (pool : BoltDirectPool) (sharing : Sharing τ) :
    Notice × Sharing τ :=
  (.acquired result,
    match result with
    | .returned (some index) _ =>
      ⟨pool, sharing.waiting.erase thread, (thread, index) :: sharing.held⟩
    | .returned none _ => ⟨pool, sharing.waiting.erase thread, sharing.held⟩
    | .waits => ⟨pool, thread :: sharing.waiting.erase thread, sharing.held⟩)

/-- A turn, if it is the thread's to take. -/
def take : Runs.Step (Turn τ) (Sharing τ) Notice
  | .acquire thread surroundings, sharing =>
    if thread ∈ sharing.waiting then none
    else (sharing.pool.acquire surroundings).map fun (result, pool) =>
      sharing.acquired thread result pool
  | .wake thread surroundings, sharing =>
    if thread ∈ sharing.waiting then
      (sharing.pool.acquire surroundings).map fun (result, pool) =>
        sharing.acquired thread result pool
    else none
  | .timeout thread, sharing =>
    if thread ∈ sharing.waiting then
      some (sharing.acquired thread BoltDirectPool.timedOut sharing.pool)
    else none
  | .release thread index, sharing =>
    if thread ∉ sharing.waiting ∧ (thread, index) ∈ sharing.held then
      (sharing.pool.release (some index)).map fun (found, pool) =>
        (.released found, ⟨pool, sharing.waiting, sharing.held.erase (thread, index)⟩)
    else none
  | .use thread index operation, sharing =>
    if thread ∉ sharing.waiting ∧ (thread, index) ∈ sharing.held then
      (sharing.pool.onConnection index (BoltConnection.perform operation)).map
        fun (result, pool) => (.used result, { sharing with pool := pool })
    else none
  | .assign thread index access_mode on_error_cb, sharing =>
    if thread ∉ sharing.waiting ∧ (thread, index) ∈ sharing.held then
      (sharing.pool.onConnection index fun connection => some (BOLT_SUCCESS,
          { connection with access_mode := access_mode, on_error_cb := on_error_cb })).map
        fun (result, pool) => (.used result, { sharing with pool := pool })
    else none

/-! ## What the turns keep -/

/-- The agents say who holds what, and the count says how much is held. -/
structure Owned (sharing : Sharing τ) : Prop where
  leases : Leases.Sound sharing.pool.agents sharing.held
  counted : sharing.pool.in_use_count = sharing.held.length
  size : sharing.pool.max_size = sharing.pool.agents.length

/-- The three counts of the connections in use agree, and there are not too
many. -/
structure Accounted (sharing : Sharing τ) : Prop where
  flagged : sharing.pool.in_use_count = sharing.pool.agents.count true
  held : sharing.pool.in_use_count = sharing.held.length
  bounded : sharing.pool.in_use_count ≤ sharing.pool.max_size

/-- A connection that is acquired was free and is ready; and a section that does
not acquire one leaves the count and the agents as they were. -/
def Exclusive (_ : Turn τ) (sharing : Sharing τ) (reply : Notice) (sharing' : Sharing τ) : Prop :=
  Accounted sharing' ∧
  match reply with
  | .acquired (.returned (some index) _) =>
    index ∉ sharing.held.map Prod.snd ∧ sharing'.pool.stateAt index = some .ready
  | .acquired _ =>
    sharing'.pool.in_use_count = sharing.pool.in_use_count ∧
      sharing'.pool.agents = sharing.pool.agents
  | _ => True

variable {sharing sharing' : Sharing τ} {thread : τ} {index : Nat} {reply : Notice}
  {pool : BoltDirectPool}

omit [DecidableEq τ] in
theorem Owned.accounted (h : Owned sharing) : Accounted sharing where
  flagged := by rw [h.counted, h.leases.count]
  held := h.counted
  bounded := by
    rw [h.counted, h.size]
    exact_mod_cast h.leases.length_le

omit [DecidableEq τ] in
theorem owned_create (user_agent : List UInt8) (life_time acquisition_time : Int)
    (auth_token : BoltValue) (max_pool_size : Nat) :
    Owned (start (BoltDirectPool.create user_agent life_time acquisition_time auth_token
      max_pool_size) : Sharing τ) := by
  have hagents : (BoltDirectPool.create user_agent life_time acquisition_time auth_token
      max_pool_size).agents = List.replicate max_pool_size false :=
    List.map_replicate
  unfold start
  refine ⟨?_, rfl, ?_⟩
  · dsimp only
    rw [hagents]
    exact Leases.sound_replicate max_pool_size
  · dsimp only
    rw [hagents, List.length_replicate]
    rfl

/-- A section that acquires nothing keeps the books. -/
theorem exclusive_unchanged {turn : Turn τ} {result : Acquired} (hs : Owned sharing)
    (hresult : ∀ i status, result ≠ .returned (some i) status)
    (hagents : pool.agents = sharing.pool.agents)
    (hcount : pool.in_use_count = sharing.pool.in_use_count)
    (hsize : pool.max_size = sharing.pool.max_size) :
    Exclusive turn sharing (sharing.acquired thread result pool).1
        (sharing.acquired thread result pool).2 ∧
      Owned (sharing.acquired thread result pool).2 := by
  have howned : ∀ waiting : List τ, Owned ⟨pool, waiting, sharing.held⟩ := by
    intro waiting
    refine ⟨?_, ?_, ?_⟩
    · show Leases.Sound pool.agents sharing.held
      rw [hagents]
      exact hs.leases
    · exact hcount.trans hs.counted
    · show pool.max_size = pool.agents.length
      rw [hsize, hagents, hs.size]
  rcases result with ⟨_ | i, status⟩ | _
  · exact ⟨⟨(howned _).accounted, hcount, hagents⟩, howned _⟩
  · exact absurd rfl (hresult i status)
  · exact ⟨⟨(howned _).accounted, hcount, hagents⟩, howned _⟩

/-- So does every other section of an acquisition. -/
theorem exclusive_acquire {turn : Turn τ} {surroundings : Surroundings} {result : Acquired}
    (hs : Owned sharing) (h : sharing.pool.acquire surroundings = some (result, pool)) :
    Exclusive turn sharing (sharing.acquired thread result pool).1
        (sharing.acquired thread result pool).2 ∧
      Owned (sharing.acquired thread result pool).2 := by
  rcases BoltDirectPool.acquire_cases h with
    ⟨hresult, hagents, hcount, hsize⟩ | ⟨i, rfl, hfree, hagents, hready, -, hcount, hsize⟩
  · exact exclusive_unchanged hs hresult hagents hcount hsize
  · have howned : Owned (sharing.acquired thread (.returned (some i) ⟨.ready, BOLT_SUCCESS⟩)
        pool).2 := by
      refine ⟨?_, ?_, ?_⟩
      · show Leases.Sound pool.agents ((thread, i) :: sharing.held)
        rw [hagents]
        exact hs.leases.take hfree thread
      · show pool.in_use_count = ((sharing.held.length + 1 : Nat) : Int)
        rw [hcount, hs.counted, Nat.cast_add_one]
      · show pool.max_size = pool.agents.length
        rw [hsize, hagents, List.length_set, hs.size]
    exact ⟨⟨howned.accounted, hs.leases.free hfree, hready⟩, howned⟩

omit [DecidableEq τ] in
/-- What is held is one of the pool's. -/
theorem Owned.findConnection (hs : Owned sharing) (hheld : (thread, index) ∈ sharing.held) :
    sharing.pool.findConnection (some index) = some index := by
  have hlent := hs.leases.lent index (List.mem_map_of_mem hheld)
  obtain ⟨hlt, -⟩ := List.getElem?_eq_some_iff.mp hlent
  rw [BoltDirectPool.agents, List.length_map] at hlt
  simp [BoltDirectPool.findConnection, hlt]

/-- A release by the thread that holds the connection. -/
theorem owned_release {found : Int} (hs : Owned sharing) (hheld : (thread, index) ∈ sharing.held)
    (h : sharing.pool.release (some index) = some (found, pool)) :
    Owned ⟨pool, sharing.waiting, sharing.held.erase (thread, index)⟩ := by
  have hlent := hs.leases.lent index (List.mem_map_of_mem hheld)
  obtain ⟨hlt, -⟩ := List.getElem?_eq_some_iff.mp hlent
  have hfind := hs.findConnection hheld
  unfold BoltDirectPool.release at h
  rw [hfind] at h
  obtain ⟨left, hrecycle, hresult⟩ := Option.map_eq_some_iff.mp h
  obtain ⟨-, rfl⟩ := Prod.mk.inj hresult
  obtain ⟨hagents, hcount, hsize⟩ := BoltDirectPool.recycle_agents hrecycle
  have hlength : 0 < sharing.held.length := List.length_pos_of_mem hheld
  refine ⟨?_, ?_, ?_⟩
  · show Leases.Sound left.agents _
    rw [hagents]
    exact hs.leases.give hheld
  · show left.in_use_count - 1 = ((sharing.held.erase (thread, index)).length : Int)
    rw [hcount, hs.counted, List.length_erase_of_mem hheld]
    omega
  · show left.max_size = (left.agents.length : Int)
    rw [hsize, hagents, List.length_set, hs.size]

omit [DecidableEq τ] in
/-- What a thread does with its connection is nobody else's concern. -/
theorem owned_use {work : BoltConnection → Outcome BoltConnection} {result : Int}
    (hwork : ∀ connection connection', work connection = some (result, connection') →
      connection'.agent = connection.agent)
    (hs : Owned sharing) (h : sharing.pool.onConnection index work = some (result, pool)) :
    Owned { sharing with pool := pool } := by
  obtain ⟨connection, connection', hentry, hdone, rfl⟩ := BoltDirectPool.onConnection_cases h
  have hagents := BoltDirectPool.agents_set hentry (hwork _ _ hdone)
  refine ⟨?_, hs.counted, ?_⟩
  · show Leases.Sound (List.map _ _) _
    rw [hagents]
    exact hs.leases
  · show sharing.pool.max_size = ((List.map _ _).length : Int)
    rw [hagents]
    exact hs.size

theorem exclusive_take (turn : Turn τ) (hs : Owned sharing)
    (h : take turn sharing = some (reply, sharing')) :
    Exclusive turn sharing reply sharing' ∧ Owned sharing' := by
  cases turn with
  | acquire thread surroundings =>
    simp only [take] at h
    split_ifs at h
    obtain ⟨⟨result, pool⟩, hacquire, hresult⟩ := Option.map_eq_some_iff.mp h
    obtain ⟨rfl, rfl⟩ := Prod.mk.inj hresult
    exact exclusive_acquire hs hacquire
  | wake thread surroundings =>
    simp only [take] at h
    split_ifs at h
    obtain ⟨⟨result, pool⟩, hacquire, hresult⟩ := Option.map_eq_some_iff.mp h
    obtain ⟨rfl, rfl⟩ := Prod.mk.inj hresult
    exact exclusive_acquire hs hacquire
  | timeout thread =>
    simp only [take] at h
    split_ifs at h
    obtain ⟨rfl, rfl⟩ := Prod.mk.inj (Option.some.inj h)
    exact exclusive_unchanged hs (by simp [BoltDirectPool.timedOut]) rfl rfl rfl
  | release thread index =>
    simp only [take] at h
    split_ifs at h with hholds
    obtain ⟨⟨found, pool⟩, hrelease, hresult⟩ := Option.map_eq_some_iff.mp h
    obtain ⟨rfl, rfl⟩ := Prod.mk.inj hresult
    have howned := owned_release hs hholds.2 hrelease
    exact ⟨⟨howned.accounted, trivial⟩, howned⟩
  | use thread index operation =>
    simp only [take] at h
    split_ifs at h with hholds
    obtain ⟨⟨result, pool⟩, hwork, hresult⟩ := Option.map_eq_some_iff.mp h
    obtain ⟨rfl, rfl⟩ := Prod.mk.inj hresult
    have howned := owned_use
      (fun _ _ hperform => (BoltConnection.respects_perform hperform).agent) hs hwork
    exact ⟨⟨howned.accounted, trivial⟩, howned⟩
  | assign thread index access_mode on_error_cb =>
    simp only [take] at h
    split_ifs at h with hholds
    obtain ⟨⟨result, pool⟩, hwork, hresult⟩ := Option.map_eq_some_iff.mp h
    obtain ⟨rfl, rfl⟩ := Prod.mk.inj hresult
    have howned := owned_use (fun connection connection' hassign => by
      rw [← (Prod.mk.inj (Option.some.inj hassign)).2]) hs hwork
    exact ⟨⟨howned.accounted, trivial⟩, howned⟩

/-- Whatever the threads do with a new pool, its connections are handed out to
one thread at a time, ready, and the pool knows how many are out. -/
theorem meets_exclusive (user_agent : List UInt8) (life_time acquisition_time : Int)
    (auth_token : BoltValue) (max_pool_size : Nat) (turns : List (Turn τ)) (replies : List Notice)
    (sharing : Sharing τ)
    (hrun : Runs.run take turns (start (BoltDirectPool.create user_agent life_time
      acquisition_time auth_token max_pool_size)) = some (replies, sharing)) :
    Accounted sharing ∧ Runs.Meets take Exclusive turns
      (start (BoltDirectPool.create user_agent life_time acquisition_time auth_token
        max_pool_size)) := by
  have hstart := @owned_create τ user_agent life_time acquisition_time auth_token max_pool_size
  have hstep : ∀ turn s reply (s' : Sharing τ), Owned s → True → take turn s = some (reply, s') →
      Exclusive turn s reply s' ∧ Owned s' :=
    fun turn _ _ _ hs _ h => exclusive_take turn hs h
  refine ⟨?_, ?_⟩
  · apply Owned.accounted
    exact Runs.keeps_of_run (fun turn s reply s' hs h => (hstep turn s reply s' hs trivial h).2) turns
      hstart hrun
  · exact Runs.meets_of_run hstep turns hstart
      (Runs.admissible_of_forall (fun _ _ => trivial) turns _) hrun

/-- Two threads share one connection: the second waits until the first has
released it. -/
def takingTurns : List (Turn Nat) :=
  let surroundings : Surroundings := ⟨0, 0, BoltConnection.answering
    (frames ([[0xB1, 0x70, 0xA0], [0xB1, 0x70, 0xA0]].map chunksOf))⟩
  [.acquire 1 surroundings, .acquire 2 surroundings, .release 1 0, .wake 2 surroundings]

theorem meets_exclusive_takingTurns :
    ∃ sharing, Runs.run take takingTurns
        (start (BoltDirectPool.create (ascii "agent") 0 1000 (.dictionary []) 1)) =
        some ([.acquired (.returned (some 0) ⟨.ready, BOLT_SUCCESS⟩), .acquired .waits, .released 0,
          .acquired (.returned (some 0) ⟨.ready, BOLT_SUCCESS⟩)], sharing) ∧
      Accounted sharing ∧ Runs.Meets take Exclusive takingTurns
        (start (BoltDirectPool.create (ascii "agent") 0 1000 (.dictionary []) 1)) := by
  have hreplies : (Runs.run take takingTurns
      (start (BoltDirectPool.create (ascii "agent") 0 1000 (.dictionary []) 1))).map Prod.fst =
      some [.acquired (.returned (some 0) ⟨.ready, BOLT_SUCCESS⟩), .acquired .waits, .released 0,
        .acquired (.returned (some 0) ⟨.ready, BOLT_SUCCESS⟩)] := by
    decide +kernel
  obtain ⟨⟨replies, sharing⟩, hrun, rfl⟩ := Option.map_eq_some_iff.mp hreplies
  exact ⟨sharing, hrun, meets_exclusive _ _ _ _ _ takingTurns _ sharing hrun⟩

end Sharing

end Seabolt
