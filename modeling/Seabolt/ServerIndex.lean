import Seabolt.Lib.Runs
import Seabolt.RoutingPool

/-!
# Threads that share a routing pool

Any number of threads acquire connections from a routing pool and release them.
A turn is a stretch of code under the read or the write lock of the pool.  Where
a call of `BoltRoutingPool_acquire` is between two stretches, or holds the read
lock over several, is the stage of its thread.

The call of `BoltDirectPool_acquire` is a turn of its own, which a timed wait
ends; the thread holds the read lock all the while.
-/

namespace Seabolt

/-- Where a thread is in `BoltRoutingPool_acquire`, with the arguments and the
locals that it goes on with. -/
inductive Stage where
  /-- Not in the call. -/
  | idle
  /-- Before the read lock of `BoltRoutingPool_ensure_routing_table`. -/
  | checking (mode : BoltAccessMode) (status : BoltStatus) (result : Int)
  /-- Before the write lock of `BoltRoutingPool_ensure_routing_table`. -/
  | refreshing (mode : BoltAccessMode) (status : BoltStatus)
  /-- Before the write lock of `BoltRoutingPool_ensure_server`. -/
  | adding (server : BoltAddress) (status : BoltStatus)
  /-- Before the read lock of `BoltRoutingPool_ensure_server`. -/
  | added (server : BoltAddress) (status : BoltStatus) (index : Option Nat)
  /-- `BoltRoutingPool_ensure_server` has returned, and the read lock is held;
  whether the thread waits for a connection. -/
  | ensured (server : BoltAddress) (status : BoltStatus) (index : Nat) (waits : Bool)
  deriving DecidableEq

/-- Whether the thread holds the read lock between its turns. -/
def Stage.reads : Stage → Bool
  | ensured .. => true
  | _ => false

/-- The access mode that the thread is about to refresh the table for. -/
def Stage.refreshes : Stage → Option BoltAccessMode
  | refreshing mode _ => some mode
  | _ => none

/-- The server and the index that the thread goes on with. -/
def Stage.target : Stage → Option (BoltAddress × Nat)
  | added server _ (some index) => some (server, index)
  | ensured server _ index _ => some (server, index)
  | _ => none

/-- A routing pool, where the threads are, who holds the read lock, and who
holds which connections. -/
structure Routing (τ : Type) where
  pool : BoltRoutingPool
  stages : τ → Stage
  reading : List τ
  held : List (τ × Handle)

/-- The turns of the threads.  The write lock of a turn may fail to be taken. -/
inductive RoutingTurn (τ : Type) where
  | call (thread : τ) (mode : BoltAccessMode) (status : BoltStatus)
  | check (thread : τ) (now : Int)
  | refresh (thread : τ) (locked : Bool) (now : Int) (discovery : Option Announcement)
  | add (thread : τ) (locked : Bool)
  | recheck (thread : τ)
  | acquire (thread : τ) (surroundings : Surroundings)
  | timeout (thread : τ)
  | release (thread : τ) (connection : Handle)
  | forgetServer (thread : τ) (server : BoltAddress)
  | forgetWriter (thread : τ) (server : BoltAddress)
  | use (thread : τ) (connection : Handle) (operation : Operation)
  | assign (thread : τ) (connection : Handle) (access_mode : BoltAccessMode)

/-- What a thread learns from its turn. -/
inductive Report where
  | goesOn
  | acquired (routed : BoltRoutingPool.Routed)
  | released (result : Int)
  | used (result : Int)
  deriving DecidableEq

namespace Routing

variable {τ : Type} [DecidableEq τ]

/-- A pool that nobody uses. -/
def start (pool : BoltRoutingPool) : Routing τ := ⟨pool, fun _ => .idle, [], []⟩

/-- The pool after a thread's turn, and where the thread is then. -/
def goTo (thread : τ) (stage : Stage) (pool : BoltRoutingPool) (routing : Routing τ) : Routing τ where
  pool := pool
  stages := Function.update routing.stages thread stage
  reading :=
    if stage.reads then thread :: routing.reading.erase thread else routing.reading.erase thread
  held := routing.held

/-- `BoltRoutingPool_acquire` returns NULL after its own stretches. -/
def fails (thread : τ) (status : BoltStatus) (result : Int) (pool : BoltRoutingPool)
    (routing : Routing τ) : Report × Routing τ :=
  (.acquired (.returned none { status with error := result }), routing.goTo thread .idle pool)

/-- A thread goes on after its look at the routing table. -/
def looked (thread : τ) (mode : BoltAccessMode) (status : BoltStatus)
    (looked : BoltRoutingPool.Looked) (pool : BoltRoutingPool) (routing : Routing τ) :
    Report × Routing τ :=
  match looked with
  | .expired => (.goesOn, routing.goTo thread (.refreshing mode status) pool)
  | .failed result => routing.fails thread status result pool
  | .selected server (some index) =>
    (.goesOn, routing.goTo thread (.ensured server status index false) pool)
  | .selected server none => (.goesOn, routing.goTo thread (.adding server status) pool)

/-- A thread has come to the end of a section of `BoltDirectPool_acquire`. -/
def acquired (thread : τ) (server : BoltAddress) (status : BoltStatus) (index : Nat)
    (routed : BoltRoutingPool.Routed) (pool : BoltRoutingPool) (routing : Routing τ) :
    Report × Routing τ :=
  (.acquired routed,
    match routed with
    | .returned (some connection) _ =>
      { routing.goTo thread .idle pool with held := (thread, connection) :: routing.held }
    | .returned none _ => routing.goTo thread .idle pool
    | .waits => routing.goTo thread (.ensured server status index true) pool)

/-- A turn, if it is the thread's to take.  Nobody writes while somebody
reads. -/
def take : Runs.Step (RoutingTurn τ) (Routing τ) Report
  | .call thread mode status, routing =>
    match routing.stages thread with
    | .idle =>
      some (.goesOn, routing.goTo thread (.checking mode status BOLT_SUCCESS) routing.pool)
    | _ => none
  | .check thread now, routing =>
    match routing.stages thread with
    | .checking mode status result =>
      (routing.pool.look mode now result).map fun (looked, pool) =>
        routing.looked thread mode status looked pool
    | _ => none
  | .refresh thread locked now discovery, routing =>
    match routing.stages thread with
    | .refreshing mode status =>
      if locked then
        if routing.reading = [] then
          (routing.pool.refresh mode now discovery).map fun (result, pool) =>
            (.goesOn, routing.goTo thread (.checking mode status result) pool)
        else none
      else some (.goesOn, routing.goTo thread (.checking mode status BOLT_SUCCESS) routing.pool)
    | _ => none
  | .add thread locked, routing =>
    match routing.stages thread with
    | .adding server status =>
      if locked then
        if routing.reading = [] then
          let (index, pool) := routing.pool.addServer server
          some (.goesOn, routing.goTo thread (.added server status index) pool)
        else none
      else some (.goesOn, routing.goTo thread (.added server status none) routing.pool)
    | _ => none
  | .recheck thread, routing =>
    match routing.stages thread with
    | .added server status (some index) =>
      some (.goesOn, routing.goTo thread (.ensured server status index false) routing.pool)
    | .added server status none =>
      some (.goesOn, routing.goTo thread (.adding server status) routing.pool)
    | _ => none
  | .acquire thread surroundings, routing =>
    match routing.stages thread with
    | .ensured server status index _ =>
      (routing.pool.acquireFrom index surroundings).map fun (routed, pool) =>
        routing.acquired thread server status index routed pool
    | _ => none
  | .timeout thread, routing =>
    match routing.stages thread with
    | .ensured server status index true =>
      some (routing.acquired thread server status index
        (.returned none ⟨.disconnected, BOLT_POOL_ACQUISITION_TIMED_OUT⟩) routing.pool)
    | _ => none
  | .release thread connection, routing =>
    if routing.stages thread = .idle ∧ (thread, connection) ∈ routing.held then
      (routing.pool.release (some connection)).map fun (result, pool) =>
        (.released result,
          { routing with pool := pool, held := routing.held.erase (thread, connection) })
    else none
  | .forgetServer thread server, routing =>
    if routing.stages thread = .idle ∧ routing.reading = [] then
      some (.goesOn, { routing with pool := routing.pool.forgetServer server })
    else none
  | .forgetWriter thread server, routing =>
    if routing.stages thread = .idle ∧ routing.reading = [] then
      some (.goesOn, { routing with pool := routing.pool.forgetWriter server })
    else none
  | .use thread connection operation, routing =>
    if routing.stages thread = .idle ∧ (thread, connection) ∈ routing.held then
      (routing.pool.onHandle connection (BoltConnection.perform operation)).map
        fun (result, pool) => (.used result, { routing with pool := pool })
    else none
  | .assign thread connection access_mode, routing =>
    if routing.stages thread = .idle ∧ (thread, connection) ∈ routing.held then
      (routing.pool.onHandle connection fun connection =>
        some (BOLT_SUCCESS, { connection with access_mode := access_mode })).map
          fun (result, pool) => (.used result, { routing with pool := pool })
    else none

variable {routing routing' : Routing τ} {report : Report}

theorem pool_looked {thread : τ} {mode : BoltAccessMode} {status : BoltStatus}
    {looked : BoltRoutingPool.Looked} {pool : BoltRoutingPool} :
    (routing.looked thread mode status looked pool).2.pool = pool := by
  rcases looked with _ | result | ⟨server, _ | index⟩ <;> rfl

theorem pool_acquired {thread : τ} {server : BoltAddress} {status : BoltStatus} {index : Nat}
    {routed : BoltRoutingPool.Routed} {pool : BoltRoutingPool} :
    (routing.acquired thread server status index routed pool).2.pool = pool := by
  rcases routed with ⟨_ | connection, final⟩ | _ <;> rfl

/-- What a turn does to the pool. -/
def Alters (routing : Routing τ) (pool : BoltRoutingPool) : RoutingTurn τ → Prop
  | .call _ _ _ | .recheck _ | .timeout _ => pool = routing.pool
  | .check _ now => ∃ mode result looked, routing.pool.look mode now result = some (looked, pool)
  | .refresh _ _ now discovery => pool = routing.pool ∨
    ∃ mode result, routing.pool.refresh mode now discovery = some (result, pool)
  | .add _ _ => pool = routing.pool ∨ ∃ server, pool = (routing.pool.addServer server).2
  | .acquire _ surroundings => ∃ index routed,
    routing.pool.acquireFrom index surroundings = some (routed, pool)
  | .release thread connection => (thread, connection) ∈ routing.held ∧
    ∃ result, routing.pool.release (some connection) = some (result, pool)
  | .forgetServer _ server => pool = routing.pool.forgetServer server
  | .forgetWriter _ server => pool = routing.pool.forgetWriter server
  | .use thread connection operation => (thread, connection) ∈ routing.held ∧ ∃ result,
    routing.pool.onHandle connection (BoltConnection.perform operation) = some (result, pool)
  | .assign thread connection access_mode => (thread, connection) ∈ routing.held ∧ ∃ result,
    routing.pool.onHandle connection (fun connection =>
      some (BOLT_SUCCESS, { connection with access_mode := access_mode })) = some (result, pool)

theorem alters_take {turn : RoutingTurn τ} (h : take turn routing = some (report, routing')) :
    Alters routing routing'.pool turn := by
  cases turn with
  | call thread mode status =>
    simp only [take] at h
    split at h
    · obtain ⟨-, rfl⟩ := Prod.mk.inj (Option.some.inj h)
      exact rfl
    · cases h
  | check thread now =>
    simp only [take] at h
    split at h
    · next mode status result _ =>
      obtain ⟨⟨looked, pool⟩, hlook, hresult⟩ := Option.map_eq_some_iff.mp h
      have hpool : pool = routing'.pool := pool_looked.symm.trans (congrArg (·.2.pool) hresult)
      rw [← hpool]
      exact ⟨mode, result, looked, hlook⟩
    · cases h
  | refresh thread locked now discovery =>
    simp only [take] at h
    split at h
    · next mode status _ =>
      split_ifs at h
      · obtain ⟨⟨result, pool⟩, hrefresh, hresult⟩ := Option.map_eq_some_iff.mp h
        obtain ⟨-, rfl⟩ := Prod.mk.inj hresult
        exact .inr ⟨mode, result, hrefresh⟩
      · obtain ⟨-, rfl⟩ := Prod.mk.inj (Option.some.inj h)
        exact .inl rfl
    · cases h
  | add thread locked =>
    simp only [take] at h
    split at h
    · next server status _ =>
      split_ifs at h
      · obtain ⟨-, rfl⟩ := Prod.mk.inj (Option.some.inj h)
        exact .inr ⟨server, rfl⟩
      · obtain ⟨-, rfl⟩ := Prod.mk.inj (Option.some.inj h)
        exact .inl rfl
    · cases h
  | recheck thread =>
    simp only [take] at h
    split at h
    · obtain ⟨-, rfl⟩ := Prod.mk.inj (Option.some.inj h)
      exact rfl
    · obtain ⟨-, rfl⟩ := Prod.mk.inj (Option.some.inj h)
      exact rfl
    · cases h
  | acquire thread surroundings =>
    simp only [take] at h
    split at h
    · next server status index waits _ =>
      obtain ⟨⟨routed, pool⟩, hacquire, hresult⟩ := Option.map_eq_some_iff.mp h
      have hpool : pool = routing'.pool := pool_acquired.symm.trans (congrArg (·.2.pool) hresult)
      rw [← hpool]
      exact ⟨index, routed, hacquire⟩
    · cases h
  | timeout thread =>
    simp only [take] at h
    split at h
    · obtain ⟨-, rfl⟩ := Prod.mk.inj (Option.some.inj h)
      exact rfl
    · cases h
  | forgetServer thread server | forgetWriter thread server =>
    simp only [take] at h
    split_ifs at h
    obtain ⟨-, rfl⟩ := Prod.mk.inj (Option.some.inj h)
    exact rfl
  | release thread connection | use thread connection operation
  | assign thread connection access_mode =>
    simp only [take] at h
    split_ifs at h with hmay
    obtain ⟨⟨result, pool⟩, hdone, hresult⟩ := Option.map_eq_some_iff.mp h
    obtain ⟨-, rfl⟩ := Prod.mk.inj hresult
    exact ⟨hmay.2, result, hdone⟩

/-- Whatever the threads do, every server has its direct pool. -/
theorem consistent_take (turn : RoutingTurn τ) (hs : routing.pool.Consistent)
    (h : take turn routing = some (report, routing')) : routing'.pool.Consistent := by
  have halters := alters_take h
  cases turn with
  | call thread mode status | recheck thread | timeout thread =>
    rw [show routing'.pool = routing.pool from halters]
    exact hs
  | check thread now =>
    obtain ⟨mode, result, looked, hlook⟩ := halters
    exact (BoltRoutingPool.look_works hlook).consistent hs
  | refresh thread locked now discovery =>
    rcases halters with hsame | ⟨mode, result, hrefresh⟩
    · rw [hsame]
      exact hs
    · exact (BoltRoutingPool.refresh_cases hs hrefresh).1
  | add thread locked =>
    rcases halters with hsame | ⟨server, hadd⟩
    · rw [hsame]
      exact hs
    · rw [hadd]
      exact (BoltRoutingPool.addServer_cases server hs).1
  | acquire thread surroundings =>
    obtain ⟨index, routed, hacquire⟩ := halters
    exact (BoltRoutingPool.acquireFrom_works hacquire).consistent hs
  | release thread connection =>
    obtain ⟨-, result, hrelease⟩ := halters
    exact (BoltRoutingPool.release_works hrelease).consistent hs
  | forgetServer thread server =>
    rw [show routing'.pool = routing.pool.forgetServer server from halters]
    exact hs
  | forgetWriter thread server =>
    rw [show routing'.pool = routing.pool.forgetWriter server from halters]
    exact hs
  | use thread connection operation =>
    obtain ⟨-, result, hwork⟩ := halters
    exact (BoltRoutingPool.onHandle_works hwork).consistent hs
  | assign thread connection access_mode =>
    obtain ⟨-, result, hwork⟩ := halters
    exact (BoltRoutingPool.onHandle_works hwork).consistent hs

/-- The threads have come here from a new pool. -/
def Reachable (routing : Routing τ) : Prop :=
  ∃ user_agent life_time acquisition_time auth_token max_pool_size turns reports,
    Runs.run take turns (start (BoltRoutingPool.create user_agent life_time acquisition_time
      auth_token max_pool_size)) = some (reports, routing)

theorem Reachable.consistent (h : Reachable routing) : routing.pool.Consistent := by
  obtain ⟨user_agent, life_time, acquisition_time, auth_token, max_pool_size, turns, reports, hrun⟩ := h
  exact Runs.keeps_of_run (fun turn _ _ _ hs htake => consistent_take turn hs htake) turns
    (BoltRoutingPool.consistent_create _ _ _ _ _) hrun

/-! ## The index of a server -/

/-- What `BoltRoutingPool_ensure_server` has returned is valid, up to the end of
the call of `BoltDirectPool_acquire` that uses it. -/
def IndexValid (routing : Routing τ) : Prop :=
  ∀ thread server status index waits,
    routing.stages thread = .ensured server status index waits →
      routing.pool.Valid server index

/-- A refresh takes away no server at or in front of an index that a thread has
found and goes on with. -/
def Spares : RoutingTurn τ → Routing τ → Prop
  | .refresh thread true now discovery, routing =>
    ∀ mode ∈ (routing.stages thread).refreshes, ∀ other, ∀ target ∈ (routing.stages other).target,
      ∀ j ≤ target.2, routing.pool.evicts mode now discovery j = false
  | _, _ => True

instance [Fintype τ] : ∀ turn (routing : Routing τ), Decidable (Spares turn routing)
  | .refresh thread true now discovery, routing =>
    inferInstanceAs (Decidable (∀ mode ∈ (routing.stages thread).refreshes, ∀ other,
      ∀ target ∈ (routing.stages other).target, ∀ j ≤ target.2,
        routing.pool.evicts mode now discovery j = false))
  | .refresh _ false _ _, _ => .isTrue trivial
  | .call .., _ | .check .., _ | .add .., _ | .recheck _, _ | .acquire .., _ | .timeout _, _
  | .release .., _ | .forgetServer .., _ | .forgetWriter .., _ | .use .., _ | .assign .., _ =>
    .isTrue trivial

/-- The servers have their pools, the readers are known, and what the threads go
on with is valid. -/
structure Sound (routing : Routing τ) : Prop where
  consistent : routing.pool.Consistent
  reading : ∀ thread, thread ∈ routing.reading ↔ (routing.stages thread).reads = true
  nodup : routing.reading.Nodup
  targets : ∀ thread server index, (routing.stages thread).target = some (server, index) →
    routing.pool.servers[index]? = some server

variable {thread : τ} {stage : Stage} {pool : BoltRoutingPool}

omit [DecidableEq τ] in
theorem Sound.indexValid (h : Sound routing) : IndexValid routing := by
  intro thread server status index waits hstage
  apply h.consistent.valid
  apply h.targets thread
  rw [hstage]
  rfl

omit [DecidableEq τ] in
theorem sound_start (hpool : pool.Consistent) : Sound (start pool : Routing τ) where
  consistent := hpool
  reading := by simp [start, Stage.reads]
  nodup := List.nodup_nil
  targets := by simp [start, Stage.target]

/-- A thread goes to another stage, and the servers of all the others stay where
they are. -/
theorem Sound.goTo (h : Sound routing) (hpool : pool.Consistent)
    (hothers : ∀ other server index, (routing.stages other).target = some (server, index) →
      pool.servers[index]? = some server)
    (hstage : ∀ server index, stage.target = some (server, index) →
      pool.servers[index]? = some server) :
    Sound (routing.goTo thread stage pool) where
  consistent := hpool
  reading := by
    intro other
    unfold Routing.goTo
    dsimp only
    by_cases heq : other = thread
    · subst heq
      rw [Function.update_self]
      cases hreads : stage.reads with
      | true => simp
      | false => simp [h.nodup.not_mem_erase]
    · rw [Function.update_of_ne heq, ← h.reading other]
      cases hreads : stage.reads with
      | true => simp [heq, List.mem_erase_of_ne heq]
      | false => simp [List.mem_erase_of_ne heq]
  nodup := by
    unfold Routing.goTo
    dsimp only
    split_ifs
    · exact List.nodup_cons.mpr ⟨h.nodup.not_mem_erase, h.nodup.erase thread⟩
    · exact h.nodup.erase thread
  targets := by
    intro other server index htarget
    unfold Routing.goTo at htarget ⊢
    dsimp only at htarget ⊢
    by_cases heq : other = thread
    · subst heq
      rw [Function.update_self] at htarget
      exact hstage server index htarget
    · rw [Function.update_of_ne heq] at htarget
      exact hothers other server index htarget

omit [DecidableEq τ] in
/-- Only the pool and what is held change, and the servers stay where they
are. -/
theorem Sound.withPool (h : Sound routing) (hpool : pool.Consistent)
    (hservers : pool.servers = routing.pool.servers) (held : List (τ × Handle)) :
    Sound ⟨pool, routing.stages, routing.reading, held⟩ where
  consistent := hpool
  reading := h.reading
  nodup := h.nodup
  targets := by
    intro other server index htarget
    dsimp only
    rw [hservers]
    exact h.targets other server index htarget

/-- A thread goes on in a pool whose servers stay where they are. -/
theorem Sound.step (h : Sound routing) (hpool : pool.Consistent)
    (hservers : pool.servers = routing.pool.servers)
    (hstage : ∀ server index, stage.target = some (server, index) →
      routing.pool.servers[index]? = some server) :
    Sound (routing.goTo thread stage pool) := by
  apply h.goTo hpool
  · intro other server index htarget
    rw [hservers]
    exact h.targets other server index htarget
  · rw [hservers]
    exact hstage

theorem Sound.looked {mode : BoltAccessMode} {status : BoltStatus}
    {looked : BoltRoutingPool.Looked} (h : Sound routing) (hpool : pool.Consistent)
    (hservers : pool.servers = routing.pool.servers)
    (hfound : ∀ server i, looked = .selected server (some i) →
      routing.pool.servers[i]? = some server) :
    Sound (routing.looked thread mode status looked pool).2 := by
  unfold Routing.looked
  rcases looked with _ | result | ⟨server, _ | index⟩
  · exact h.step hpool hservers nofun
  · exact h.step hpool hservers nofun
  · exact h.step hpool hservers nofun
  · refine h.step hpool hservers fun other i htarget => ?_
    obtain ⟨rfl, rfl⟩ := Prod.mk.inj (Option.some.inj htarget)
    exact hfound _ _ rfl

theorem Sound.acquired {server : BoltAddress} {status : BoltStatus} {index : Nat}
    {routed : BoltRoutingPool.Routed} (h : Sound routing) (hpool : pool.Consistent)
    (hservers : pool.servers = routing.pool.servers)
    (hserver : routing.pool.servers[index]? = some server) :
    Sound (routing.acquired thread server status index routed pool).2 := by
  unfold Routing.acquired
  rcases routed with ⟨_ | connection, final⟩ | _
  · exact h.step hpool hservers nofun
  · have hidle : Sound (routing.goTo thread .idle pool) := h.step hpool hservers nofun
    exact hidle.withPool hidle.consistent rfl _
  · refine h.step hpool hservers fun other i htarget => ?_
    obtain ⟨rfl, rfl⟩ := Prod.mk.inj (Option.some.inj htarget)
    exact hserver

/-- A turn that spares the others keeps the indices valid. -/
theorem Sound.take (turn : RoutingTurn τ) (h : Sound routing) (hspares : Spares turn routing)
    (htake : Routing.take turn routing = some (report, routing')) : Sound routing' := by
  cases turn with
  | call thread mode status =>
    simp only [Routing.take] at htake
    split at htake
    · obtain ⟨-, rfl⟩ := Prod.mk.inj (Option.some.inj htake)
      exact h.step h.consistent rfl nofun
    · cases htake
  | check thread now =>
    simp only [Routing.take] at htake
    split at htake
    · obtain ⟨⟨looked, pool⟩, hlook, hresult⟩ := Option.map_eq_some_iff.mp htake
      have hworks := BoltRoutingPool.look_works hlook
      obtain ⟨-, rfl⟩ := Prod.mk.inj hresult
      apply h.looked (hworks.consistent h.consistent) hworks.servers
      exact (BoltRoutingPool.look_cases hlook).2.2.2
    · cases htake
  | refresh thread locked now discovery =>
    simp only [Routing.take] at htake
    split at htake
    · next mode status hstage =>
      split_ifs at htake with hlocked
      · subst hlocked
        obtain ⟨⟨result, pool⟩, hrefresh, hresult⟩ := Option.map_eq_some_iff.mp htake
        obtain ⟨-, rfl⟩ := Prod.mk.inj hresult
        obtain ⟨hpool, hkeeps⟩ := BoltRoutingPool.refresh_cases h.consistent hrefresh
        have hmode : mode ∈ (routing.stages thread).refreshes := by
          rw [hstage]
          rfl
        refine h.goTo hpool (fun other server index htarget => ?_) nofun
        rw [hkeeps index (hspares mode hmode other _ htarget)]
        exact h.targets other server index htarget
      · obtain ⟨-, rfl⟩ := Prod.mk.inj (Option.some.inj htake)
        exact h.step h.consistent rfl nofun
    · cases htake
  | add thread locked =>
    simp only [Routing.take] at htake
    split at htake
    · next server status hstage =>
      split_ifs at htake
      · obtain ⟨-, rfl⟩ := Prod.mk.inj (Option.some.inj htake)
        obtain ⟨hpool, hprefix, index, hindex, hserver⟩ :=
          BoltRoutingPool.addServer_cases server h.consistent
        refine h.goTo hpool (fun other server' i htarget => ?_) fun server' i htarget => ?_
        · obtain ⟨hlt, -⟩ := List.getElem?_eq_some_iff.mp (h.targets other server' i htarget)
          obtain ⟨added, hadded⟩ := hprefix
          rw [← hadded, List.getElem?_append_left hlt]
          exact h.targets other server' i htarget
        · rw [hindex] at htarget
          obtain ⟨rfl, rfl⟩ := Prod.mk.inj (Option.some.inj htarget)
          exact hserver
      · obtain ⟨-, rfl⟩ := Prod.mk.inj (Option.some.inj htake)
        exact h.step h.consistent rfl nofun
    · cases htake
  | recheck thread =>
    simp only [Routing.take] at htake
    split at htake
    · next server status index hstage =>
      obtain ⟨-, rfl⟩ := Prod.mk.inj (Option.some.inj htake)
      refine h.step h.consistent rfl fun server' i htarget => ?_
      apply h.targets thread
      rw [hstage]
      exact htarget
    · obtain ⟨-, rfl⟩ := Prod.mk.inj (Option.some.inj htake)
      exact h.step h.consistent rfl nofun
    · cases htake
  | acquire thread surroundings =>
    simp only [Routing.take] at htake
    split at htake
    · next server status index waits hstage =>
      obtain ⟨⟨routed, pool⟩, hacquire, hresult⟩ := Option.map_eq_some_iff.mp htake
      have hworks := BoltRoutingPool.acquireFrom_works hacquire
      obtain ⟨-, rfl⟩ := Prod.mk.inj hresult
      apply h.acquired (hworks.consistent h.consistent) hworks.servers
      exact h.targets thread server index (by rw [hstage]; rfl)
    · cases htake
  | timeout thread =>
    simp only [Routing.take] at htake
    split at htake
    · next server status index hstage =>
      obtain ⟨-, rfl⟩ := Prod.mk.inj (Option.some.inj htake)
      exact h.step h.consistent rfl nofun
    · cases htake
  | release thread connection =>
    simp only [Routing.take] at htake
    split_ifs at htake
    obtain ⟨⟨result, pool⟩, hrelease, hresult⟩ := Option.map_eq_some_iff.mp htake
    have hworks := BoltRoutingPool.release_works hrelease
    obtain ⟨-, rfl⟩ := Prod.mk.inj hresult
    exact h.withPool (hworks.consistent h.consistent) hworks.servers _
  | forgetServer thread server =>
    simp only [Routing.take] at htake
    split_ifs at htake
    obtain ⟨-, rfl⟩ := Prod.mk.inj (Option.some.inj htake)
    have hpool : (routing.pool.forgetServer server).Consistent := h.consistent
    exact h.withPool hpool rfl _
  | forgetWriter thread server =>
    simp only [Routing.take] at htake
    split_ifs at htake
    obtain ⟨-, rfl⟩ := Prod.mk.inj (Option.some.inj htake)
    have hpool : (routing.pool.forgetWriter server).Consistent := h.consistent
    exact h.withPool hpool rfl _
  | use thread connection operation =>
    simp only [Routing.take] at htake
    split_ifs at htake
    obtain ⟨⟨result, pool⟩, hwork, hresult⟩ := Option.map_eq_some_iff.mp htake
    have hworks := BoltRoutingPool.onHandle_works hwork
    obtain ⟨-, rfl⟩ := Prod.mk.inj hresult
    exact h.withPool (hworks.consistent h.consistent) hworks.servers _
  | assign thread connection access_mode =>
    simp only [Routing.take] at htake
    split_ifs at htake
    obtain ⟨⟨result, pool⟩, hwork, hresult⟩ := Option.map_eq_some_iff.mp htake
    have hworks := BoltRoutingPool.onHandle_works hwork
    obtain ⟨-, rfl⟩ := Prod.mk.inj hresult
    exact h.withPool (hworks.consistent h.consistent) hworks.servers _

/-- In every run whose refreshes spare the servers that threads have found and
go on with, the index that a thread uses is the one of its server. -/
theorem ensured_index_valid (user_agent : List UInt8) (life_time acquisition_time : Int)
    (auth_token : BoltValue) (max_pool_size : Nat) (turns : List (RoutingTurn τ))
    (reports : List Report) (routing : Routing τ)
    (hspares : Runs.Admissible Routing.take Spares turns (start (BoltRoutingPool.create user_agent
      life_time acquisition_time auth_token max_pool_size)))
    (hrun : Runs.run Routing.take turns (start (BoltRoutingPool.create user_agent life_time
      acquisition_time auth_token max_pool_size)) = some (reports, routing)) :
    Runs.Meets Routing.take (fun _ _ _ routing => IndexValid routing) turns
      (start (BoltRoutingPool.create user_agent life_time acquisition_time auth_token
        max_pool_size)) := by
  have hstart : Sound (start (BoltRoutingPool.create user_agent life_time acquisition_time
      auth_token max_pool_size) : Routing τ) :=
    sound_start (BoltRoutingPool.consistent_create _ _ _ _ _)
  refine Runs.meets_of_run ?_ turns hstart hspares hrun
  intro turn routing report routing' h hspares htake
  have hsound := h.take turn hspares htake
  exact ⟨hsound.indexValid, hsound⟩

/-! ## A refresh between the two locks -/

/-- The threads of the examples: one or two. -/
instance oneThread : NeZero 1 := ⟨by decide⟩

instance twoThreads : NeZero 2 := ⟨by decide⟩

/-- The addresses of a small cluster: servers with one letter each. -/
def serverNamed (name : String) : BoltAddress := ⟨ascii name, ascii "7687"⟩

/-- Thread 0 has added the server `s`.  Before it takes the read lock, thread 1 adds the server
`u`, cannot resolve it, and refreshes the table when it has expired.  This cleans up `u`, and
spares `s`. -/
def spared : List (RoutingTurn (Fin 2)) :=
  let before : Announcement := ⟨[serverNamed "s"], [serverNamed "u"], [serverNamed "r"], 1000⟩
  let after : Announcement := ⟨[serverNamed "s"], [serverNamed "t"], [serverNamed "r"], 1000⟩
  let target := BoltConnection.answering
    (frames ([[0xB1, 0x70, 0xA0], [0xB1, 0x70, 0xA0]].map chunksOf))
  [.call 0 .read ⟨.disconnected, BOLT_SUCCESS⟩, .check 0 0, .refresh 0 true 0 (some before),
    .check 0 1, .add 0 true,
    .call 1 .write ⟨.disconnected, BOLT_SUCCESS⟩, .check 1 2, .add 1 true, .recheck 1,
    .acquire 1 ⟨0, 1, target⟩,
    .call 1 .write ⟨.disconnected, BOLT_SUCCESS⟩, .check 1 2000, .refresh 1 true 2000 (some after),
    .recheck 0, .acquire 0 ⟨0, 0, target⟩]

theorem ensured_index_valid_spared :
    Runs.Meets Routing.take (fun _ _ _ routing => IndexValid routing) spared
      (start (BoltRoutingPool.create (ascii "agent") 0 0 (.dictionary []) 1)) := by
  have hrun : (Runs.run Routing.take spared
      (start (BoltRoutingPool.create (ascii "agent") 0 0 (.dictionary []) 1))).isSome = true := by
    decide +kernel
  obtain ⟨⟨reports, routing⟩, hrun⟩ := Option.isSome_iff_exists.mp hrun
  exact ensured_index_valid _ _ _ _ _ spared reports routing (by decide +kernel) hrun

/-- Thread 0 has added the server `s`.  Before it takes the read lock, thread 1
refreshes the table, and the server is not in the new one. -/
def overtaken : List (RoutingTurn (Fin 2)) :=
  let before : Announcement := ⟨[serverNamed "s"], [], [serverNamed "r"], 1000⟩
  let after : Announcement := ⟨[serverNamed "t"], [serverNamed "t"], [serverNamed "r"], 1000⟩
  [.call 0 .read ⟨.disconnected, BOLT_SUCCESS⟩, .check 0 0, .refresh 0 true 0 (some before),
    .check 0 1, .add 0 true,
    .call 1 .write ⟨.disconnected, BOLT_SUCCESS⟩, .check 1 2, .refresh 1 true 2 (some after),
    .recheck 0]

/-- Thread 0 goes on with the index of a server that is gone. -/
theorem overtaken_index_invalid :
    ¬∀ (turns : List (RoutingTurn (Fin 2))) (reports : List Report) (routing : Routing (Fin 2)),
      Runs.run Routing.take turns (start (BoltRoutingPool.create (ascii "agent") 0 0
        (.dictionary []) 1)) = some (reports, routing) → IndexValid routing := by
  intro hvalid
  have hrun : (Runs.run Routing.take overtaken
      (start (BoltRoutingPool.create (ascii "agent") 0 0 (.dictionary []) 1))).map
        (fun (_, routing) => (routing.stages 0, routing.pool.servers.length)) =
      some (.ensured (serverNamed "s") ⟨.disconnected, BOLT_SUCCESS⟩ 0 false, 0) := by
    decide +kernel
  obtain ⟨⟨reports, routing⟩, hrun, hresult⟩ := Option.map_eq_some_iff.mp hrun
  obtain ⟨hstage, hservers⟩ := Prod.mk.inj hresult
  obtain ⟨hlt, -⟩ := hvalid overtaken reports routing hrun 0 _ _ _ _ hstage
  omega

end Routing

end Seabolt
