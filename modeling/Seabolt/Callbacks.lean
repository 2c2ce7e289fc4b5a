import Seabolt.Failures
import Seabolt.Lib.Locks
import Seabolt.Tenancy

/-!
# The error callback of a routing pool

`BoltRoutingPool_connection_error_handler` is the error callback of every
connection that a routing pool hands out.  It takes the write lock of the pool,
while acquiring and releasing open, initialise, reset and close connections
under the read lock, and a cleanup closes them under the write lock.

A connection that is not handed out has no error callback, so only the threads
that use their connections call it.
-/

namespace Seabolt

/-! ## What the callbacks are called with -/

/-- The statuses that the error callbacks of the connections have been called
with. -/
def BoltDirectPool.records (pool : BoltDirectPool) : List (List BoltStatus) :=
  pool.connections.map BoltConnection.on_error_calls

/-- The statuses that they are called with between two states of a pool. -/
def BoltDirectPool.fired (pool pool' : BoltDirectPool) : List BoltStatus :=
  (pool.records.zip pool'.records).flatMap fun record => record.2.drop record.1.length

/-- The same for all direct pools.  A direct pool that is gone has been
destroyed. -/
def BoltRoutingPool.fired (pool pool' : BoltRoutingPool) : List BoltStatus :=
  (List.range pool.allocated.length).flatMap fun pointer =>
    match pool.allocated.read pointer, pool'.allocated.read pointer with
    | some server, some server' => server.pool.fired server'.pool
    | some server, none => (server.pool.destroy.map server.pool.fired).getD []
    | none, _ => []

/-! ## The error handler -/

namespace BoltRoutingPool

/-- The calls of `BoltRoutingPool_forget_server` and
`BoltRoutingPool_forget_writer`. -/
def forgetCalls : List Locks.Call := [.wrlock true, .wrunlock]

def FORBIDDEN_ON_READ_ONLY_DATABASE : List UInt8 :=
  ascii "Neo.ClientError.General.ForbiddenOnReadOnlyDatabase"

def NOT_A_LEADER : List UInt8 := ascii "Neo.ClientError.Cluster.NotALeader"

def DATABASE_UNAVAILABLE : List UInt8 := ascii "Neo.TransientError.General.DatabaseUnavailable"

/-- `code_str`, as `strcmp` reads it.  The code of a failure is a String or
Null. -/
def codeStr (failure : BoltValue) : Option (List UInt8) :=
  match failure with
  | .dictionary entries => (BoltValue.valueByKey entries FAILURE_CODE_KEY).map fun code =>
    match code with
    | .string data => data.takeWhile (· ≠ 0)
    | _ => []
  | _ => none

/-- `BoltRoutingPool_handle_connection_error_by_failure`, with its calls. -/
def handleConnectionErrorByFailure (server : BoltAddress) (failure : Option BoltValue)
    (pool : BoltRoutingPool) : List Locks.Call × BoltRoutingPool :=
  match failure.bind codeStr with
  | none => ([], pool)
  | some code_str =>
    if code_str = FORBIDDEN_ON_READ_ONLY_DATABASE then (forgetCalls, pool.forgetWriter server)
    else if code_str = NOT_A_LEADER then (forgetCalls, pool.forgetWriter server)
    else if code_str = DATABASE_UNAVAILABLE then (forgetCalls, pool.forgetServer server)
    else ([], pool)

/-- `BoltRoutingPool_handle_connection_error`, with its calls. -/
def handleConnectionError (server : BoltAddress) (error : Int) (failure : Option BoltValue)
    (pool : BoltRoutingPool) : List Locks.Call × BoltRoutingPool :=
  if error = BOLT_SUCCESS then ([], pool)
  else if error = BOLT_SERVER_FAILURE then pool.handleConnectionErrorByFailure server failure
  else (if error ∈ forgettingCodes then forgetCalls else [],
    pool.handleConnectionErrorByCode server error)

/-- `BoltRoutingPool_connection_error_handler`, called with a status.  A
connection that is handed out has an address. -/
def connectionErrorHandler (handle : Handle) (pool : BoltRoutingPool) (status : BoltStatus) :
    Option (List Locks.Call × BoltRoutingPool) :=
  (pool.allocated.read handle.pool).bind fun server =>
    server.pool.connections[handle.index]?.bind fun connection =>
      (pool.addressOf handle).join.map fun address =>
        pool.handleConnectionError address status.error connection.failure

/-- Call the error handler with one status after the other. -/
def handleAll (handle : Handle) : List BoltStatus → BoltRoutingPool →
    Option (List Locks.Call × BoltRoutingPool)
  | [], pool => some ([], pool)
  | status :: statuses, pool =>
    (pool.connectionErrorHandler handle status).bind fun (calls, pool) =>
      (handleAll handle statuses pool).map fun (more, pool) => (.callback :: calls ++ more, pool)

end BoltRoutingPool

/-! ## Threads with their lock calls -/

/-- What a thread holds in a stage. -/
def Stage.holding (stage : Stage) : Locks.Holding := if stage.reads then .reading else .nothing

/-- The thread that takes a turn. -/
def RoutingTurn.thread {τ : Type} : RoutingTurn τ → τ
  | call thread _ _ | check thread _ | refresh thread _ _ _ | add thread _ | recheck thread
  | acquire thread _ | timeout thread | release thread _ | forgetServer thread _
  | forgetWriter thread _ | use thread _ _ | assign thread _ _ => thread

namespace Routing

open Locks (Holding)

variable {τ : Type} [DecidableEq τ]

/-- The calls behind a look at the routing table.  The loops of
`BoltRoutingPool_ensure_routing_table` and `BoltRoutingPool_ensure_server` unlock before they
take the write lock, and `BoltRoutingPool_acquire` when it gives up. -/
def lookedCalls : BoltRoutingPool.Looked → List Locks.Call
  | .expired => [.rdunlock]
  | .failed _ => [.rdunlock]
  | .selected _ none => [.rdunlock]
  | .selected _ (some _) => []

/-- The calls behind another round of `BoltRoutingPool_ensure_server`. -/
def addedCalls : Option Nat → List Locks.Call
  | none => [.rdunlock]
  | some _ => []

/-- The calls behind a section of `BoltDirectPool_acquire`.  A thread waits with the read
lock. -/
def acquiredCalls : BoltRoutingPool.Routed → List Locks.Call
  | .returned _ _ => [.rdunlock]
  | .waits => []

/-- The calls of a turn in which nobody uses a connection. -/
def calls (turn : RoutingTurn τ) (report : Report) (routing routing' : Routing τ) :
    List Locks.Call :=
  let callbacks := (routing.pool.fired routing'.pool).map fun _ => .callback
  match turn with
  | .call _ _ _ => []
  | .check thread now =>
    match routing.stages thread with
    | .checking mode _ result =>
      .rdlock :: callbacks ++ (routing.pool.look mode now result).elim [] fun looked =>
        lookedCalls looked.1
    | _ => []
  | .refresh _ locked _ _ =>
    if locked then .wrlock true :: callbacks ++ [.wrunlock] else [.wrlock false]
  | .add _ locked => if locked then .wrlock true :: callbacks ++ [.wrunlock] else [.wrlock false]
  | .recheck thread =>
    match routing.stages thread with
    | .added _ _ index => .rdlock :: callbacks ++ addedCalls index
    | _ => []
  | .acquire _ _ | .timeout _ =>
    match report with
    | .acquired routed => callbacks ++ acquiredCalls routed
    | _ => []
  | .release _ _ => .rdlock :: callbacks ++ [.rdunlock]
  | .forgetServer _ _ | .forgetWriter _ _ => BoltRoutingPool.forgetCalls
  | .use _ _ _ | .assign _ _ _ => callbacks

/-- A turn with its calls.  After the use of a connection its error callback is
called, which waits until nobody reads if it takes the write lock. -/
def attend : Runs.Step (RoutingTurn τ) (Routing τ) (Report × List Locks.Call)
  | turn, routing => (take turn routing).bind fun (report, routing') =>
    match turn with
    | .use _ handle _ =>
      (BoltRoutingPool.handleAll handle (routing.pool.fired routing'.pool) routing'.pool).bind
        fun (calls, pool) =>
          if .wrlock true ∈ calls ∧ routing.reading ≠ [] then none
          else some ((report, calls), { routing' with pool := pool })
    | _ => some ((report, calls turn report routing routing'), routing')

end Routing

/-! ## Direct pools whose connections are not handed out -/

namespace BoltDirectPool

open BoltConnection (Kept)

variable {pool pool' : BoltDirectPool} {index : Nat} {connection connection' : BoltConnection}

theorem fired_of_records (h : pool'.records = pool.records) : pool.fired pool' = [] := by
  unfold fired
  rw [h]
  generalize pool.records = records
  induction records with
  | nil => rfl
  | cons record records ih => simpa using ih

theorem records_set (hentry : pool.connections[index]? = some connection)
    (hcalls : connection'.on_error_calls = connection.on_error_calls) :
    (pool.connections.set index connection').map BoltConnection.on_error_calls = pool.records := by
  have hrecord : pool.records[index]? = some connection.on_error_calls := by
    rw [records, List.getElem?_map, hentry, Option.map_some]
  obtain ⟨hlt, hget⟩ := List.getElem?_eq_some_iff.mp hrecord
  rw [List.map_set, hcalls, ← hget]
  exact List.set_getElem_self hlt

theorem acquire_records {surroundings : Surroundings} {acquired : Acquired} (h : All Kept pool)
    (hacquire : pool.acquire surroundings = some (acquired, pool')) :
    pool'.records = pool.records := by
  rcases acquire_calls hacquire with
    ⟨rfl, -⟩ | ⟨i, c, c', hentry, hfree, hcalls, ⟨-, -, rfl⟩ | ⟨-, rfl⟩⟩
  · rfl
  all_goals
    have hsilent := (h c (List.mem_of_getElem? hentry)).silent hfree
    exact records_set hentry ((BoltConnection.respects_poolCalls hcalls).quiet hsilent)

theorem recycle_records
    (hsilent : ∀ connection, pool.connections[index]? = some connection →
      connection.on_error_cb = false)
    (hrecycle : pool.recycle index = some pool') : pool'.records = pool.records := by
  obtain ⟨c, c1, c2, c3, done, c', hentry, hrun, hbegin, hreset, hleft, rfl⟩ :=
    recycle_cases hrecycle
  have hcalled : Respects { c with agent := false } c3 :=
    ((BoltConnection.respects_callProtocol hrun).trans
      (BoltConnection.respects_callProtocol hbegin)).trans (BoltConnection.respects_reset hreset)
  have hrespects : Respects { c with agent := false } c' := by
    rcases hleft with ⟨-, rfl⟩ | ⟨-, -, hclose⟩ | ⟨-, -, rfl⟩
    · exact hcalled
    · exact hcalled.trans (BoltConnection.respects_close hclose)
    · exact hcalled
  exact records_set hentry (hrespects.quiet (hsilent c hentry))

/-- Destroying a pool none of whose connections has an error callback. -/
theorem destroy_records (hsilent : All (fun connection => connection.on_error_cb = false) pool)
    (hdestroy : pool.destroy = some pool') : pool'.records = pool.records := by
  unfold destroy at hdestroy
  generalize List.range pool.connections.length = indices at hdestroy
  induction indices generalizing pool with
  | nil =>
    obtain rfl := Option.some.inj hdestroy
    rfl
  | cons index indices ih =>
    rw [List.foldlM_cons] at hdestroy
    obtain ⟨closed, hclose, hrest⟩ := Option.bind_eq_some_iff.mp hdestroy
    obtain ⟨c, c', hentry, hcalls, rfl⟩ :=
      @closePoolEntry_calls pool closed index ⟨.create, [], []⟩ hclose
    have hrespects := BoltConnection.respects_poolCalls hcalls
    have hc := hsilent c (List.mem_of_getElem? hentry)
    rw [ih (hsilent.set (hrespects.on_error_cb.trans hc)) hrest]
    exact records_set hentry (hrespects.quiet hc)

end BoltDirectPool

/-! ## The stretches of code under the lock -/

namespace BoltRoutingPool

variable {τ : Type} {pool pool' : BoltRoutingPool} {held : List (τ × Handle)} {pointer index : Nat}
  {server : ServerPool} {direct : BoltDirectPool} {thread : τ} {handle : Handle}

/-- No callback is called if every direct pool that is there has the records of
before, and none was called while the others were destroyed. -/
theorem fired_nil (h : ∀ pointer server, pool.allocated.read pointer = some server →
      (∃ server', pool'.allocated.read pointer = some server' ∧
        server'.pool.records = server.pool.records) ∨
      pool'.allocated.read pointer = none ∧
        ∀ destroyed, server.pool.destroy = some destroyed →
          destroyed.records = server.pool.records) : pool.fired pool' = [] := by
  unfold fired
  apply List.flatMap_eq_nil_iff.mpr
  intro pointer _
  rcases hread : pool.allocated.read pointer with _ | server
  · rfl
  · rcases h pointer server hread with ⟨server', hread', hrecords⟩ | ⟨hread', hdestroyed⟩
    · rw [hread']
      exact BoltDirectPool.fired_of_records hrecords
    · rw [hread']
      show (server.pool.destroy.map server.pool.fired).getD [] = []
      rcases hdestroy : server.pool.destroy with _ | destroyed
      · rfl
      · exact BoltDirectPool.fired_of_records (hdestroyed destroyed hdestroy)

theorem fired_of_allocated (h : pool'.allocated = pool.allocated) : pool.fired pool' = [] := by
  apply fired_nil
  intro pointer server hread
  rw [h]
  exact .inl ⟨server, hread, rfl⟩

theorem fired_write (hread : pool.allocated.read pointer = some server)
    (hrecords : direct.records = server.pool.records) : pool.fired { pool with
      allocated := pool.allocated.write pointer { server with pool := direct } } = [] := by
  apply fired_nil
  intro other object hobject
  left
  dsimp only
  by_cases heq : pointer = other
  · subst heq
    rw [hread] at hobject
    obtain rfl := Option.some.inj hobject
    exact ⟨_, Heap.read_write_self (Heap.lt_of_read hread), hrecords⟩
  · rw [Heap.read_write_ne heq]
    exact ⟨object, hobject, rfl⟩

theorem fired_acquireFrom (h : Tenanted pool held) {surroundings : Surroundings} {routed : Routed}
    (hacquire : pool.acquireFrom index surroundings = some (routed, pool')) :
    pool.fired pool' = [] := by
  obtain ⟨pointer, -, hacquire⟩ := Option.bind_eq_some_iff.mp hacquire
  obtain ⟨server, direct, hread, hdirect, rfl⟩ := onServerPool_cases hacquire
  apply fired_write hread
  obtain ⟨⟨acquired, direct1⟩, hacquired, hresult⟩ := Option.bind_eq_some_iff.mp hdirect
  have hrecords := BoltDirectPool.acquire_records (h.kept pointer server hread) hacquired
  rcases acquired with ⟨_ | i, status⟩ | _
  · obtain ⟨-, rfl⟩ := Prod.mk.inj (Option.some.inj hresult)
    exact hrecords
  · obtain ⟨⟨done, direct2⟩, hset, hresult⟩ := Option.map_eq_some_iff.mp hresult
    obtain ⟨-, rfl⟩ := Prod.mk.inj hresult
    obtain ⟨c, c', hentry, hassigned, rfl⟩ := BoltDirectPool.onConnection_cases hset
    obtain ⟨-, rfl⟩ := Prod.mk.inj (Option.some.inj hassigned)
    rw [← hrecords]
    exact BoltDirectPool.records_set hentry rfl
  · obtain ⟨-, rfl⟩ := Prod.mk.inj (Option.some.inj hresult)
    exact hrecords

theorem fired_release (h : Tenanted pool held) {result : Int} (hheld : (thread, handle) ∈ held)
    (hrelease : pool.release (some handle) = some (result, pool')) : pool.fired pool' = [] := by
  obtain ⟨server, c, direct, recycled, hread, hentry, rfl, -, hrecycle, -, rfl⟩ :=
    h.release_cases hheld hrelease
  apply fired_write hread
  have hcleared := @BoltDirectPool.records_set server.pool handle.index c
    { c with on_error_cb := false } hentry rfl
  have hrecycled := BoltDirectPool.recycle_records (fun connection hconnection => by
    obtain ⟨hlt, -⟩ := List.getElem?_eq_some_iff.mp hentry
    dsimp only at hconnection
    rw [List.getElem?_set_self hlt] at hconnection
    rw [← Option.some.inj hconnection]) hrecycle
  exact hrecycled.trans hcleared

/-- None of the connections of an abandoned pool has an error callback. -/
theorem Tenanted.silent (h : Tenanted pool held) (hread : pool.allocated.read pointer = some server)
    (hcount : server.pool.in_use_count = 0) :
    server.pool.All fun connection => connection.on_error_cb = false := by
  intro connection hmem
  have howned := h.owned pointer server hread
  have hnone : server.pool.agents.count true = 0 := by
    have hflagged := howned.accounted.flagged
    dsimp only at hflagged
    omega
  have hfree : connection.agent ≠ true := by
    intro hused
    exact List.count_eq_zero.mp hnone (List.mem_map.mpr ⟨connection, hmem, hused⟩)
  exact (h.kept pointer server hread connection hmem).silent (Bool.eq_false_of_not_eq_true hfree)

theorem fired_cleanup (h : Tenanted pool held) (hcleanup : pool.cleanup = some pool') :
    pool.fired pool' = [] := by
  apply fired_nil
  intro pointer server hread
  rw [read_cleanup h.consistent hread hcleanup]
  split_ifs with habandoned
  · refine .inr ⟨rfl, fun destroyed hdestroy => ?_⟩
    exact BoltDirectPool.destroy_records (h.silent hread habandoned.2) hdestroy
  · exact .inl ⟨server, rfl, rfl⟩

theorem fired_refresh (h : Tenanted pool held) {mode : BoltAccessMode} {now status : Int}
    {discovery : Option Announcement}
    (hrefresh : pool.refresh mode now discovery = some (status, pool')) :
    pool.fired pool' = [] := by
  unfold BoltRoutingPool.refresh at hrefresh
  split_ifs at hrefresh
  · cases discovery with
    | none =>
      simp only [updateRoutingTable] at hrefresh
      obtain ⟨-, rfl⟩ := Prod.mk.inj (Option.some.inj hrefresh)
      exact fired_of_allocated rfl
    | some announcement =>
      simp only [updateRoutingTable, if_true] at hrefresh
      obtain ⟨cleaned, hcleanup, hresult⟩ := Option.map_eq_some_iff.mp hrefresh
      obtain ⟨-, rfl⟩ := Prod.mk.inj hresult
      have hinstalled : Tenanted { pool with
          routing_table := pool.routing_table.install announcement now } held := h.congr rfl rfl rfl
      have hfired := fired_cleanup hinstalled hcleanup
      exact hfired
  · obtain ⟨-, rfl⟩ := Prod.mk.inj (Option.some.inj hrefresh)
    exact fired_of_allocated rfl

theorem fired_addServer (address : BoltAddress) : pool.fired (pool.addServer address).2 = [] := by
  unfold addServer
  split
  · exact fired_of_allocated rfl
  · apply fired_nil
    intro pointer server hread
    exact .inl ⟨server, Heap.read_alloc hread, rfl⟩

/-- The error handler does nothing, or it forgets a server or a writer. -/
theorem connectionErrorHandler_cases {status : BoltStatus} {calls : List Locks.Call}
    (h : pool.connectionErrorHandler handle status = some (calls, pool')) :
    calls = [] ∧ pool' = pool ∨
    calls = forgetCalls ∧
      ∃ address, pool' = pool.forgetServer address ∨ pool' = pool.forgetWriter address := by
  obtain ⟨server, -, h⟩ := Option.bind_eq_some_iff.mp h
  obtain ⟨connection, -, h⟩ := Option.bind_eq_some_iff.mp h
  obtain ⟨address, -, h⟩ := Option.map_eq_some_iff.mp h
  unfold handleConnectionError handleConnectionErrorByFailure handleConnectionErrorByCode at h
  split_ifs at h
  · obtain ⟨rfl, rfl⟩ := Prod.mk.inj h
    exact .inl ⟨rfl, rfl⟩
  · split at h
    · obtain ⟨rfl, rfl⟩ := Prod.mk.inj h
      exact .inl ⟨rfl, rfl⟩
    · split_ifs at h
      · obtain ⟨rfl, rfl⟩ := Prod.mk.inj h
        exact .inr ⟨rfl, address, .inr rfl⟩
      · obtain ⟨rfl, rfl⟩ := Prod.mk.inj h
        exact .inr ⟨rfl, address, .inr rfl⟩
      · obtain ⟨rfl, rfl⟩ := Prod.mk.inj h
        exact .inr ⟨rfl, address, .inl rfl⟩
      · obtain ⟨rfl, rfl⟩ := Prod.mk.inj h
        exact .inl ⟨rfl, rfl⟩
  · obtain ⟨rfl, rfl⟩ := Prod.mk.inj h
    exact .inr ⟨rfl, address, .inl rfl⟩
  · obtain ⟨rfl, rfl⟩ := Prod.mk.inj h
    exact .inl ⟨rfl, rfl⟩

/-- The calls of the error handler are in order, and it changes nothing but the
routing table. -/
theorem handleAll_cases (statuses : List BoltStatus) :
    ∀ {pool pool' : BoltRoutingPool} {calls : List Locks.Call},
      handleAll handle statuses pool = some (calls, pool') →
      Locks.follow .nothing calls = some .nothing ∧
        pool' = { pool with routing_table := pool'.routing_table } := by
  induction statuses with
  | nil =>
    intro pool pool' calls h
    obtain ⟨rfl, rfl⟩ := Prod.mk.inj (Option.some.inj h)
    exact ⟨rfl, rfl⟩
  | cons status statuses ih =>
    intro pool pool' calls h
    obtain ⟨⟨first, pool1⟩, hfirst, h⟩ := Option.bind_eq_some_iff.mp h
    obtain ⟨⟨more, pool2⟩, hmore, hresult⟩ := Option.map_eq_some_iff.mp h
    obtain ⟨rfl, rfl⟩ := Prod.mk.inj hresult
    have hcases := connectionErrorHandler_cases hfirst
    obtain ⟨hfollow, hpool2⟩ := ih hmore
    refine ⟨?_, ?_⟩
    · have hhandled : Locks.follow .nothing (.callback :: first) = some .nothing := by
        rcases hcases with ⟨rfl, -⟩ | ⟨rfl, -⟩
        · rfl
        · rfl
      rw [Locks.follow_append, hhandled]
      exact hfollow
    · have hpool1 : pool1 = { pool with routing_table := pool1.routing_table } := by
        rcases hcases with ⟨-, rfl⟩ | ⟨-, address, rfl | rfl⟩
        · rfl
        · rfl
        · rfl
      rw [hpool2, hpool1]

/-- The connection of a discovery, which is made for it and has no error
callback, calls none, whatever becomes of it. -/
theorem discovery_silent {operations : List Operation} {results : List Int}
    {connection : BoltConnection}
    (h : Runs.run BoltConnection.perform operations .create = some (results, connection)) :
    connection.on_error_calls = [] := by
  have hrespects := Runs.related_of_run (R := Respects) .refl (fun _ _ _ h h' => h.trans h')
    (fun _ _ _ _ hstep => BoltConnection.respects_perform hstep) operations h
  exact hrespects.quiet rfl

end BoltRoutingPool

/-! ## Turns -/

namespace Routing

open BoltRoutingPool (Tenanted)

variable {τ : Type} [DecidableEq τ] {routing routing' : Routing τ} {report : Report}
  {turn : RoutingTurn τ} {thread other : τ} {made : List Locks.Call}

/-- What a thread holds. -/
def holds (thread : τ) (routing : Routing τ) : Locks.Holding := (routing.stages thread).holding

/-- A thread is where it was, and reads if it has read. -/
structure SameFor (other : τ) (routing routing' : Routing τ) : Prop where
  stages : routing'.stages other = routing.stages other
  reading : other ∈ routing'.reading ↔ other ∈ routing.reading

theorem sameFor_goTo {stage : Stage} {pool : BoltRoutingPool} (hne : other ≠ thread) :
    SameFor other routing (routing.goTo thread stage pool) where
  stages := Function.update_of_ne hne _ _
  reading := by
    unfold goTo
    dsimp only
    split_ifs
    · simp [hne, List.mem_erase_of_ne hne]
    · exact List.mem_erase_of_ne hne

theorem sameFor_looked {mode : BoltAccessMode} {status : BoltStatus}
    {looked : BoltRoutingPool.Looked} {pool : BoltRoutingPool} (hne : other ≠ thread) :
    SameFor other routing (routing.looked thread mode status looked pool).2 := by
  rcases looked with _ | result | ⟨server, _ | index⟩
  all_goals exact sameFor_goTo hne

theorem sameFor_acquired {server : BoltAddress} {status : BoltStatus} {index : Nat}
    {routed : BoltRoutingPool.Routed} {pool : BoltRoutingPool} (hne : other ≠ thread) :
    SameFor other routing (routing.acquired thread server status index routed pool).2 := by
  have hidle : SameFor other routing (routing.goTo thread .idle pool) := sameFor_goTo hne
  rcases routed with ⟨_ | connection, final⟩ | _
  · exact hidle
  · exact ⟨hidle.stages, hidle.reading⟩
  · exact sameFor_goTo hne

/-- A turn is about one thread. -/
theorem sameFor_take (htake : take turn routing = some (report, routing'))
    (hne : other ≠ turn.thread) : SameFor other routing routing' := by
  cases turn with
  | call thread mode status =>
    simp only [take] at htake
    split at htake
    · obtain ⟨-, rfl⟩ := Prod.mk.inj (Option.some.inj htake)
      exact sameFor_goTo hne
    · cases htake
  | check thread now =>
    simp only [take] at htake
    split at htake
    · next mode status result _ =>
      obtain ⟨⟨looked, pool⟩, -, hresult⟩ := Option.map_eq_some_iff.mp htake
      have hrouting : (routing.looked thread mode status looked pool).2 = routing' :=
        congrArg Prod.snd hresult
      rw [← hrouting]
      exact sameFor_looked hne
    · cases htake
  | refresh thread locked now discovery =>
    simp only [take] at htake
    split at htake
    · split_ifs at htake
      · obtain ⟨⟨result, pool⟩, -, hresult⟩ := Option.map_eq_some_iff.mp htake
        obtain ⟨-, rfl⟩ := Prod.mk.inj hresult
        exact sameFor_goTo hne
      · obtain ⟨-, rfl⟩ := Prod.mk.inj (Option.some.inj htake)
        exact sameFor_goTo hne
    · cases htake
  | add thread locked =>
    simp only [take] at htake
    split at htake
    · split_ifs at htake
      all_goals
        obtain ⟨-, rfl⟩ := Prod.mk.inj (Option.some.inj htake)
        exact sameFor_goTo hne
    · cases htake
  | recheck thread =>
    simp only [take] at htake
    split at htake
    · obtain ⟨-, rfl⟩ := Prod.mk.inj (Option.some.inj htake)
      exact sameFor_goTo hne
    · obtain ⟨-, rfl⟩ := Prod.mk.inj (Option.some.inj htake)
      exact sameFor_goTo hne
    · cases htake
  | acquire thread surroundings =>
    simp only [take] at htake
    split at htake
    · next server status index waits _ =>
      obtain ⟨⟨routed, pool⟩, -, hresult⟩ := Option.map_eq_some_iff.mp htake
      have hrouting : (routing.acquired thread server status index routed pool).2 = routing' :=
        congrArg Prod.snd hresult
      rw [← hrouting]
      exact sameFor_acquired hne
    · cases htake
  | timeout thread =>
    simp only [take] at htake
    split at htake
    · have hrouting := congrArg Prod.snd (Option.some.inj htake)
      rw [← show _ = routing' from hrouting]
      exact sameFor_acquired hne
    · cases htake
  | release thread connection | use thread connection operation
  | assign thread connection access_mode =>
    simp only [take] at htake
    split_ifs at htake
    obtain ⟨⟨result, pool⟩, -, hresult⟩ := Option.map_eq_some_iff.mp htake
    obtain ⟨-, rfl⟩ := Prod.mk.inj hresult
    exact ⟨rfl, .rfl⟩
  | forgetServer thread server | forgetWriter thread server =>
    simp only [take] at htake
    split_ifs at htake
    obtain ⟨-, rfl⟩ := Prod.mk.inj (Option.some.inj htake)
    exact ⟨rfl, .rfl⟩

/-- The stage that a thread is in when it takes a turn. -/
theorem holds_of_take (htake : take turn routing = some (report, routing')) :
    holds turn.thread routing =
      match turn with
      | .acquire _ _ | .timeout _ => .reading
      | _ => .nothing := by
  cases turn with
  | call thread mode status | check thread now | refresh thread locked now discovery
  | add thread locked | recheck thread | acquire thread surroundings | timeout thread =>
    simp only [take] at htake
    split at htake
    all_goals first | cases htake | skip
    all_goals
      simp only [holds, RoutingTurn.thread, Stage.holding, Stage.reads, *]
      rfl
  | release thread connection | use thread connection operation
  | assign thread connection access_mode | forgetServer thread server
  | forgetWriter thread server =>
    simp only [take] at htake
    split_ifs at htake with hidle
    simp only [holds, RoutingTurn.thread, Stage.holding, hidle.1]
    rfl

/-- Only the use of a connection calls its error callback. -/
theorem fired_take (h : Tenanted routing.pool routing.held)
    (htake : take turn routing = some (report, routing'))
    (hturn : ∀ thread handle operation, turn ≠ .use thread handle operation) :
    routing.pool.fired routing'.pool = [] := by
  have hsame := @BoltRoutingPool.fired_of_allocated routing.pool routing'.pool
  have halters := alters_take htake
  cases turn with
  | call thread mode status | recheck thread | timeout thread =>
    exact hsame (congrArg BoltRoutingPool.allocated halters)
  | forgetServer thread server =>
    rw [show routing'.pool = routing.pool.forgetServer server from halters]
    exact BoltRoutingPool.fired_of_allocated rfl
  | forgetWriter thread server =>
    rw [show routing'.pool = routing.pool.forgetWriter server from halters]
    exact BoltRoutingPool.fired_of_allocated rfl
  | check thread now =>
    obtain ⟨mode, result, looked, hlook⟩ := halters
    exact hsame (BoltRoutingPool.look_cases hlook).1
  | refresh thread locked now discovery =>
    rcases halters with hpool | ⟨mode, result, hrefresh⟩
    · exact hsame (congrArg BoltRoutingPool.allocated hpool)
    · exact BoltRoutingPool.fired_refresh h hrefresh
  | add thread locked =>
    rcases halters with hpool | ⟨server, hadd⟩
    · exact hsame (congrArg BoltRoutingPool.allocated hpool)
    · rw [hadd]
      exact BoltRoutingPool.fired_addServer server
  | acquire thread surroundings =>
    obtain ⟨index, routed, hacquire⟩ := halters
    exact BoltRoutingPool.fired_acquireFrom h hacquire
  | release thread connection =>
    obtain ⟨hheld, result, hrelease⟩ := halters
    exact BoltRoutingPool.fired_release h hheld hrelease
  | use thread connection operation => exact absurd rfl (hturn thread connection operation)
  | assign thread connection access_mode =>
    obtain ⟨-, result, hwork⟩ := halters
    obtain ⟨server, direct, hread, hdirect, hpool⟩ := BoltRoutingPool.onServerPool_cases hwork
    obtain ⟨c, c', hentry, hassign, rfl⟩ := BoltDirectPool.onConnection_cases hdirect
    obtain ⟨-, rfl⟩ := Prod.mk.inj (Option.some.inj hassign)
    rw [hpool]
    exact BoltRoutingPool.fired_write hread (BoltDirectPool.records_set hentry rfl)

/-- A turn with its calls is a turn, after which the error handler may change the
routing table. -/
theorem attend_cases (h : attend turn routing = some ((report, made), routing')) :
    ∃ routing1, take turn routing = some (report, routing1) ∧
      routing' = { routing1 with
        pool := { routing1.pool with routing_table := routing'.pool.routing_table } } ∧
      ((∀ thread handle operation, turn ≠ .use thread handle operation) ∧
          routing' = routing1 ∧ made = calls turn report routing routing1 ∨
        ∃ thread handle operation, turn = .use thread handle operation ∧
          BoltRoutingPool.handleAll handle (routing.pool.fired routing1.pool) routing1.pool =
            some (made, routing'.pool)) := by
  obtain ⟨⟨report1, routing1⟩, htake, hattend⟩ := Option.bind_eq_some_iff.mp h
  cases turn with
  | use thread handle operation =>
    obtain ⟨⟨called, pool⟩, hhandled, hattend⟩ := Option.bind_eq_some_iff.mp hattend
    dsimp only at hattend
    split_ifs at hattend
    obtain ⟨hreport, rfl⟩ := Prod.mk.inj (Option.some.inj hattend)
    obtain ⟨rfl, rfl⟩ := Prod.mk.inj hreport
    refine ⟨routing1, htake, ?_, .inr ⟨thread, handle, operation, rfl, hhandled⟩⟩
    rw [← (BoltRoutingPool.handleAll_cases _ hhandled).2]
  | call thread mode status | check thread now | refresh thread locked now discovery
  | add thread locked | recheck thread | acquire thread surroundings | timeout thread
  | release thread connection | assign thread connection access_mode
  | forgetServer thread server | forgetWriter thread server =>
    obtain ⟨hreport, rfl⟩ := Prod.mk.inj (Option.some.inj hattend)
    obtain ⟨rfl, rfl⟩ := Prod.mk.inj hreport
    exact ⟨routing1, htake, rfl, .inl ⟨nofun, rfl, rfl⟩⟩

theorem tenanted_attend (h : Tenanted routing.pool routing.held) (hproper : turn.Proper)
    (hattend : attend turn routing = some ((report, made), routing')) :
    Tenanted routing'.pool routing'.held := by
  obtain ⟨routing1, htake, hsame, -⟩ := attend_cases hattend
  rw [hsame]
  exact (upheld_take turn h hproper htake).2.congr rfl rfl rfl

theorem holds_goTo {stage : Stage} {pool : BoltRoutingPool} :
    holds thread (routing.goTo thread stage pool) = stage.holding := by
  show (Function.update routing.stages thread stage thread).holding = _
  rw [Function.update_self]

/-- A thread that keeps the read lock goes on with a server. -/
theorem follow_looked {mode : BoltAccessMode} {status : BoltStatus}
    {looked : BoltRoutingPool.Looked} {pool : BoltRoutingPool} :
    Locks.follow .reading (lookedCalls looked) =
      some (holds thread (routing.looked thread mode status looked pool).2) := by
  rcases looked with _ | result | ⟨server, _ | index⟩
  all_goals
    simp only [Routing.looked, fails, holds_goTo]
    rfl

theorem follow_acquired {server : BoltAddress} {status : BoltStatus} {index : Nat}
    {routed : BoltRoutingPool.Routed} {pool : BoltRoutingPool} :
    Locks.follow .reading (acquiredCalls routed) =
      some (holds thread (routing.acquired thread server status index routed pool).2) := by
  have hidle : holds thread (routing.goTo thread .idle pool) = .nothing := holds_goTo
  have hwaits : holds thread (routing.goTo thread (.ensured server status index true) pool) =
      .reading := holds_goTo
  rcases routed with ⟨_ | connection, final⟩ | _
  · exact congrArg some hidle.symm
  · exact congrArg some hidle.symm
  · exact congrArg some hwaits.symm

/-- The calls of a turn in which no callback is called. -/
theorem follow_calls (htake : take turn routing = some (report, routing'))
    (hfired : routing.pool.fired routing'.pool = [])
    (hturn : ∀ thread handle operation, turn ≠ .use thread handle operation) :
    Locks.follow (holds turn.thread routing) (calls turn report routing routing') =
      some (holds turn.thread routing') := by
  rw [holds_of_take htake]
  cases turn with
  | call thread mode status =>
    simp only [take] at htake
    split at htake
    · obtain ⟨-, rfl⟩ := Prod.mk.inj (Option.some.inj htake)
      rw [RoutingTurn.thread, holds_goTo]
      rfl
    · cases htake
  | check thread now =>
    simp only [take] at htake
    split at htake
    · next mode status result hstage =>
      obtain ⟨⟨looked, pool⟩, hlook, hresult⟩ := Option.map_eq_some_iff.mp htake
      have hrouting : (routing.looked thread mode status looked pool).2 = routing' :=
        congrArg Prod.snd hresult
      simp only [calls, hstage, hfired, hlook, List.map_nil, Option.elim_some]
      rw [← hrouting]
      exact follow_looked
    · cases htake
  | recheck thread =>
    simp only [take] at htake
    split at htake
    · next server status index hstage =>
      obtain ⟨-, rfl⟩ := Prod.mk.inj (Option.some.inj htake)
      simp only [calls, hstage, hfired, List.map_nil, RoutingTurn.thread, holds_goTo]
      rfl
    · next server status hstage =>
      obtain ⟨-, rfl⟩ := Prod.mk.inj (Option.some.inj htake)
      simp only [calls, hstage, hfired, List.map_nil, RoutingTurn.thread, holds_goTo]
      rfl
    · cases htake
  | acquire thread surroundings =>
    simp only [take] at htake
    split at htake
    · next server status index waits hstage =>
      obtain ⟨⟨routed, pool⟩, -, hresult⟩ := Option.map_eq_some_iff.mp htake
      have hrouting : (routing.acquired thread server status index routed pool).2 = routing' :=
        congrArg Prod.snd hresult
      obtain rfl : .acquired routed = report := congrArg Prod.fst hresult
      simp only [calls, hfired, List.map_nil, List.nil_append]
      rw [← hrouting]
      exact follow_acquired
    · cases htake
  | timeout thread =>
    simp only [take] at htake
    split at htake
    · next server status index hstage =>
      have htimedOut := Option.some.inj htake
      have hrouting := congrArg Prod.snd htimedOut
      obtain rfl : .acquired (.returned none ⟨.disconnected, BOLT_POOL_ACQUISITION_TIMED_OUT⟩) =
        report := congrArg Prod.fst htimedOut
      simp only [calls, hfired, List.map_nil, List.nil_append]
      rw [← show _ = routing' from hrouting]
      exact follow_acquired
    · cases htake
  | refresh thread locked now discovery =>
    simp only [take] at htake
    split at htake
    · split_ifs at htake with hlocked
      · obtain ⟨⟨result, pool⟩, -, hresult⟩ := Option.map_eq_some_iff.mp htake
        obtain ⟨-, rfl⟩ := Prod.mk.inj hresult
        simp only [calls, hfired, List.map_nil, RoutingTurn.thread, holds_goTo, if_pos hlocked]
        rfl
      · obtain ⟨-, rfl⟩ := Prod.mk.inj (Option.some.inj htake)
        simp only [calls, RoutingTurn.thread, holds_goTo, if_neg hlocked]
        rfl
    · cases htake
  | add thread locked =>
    simp only [take] at htake
    split at htake
    · split_ifs at htake with hlocked
      · obtain ⟨-, rfl⟩ := Prod.mk.inj (Option.some.inj htake)
        simp only [calls, hfired, List.map_nil, RoutingTurn.thread, holds_goTo, if_pos hlocked]
        rfl
      · obtain ⟨-, rfl⟩ := Prod.mk.inj (Option.some.inj htake)
        simp only [calls, RoutingTurn.thread, holds_goTo, if_neg hlocked]
        rfl
    · cases htake
  | release thread connection | assign thread connection access_mode =>
    have hholds := holds_of_take htake
    simp only [take] at htake
    split_ifs at htake
    obtain ⟨⟨result, pool⟩, -, hresult⟩ := Option.map_eq_some_iff.mp htake
    obtain ⟨-, rfl⟩ := Prod.mk.inj hresult
    simp only [calls, hfired, List.map_nil]
    exact congrArg some hholds.symm
  | forgetServer thread server | forgetWriter thread server =>
    have hholds := holds_of_take htake
    simp only [take] at htake
    split_ifs at htake
    obtain ⟨-, rfl⟩ := Prod.mk.inj (Option.some.inj htake)
    exact congrArg some hholds.symm
  | use thread connection operation => exact absurd rfl (hturn thread connection operation)

/-- The calls of a turn are in order. -/
theorem follow_attend (h : Tenanted routing.pool routing.held)
    (hattend : attend turn routing = some ((report, made), routing')) :
    Locks.follow (holds turn.thread routing) made = some (holds turn.thread routing') ∧
      ∀ other ≠ turn.thread, holds other routing' = holds other routing := by
  obtain ⟨routing1, htake, hsame, hcase⟩ := attend_cases hattend
  have hstages : routing'.stages = routing1.stages := by rw [hsame]
  refine ⟨?_, ?_⟩
  · have hholds : holds turn.thread routing' = holds turn.thread routing1 := by
      rw [holds, holds, hstages]
    rw [hholds]
    rcases hcase with ⟨hturn, -, rfl⟩ | ⟨thread, handle, operation, rfl, hhandled⟩
    · exact follow_calls htake (fired_take h htake hturn) hturn
    · have hidle : holds thread routing1 = holds thread routing := by
        simp only [take] at htake
        split_ifs at htake
        obtain ⟨⟨result, pool⟩, -, hresult⟩ := Option.map_eq_some_iff.mp htake
        obtain ⟨-, rfl⟩ := Prod.mk.inj hresult
        rfl
      have hnothing : holds thread routing = .nothing := holds_of_take htake
      show Locks.follow (holds thread routing) made = some (holds thread routing1)
      rw [hidle, hnothing]
      exact (BoltRoutingPool.handleAll_cases _ hhandled).1
  · intro other hne
    rw [holds, holds, hstages, (sameFor_take htake hne).stages]

/-! ## Every run -/

/-- A connection that nobody holds has no error callback. -/
def Silent (routing : Routing τ) : Prop :=
  ∀ pointer server index connection, routing.pool.allocated.read pointer = some server →
    server.pool.connections[index]? = some connection →
    (∀ thread, (thread, (⟨pointer, index⟩ : Handle)) ∉ routing.held) →
      connection.on_error_cb = false

omit [DecidableEq τ] in
theorem silent_of_tenanted (h : Tenanted routing.pool routing.held) : Silent routing := by
  intro pointer server index connection hread hentry hnobody
  apply (h.kept pointer server hread connection (List.mem_of_getElem? hentry)).silent
  by_contra hused
  have hlent : server.pool.agents[index]? = some true := by
    rw [BoltDirectPool.agents, List.getElem?_map, hentry, Option.map_some,
      Bool.eq_true_of_not_eq_false hused]
  have hheld := (h.owned pointer server hread).leases.mem_of_lent hlent
  obtain ⟨⟨thread, i⟩, hmem, rfl⟩ := List.mem_map.mp hheld
  exact hnobody thread (BoltRoutingPool.mem_heldFrom.mp hmem)

/-- Whatever the threads do with a new pool, the calls of each thread are in
order: it takes the lock only when it does not hold it and gives it back once, it
holds nothing when no call of `BoltRoutingPool_acquire` is under way, and it
calls an error callback only when it holds nothing.  A connection that is not
handed out has none. -/
theorem follow_run (user_agent : List UInt8) (life_time acquisition_time : Int)
    (auth_token : BoltValue) (max_pool_size : Nat) (turns : List (RoutingTurn τ))
    (outputs : List (Report × List Locks.Call)) (routing : Routing τ)
    (hproper : ∀ turn ∈ turns, turn.Proper)
    (hrun : Runs.run attend turns (start (BoltRoutingPool.create user_agent life_time
      acquisition_time auth_token max_pool_size)) = some (outputs, routing)) :
    (∀ thread, Locks.follow .nothing
        (Locks.callsOf RoutingTurn.thread Prod.snd thread turns outputs) =
      some (routing.stages thread).holding) ∧
    Runs.Meets attend (fun _ _ _ routing => Silent routing) turns
      (start (BoltRoutingPool.create user_agent life_time acquisition_time auth_token
        max_pool_size)) := by
  have hstart : Tenanted (BoltRoutingPool.create user_agent life_time acquisition_time auth_token
      max_pool_size) ([] : List (τ × Handle)) := BoltRoutingPool.tenanted_create _ _ _ _ _
  have hstep : ∀ turn (s : Routing τ) output s', Tenanted s.pool s.held → turn.Proper →
      attend turn s = some (output, s') → Silent s' ∧ Tenanted s'.pool s'.held := by
    intro turn s output s' hs hturn hattend
    have hs' := tenanted_attend hs hturn hattend
    exact ⟨silent_of_tenanted hs', hs'⟩
  refine ⟨fun thread => ?_, ?_⟩
  · refine @Locks.follows_of_run _ _ _ _ _ attend RoutingTurn.Proper
      (fun routing => Tenanted routing.pool routing.held) RoutingTurn.thread Prod.snd holds ?_ turns
      (start _) outputs routing hstart hproper hrun thread
    intro turn s output s' hs hturn hattend
    exact ⟨tenanted_attend hs hturn hattend, follow_attend hs hattend⟩
  · refine Runs.meets_of_run hstep turns hstart ?_ hrun
    exact Runs.admissible_of_mem turns (fun turn hturn _ => hproper turn hturn) _

/-- A server that accepts one connection, and says nothing after that. -/
def acceptingOnce : Surroundings :=
  ⟨0, 0, { BoltConnection.answering (frames [chunksOf [0xB1, 0x70, 0xA0]]) with
    id := ascii "conn-0" }⟩

/-- A thread waits in vain for an answer, and releases the connection that is
lost. -/
def losing : List (RoutingTurn (Fin 1)) :=
  readingFrom ++ [.acquire 0 acceptingOnce, .use 0 ⟨0, 0⟩ (.fetch 0), .release 0 ⟨0, 0⟩]

theorem follow_run_losing :
    ∃ outputs routing, Runs.run attend losing
        (start (BoltRoutingPool.create (ascii "agent") 0 0 (.dictionary []) 1)) =
        some (outputs, routing) ∧
      outputs.flatMap Prod.snd =
        [.rdlock, .rdunlock, .wrlock true, .wrunlock, .rdlock, .rdunlock, .wrlock true, .wrunlock,
          .rdlock, .rdunlock, .callback, .wrlock true, .wrunlock, .rdlock, .rdunlock] ∧
      (∀ thread, Locks.follow .nothing
          (Locks.callsOf RoutingTurn.thread Prod.snd thread losing outputs) =
        some (routing.stages thread).holding) ∧
      Runs.Meets attend (fun _ _ _ routing => Silent routing) losing
        (start (BoltRoutingPool.create (ascii "agent") 0 0 (.dictionary []) 1)) := by
  have houtputs : (Runs.run attend losing
      (start (BoltRoutingPool.create (ascii "agent") 0 0 (.dictionary []) 1))).map
        (fun result => result.1.flatMap Prod.snd) =
      some [.rdlock, .rdunlock, .wrlock true, .wrunlock, .rdlock, .rdunlock, .wrlock true, .wrunlock,
        .rdlock, .rdunlock, .callback, .wrlock true, .wrunlock, .rdlock, .rdunlock] := by
    decide +kernel
  obtain ⟨⟨outputs, routing⟩, hrun, hcalls⟩ := Option.map_eq_some_iff.mp houtputs
  have hproper : ∀ turn ∈ losing, turn.Proper := by decide
  exact ⟨outputs, routing, hrun, hcalls, follow_run _ _ _ _ _ losing outputs routing hproper hrun⟩

end Routing

end Seabolt
