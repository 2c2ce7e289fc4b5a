import Seabolt.Callbacks
import Seabolt.Lib.Contention
import Seabolt.Wakeups

/-!
# Waiting under the read lock of a routing pool

`BoltRoutingPool_acquire` holds the read lock of the pool while
`BoltDirectPool_acquire` waits for a connection that is released.  The thread
that would release it may have to call the error callback of the connection
first, which takes the write lock, and so it waits for the reader.

Here an error callback that needs the write lock is pending until nobody reads,
and a thread that asks for the read lock may be queued behind it.
-/

namespace Seabolt

/-- The statuses for which the error callback of a connection takes the write
lock. -/
def BoltRoutingPool.forgetting (handle : Handle) (statuses : List BoltStatus)
    (pool : BoltRoutingPool) : List BoltStatus :=
  statuses.filter fun status =>
    (pool.connectionErrorHandler handle status).any fun (calls, _) => calls ≠ []

/-- The direct pool whose `released_cond` a thread waits on, given the direct
pools of the servers. -/
def Stage.waitsFor (server_pools : List Nat) : Stage → Option Nat
  | ensured _ _ index true => server_pools[index]?
  | _ => none

/-- Whether the next stretch of code of a thread begins with the read lock.  A
thread that is not in `BoltRoutingPool_acquire` may release a connection. -/
def Stage.asksToRead : Stage → Bool
  | idle | checking .. | added .. => true
  | refreshing .. | adding .. | ensured .. => false

/-- A section of an acquisition does not wait: waiting is switched off, or there
is a connection that is not in use. -/
def BoltDirectPool.Hurries (surroundings : Surroundings) (pool : BoltDirectPool) : Prop :=
  pool.max_connection_acquisition_time ≤ 0 ∨ 0 < pool.free ∧ pool.Foreign surroundings

instance (surroundings : Surroundings) (pool : BoltDirectPool) :
    Decidable (pool.Hurries surroundings) :=
  inferInstanceAs (Decidable (_ ∨ _ ∧ _))

/-- The threads that share a routing pool, those of the waiting ones that have
been woken, the error callbacks that need the write lock, and the threads that
are queued for the read lock behind them. -/
structure Contending (τ : Type) where
  routing : Routing τ
  woken : List τ
  pending : List (τ × Handle × BoltStatus)
  queued : List τ

namespace Contending

open BoltRoutingPool (Tenanted)

variable {τ : Type} [DecidableEq τ]

/-- What can happen: a thread takes its turn, and if it signals the scheduler
picks the thread that wakes; a thread wakes without a signal; an error callback
gets the write lock; or a thread is queued for the read lock. -/
inductive Event (τ : Type) where
  | turn (turn : RoutingTurn τ) (pick : Nat)
  | spurious (thread : τ)
  | proceed (thread : τ)
  | queue (thread : τ)

/-- A pool that nobody uses. -/
def start (pool : BoltRoutingPool) : Contending τ := ⟨Routing.start pool, [], [], []⟩

/-- A thread holds the read lock and waits on the `released_cond` of a direct
pool. -/
def Waits (contending : Contending τ) (thread : τ) (pointer : Nat) : Prop :=
  thread ∈ contending.routing.reading ∧
    (contending.routing.stages thread).waitsFor contending.routing.pool.server_pools =
      some pointer ∧ thread ∉ contending.woken

/-- A thread holds a connection of a direct pool. -/
def Holds (contending : Contending τ) (thread : τ) (pointer : Nat) : Prop :=
  ∃ holding ∈ contending.routing.held, holding.1 = thread ∧ holding.2.pool = pointer

/-- A thread requests the write lock in an error callback, or the read lock
behind such a writer. -/
def Blocked (contending : Contending τ) (thread : τ) : Prop :=
  thread ∈ contending.pending.map Prod.fst ∨ thread ∈ contending.queued

instance (contending : Contending τ) (thread : τ) (pointer : Nat) :
    Decidable (contending.Waits thread pointer) :=
  inferInstanceAs (Decidable (_ ∧ _ ∧ _))

instance (contending : Contending τ) (thread : τ) (pointer : Nat) :
    Decidable (contending.Holds thread pointer) :=
  inferInstanceAs (Decidable (∃ holding ∈ _, _))

instance (contending : Contending τ) (thread : τ) : Decidable (contending.Blocked thread) :=
  inferInstanceAs (Decidable (_ ∨ _))

/-- A thread waits for a connection of a direct pool under the read lock, while
every thread that holds one is blocked. -/
def Stuck (contending : Contending τ) : Prop :=
  Contention.Stuck contending.Waits contending.Holds contending.Blocked

/-- The threads that a signal of `released_cond` may wake. -/
def waiters (contending : Contending τ) (pointer : Nat) : List τ :=
  contending.routing.reading.filter fun thread => contending.Waits thread pointer

/-- A thread that waits in a direct pool takes its next turn when it has been
woken, and gives up when it has not.  A blocked thread takes none. -/
def due (contending : Contending τ) (turn : RoutingTurn τ) : Bool :=
  decide (¬contending.Blocked turn.thread) &&
    match turn, contending.routing.stages turn.thread with
    | .acquire thread _, .ensured _ _ _ true => thread ∈ contending.woken
    | .timeout thread, _ => thread ∉ contending.woken
    | _, _ => true

/-- Who is woken after a turn.  A release that has found its connection signals
the condition. -/
def wokenBy (pick : Nat) (turn : RoutingTurn τ) (report : Report) (contending : Contending τ) :
    List τ :=
  match turn, report with
  | .acquire thread _, _ => contending.woken.erase thread
  | .release _ handle, .released index =>
    if index ≥ 0 then
      Signals.signal pick (contending.waiters handle.pool) ++ contending.woken
    else contending.woken
  | _, _ => contending.woken

/-- The error callbacks that need the write lock after a turn. -/
def pendingAfter (turn : RoutingTurn τ) (routing' : Routing τ) (contending : Contending τ) :
    List (τ × Handle × BoltStatus) :=
  match turn with
  | .use thread handle _ =>
    let fired := contending.routing.pool.fired routing'.pool
    contending.pending ++
      (routing'.pool.forgetting handle fired).map fun status => (thread, handle, status)
  | _ => contending.pending

/-- An event, if it can happen.  When a writer is done, those that are queued
behind it ask again. -/
def step : Runs.Step (Event τ) (Contending τ) (Option Report)
  | .turn turn pick, contending =>
    if contending.due turn then
      (Routing.take turn contending.routing).map fun (report, routing) =>
        (some report, ⟨routing, contending.wokenBy pick turn report,
          contending.pendingAfter turn routing, contending.queued⟩)
    else none
  | .spurious thread, contending =>
    match contending.routing.stages thread with
    | .ensured _ _ _ true =>
      if thread ∈ contending.woken then none
      else some (none, { contending with woken := thread :: contending.woken })
    | _ => none
  | .proceed thread, contending =>
    match contending.pending.find? (fun call => call.1 = thread) with
    | some (_, handle, status) =>
      if contending.routing.reading = [] then
        (contending.routing.pool.connectionErrorHandler handle status).map fun (_, pool) =>
          (none, { contending with
            routing := { contending.routing with pool := pool }
            pending := contending.pending.eraseP fun call => call.1 = thread
            queued := [] })
      else none
    | none => none
  | .queue thread, contending =>
    if contending.pending ≠ [] ∧ ¬contending.Blocked thread ∧
        (contending.routing.stages thread).asksToRead = true then
      some (none, { contending with queued := thread :: contending.queued })
    else none

/-! ## Who is left to give a connection back -/

/-- An event is about the inputs that users and systems give. -/
def Event.Proper : Event τ → Prop
  | .turn taken _ => taken.Proper
  | _ => True

instance : ∀ event : Event τ, Decidable event.Proper
  | .turn turn _ => inferInstanceAs (Decidable turn.Proper)
  | .spurious _ | .proceed _ | .queue _ => .isTrue trivial

/-- If any of these connections is of the direct pool, then one is that a thread
holds which is not blocked. -/
def ServedBy (contending : Contending τ) (held : List (τ × Handle)) (pointer : Nat) : Prop :=
  (∃ holding ∈ held, holding.2.pool = pointer) →
    ∃ holding ∈ held, holding.2.pool = pointer ∧ ¬contending.Blocked holding.1

/-- Where threads wait for what a thread holds, another thread that is not
blocked holds a connection too. -/
def Dispensable (contending : Contending τ) (thread : τ) : Prop :=
  ∀ holding ∈ contending.routing.held, holding.1 = thread →
    contending.waiters holding.2.pool ≠ [] →
      ∃ other ∈ contending.routing.held, other.2.pool = holding.2.pool ∧ other.1 ≠ thread ∧
        ¬contending.Blocked other.1

/-- An operation on a connection ends in an error for which its error callback
takes the write lock. -/
def Alarms (contending : Contending τ) (handle : Handle) (operation : Operation) : Prop :=
  ∃ done ∈ contending.routing.pool.onHandle handle (BoltConnection.perform operation),
    done.2.forgetting handle (contending.routing.pool.fired done.2) ≠ []

/-- Nobody begins to wait for what blocked threads hold, nobody whose connections
are waited for blocks without another one to release its own, and a release with
several waiting threads leaves such a one behind. -/
def Heeds : Event τ → Contending τ → Prop
  | .turn (.acquire thread surroundings) _, contending =>
    ∀ target ∈ (contending.routing.stages thread).target,
      ∀ pointer ∈ contending.routing.pool.server_pools[target.2]?,
        contending.ServedBy contending.routing.held pointer ∨
          ∀ server ∈ contending.routing.pool.allocated.read pointer,
            server.pool.Hurries surroundings
  | .turn (.use thread handle operation) _, contending =>
    contending.Alarms handle operation → contending.Dispensable thread
  | .turn (.release thread handle) _, contending =>
    (contending.waiters handle.pool).length ≤ 1 ∨
      contending.ServedBy (contending.routing.held.erase (thread, handle)) handle.pool
  | .queue thread, contending => contending.Dispensable thread
  | _, _ => True

instance (contending : Contending τ) (held : List (τ × Handle)) (pointer : Nat) :
    Decidable (contending.ServedBy held pointer) :=
  inferInstanceAs (Decidable ((∃ holding ∈ held, _) → ∃ holding ∈ held, _))

instance (contending : Contending τ) (thread : τ) : Decidable (contending.Dispensable thread) :=
  inferInstanceAs (Decidable (∀ holding ∈ contending.routing.held, _))

instance (contending : Contending τ) (handle : Handle) (operation : Operation) :
    Decidable (contending.Alarms handle operation) :=
  decidable_of_iff
    ((contending.routing.pool.onHandle handle (BoltConnection.perform operation)).any
      fun done => done.2.forgetting handle (contending.routing.pool.fired done.2) ≠ []) (by
    simp [Alarms, Option.any_eq_true])

instance : ∀ (event : Event τ) (contending : Contending τ), Decidable (Heeds event contending)
  | .turn (.acquire _ surroundings) _, contending =>
    inferInstanceAs (Decidable (∀ target ∈ _, ∀ pointer ∈ _, _ ∨
      ∀ server ∈ contending.routing.pool.allocated.read pointer,
        server.pool.Hurries surroundings))
  | .turn (.use _ _ _) _, _ => inferInstanceAs (Decidable (_ → _))
  | .turn (.release _ _) _, _ => inferInstanceAs (Decidable (_ ∨ _))
  | .queue _, _ => inferInstanceAs (Decidable (Dispensable _ _))
  | .turn (.call ..) _, _ | .turn (.check ..) _, _ | .turn (.refresh ..) _, _
  | .turn (.add ..) _, _ | .turn (.recheck _) _, _ | .turn (.timeout _) _, _
  | .turn (.forgetServer ..) _, _ | .turn (.forgetWriter ..) _, _ | .turn (.assign ..) _, _
  | .spurious _, _ | .proceed _, _ => .isTrue trivial

end Contending

/-! ## What a turn does to the threads that wait -/

namespace BoltDirectPool

variable {pool pool' : BoltDirectPool} {surroundings : Surroundings}

theorem acquisition_time_acquire {acquired : Acquired}
    (h : pool.acquire surroundings = some (acquired, pool')) :
    pool'.max_connection_acquisition_time = pool.max_connection_acquisition_time := by
  rcases acquire_calls h with
    ⟨rfl, -⟩ | ⟨i, c, c', -, -, -, ⟨-, -, rfl⟩ | ⟨-, rfl⟩⟩
  all_goals rfl

/-- A section that hurries does not wait. -/
theorem not_waits_of_hurries (hfree : (pool.free : Int) = pool.max_size - pool.in_use_count)
    (hhurries : pool.Hurries surroundings) :
    pool.acquire surroundings ≠ some (.waits, pool') := by
  intro h
  rcases hhurries with htime | ⟨hsome, hforeign⟩
  · have hsame := acquisition_time_acquire h
    have hwaits : 0 < pool'.max_connection_acquisition_time := by
      rcases acquire_inv h with ⟨-, hwaits⟩ | ⟨i, pool1, pool2, pool_error, connection, -, -, -, hround⟩
      · unfold withoutConnection at hwaits
        split_ifs at hwaits with hfull
        exact hfull.2
      · rcases hround with ⟨-, hreturned, -⟩ | ⟨-, rfl, hwaits⟩
        · cases hreturned
        · unfold withoutConnection at hwaits
          split_ifs at hwaits with hmore hfull hfull
          · exact hfull.2
          · exact hfull.2
    omega
  · have hnone := free_of_waits hfree hforeign h
    omega

end BoltDirectPool

/-- A thread waits in the direct pool that it has asked. -/
theorem BoltRoutingPool.acquireFrom_waits {pool pool' : BoltRoutingPool} {index : Nat}
    {surroundings : Surroundings} (h : pool.acquireFrom index surroundings = some (.waits, pool')) :
    ∃ (pointer : Nat) (server : ServerPool) (direct : BoltDirectPool),
      pool.server_pools[index]? = some pointer ∧ pool.allocated.read pointer = some server ∧
      server.pool.acquire surroundings = some (.waits, direct) := by
  obtain ⟨pointer, hpointer, h⟩ := Option.bind_eq_some_iff.mp h
  obtain ⟨server, direct, hread, hdirect, -⟩ := onServerPool_cases h
  obtain ⟨⟨acquired, direct1⟩, hacquired, hresult⟩ := Option.bind_eq_some_iff.mp hdirect
  refine ⟨pointer, server, direct1, hpointer, hread, ?_⟩
  rcases acquired with ⟨_ | i, final⟩ | _
  · cases hresult
  · obtain ⟨done, -, hreturned⟩ := Option.map_eq_some_iff.mp hresult
    cases (Prod.mk.inj hreturned).1
  · exact hacquired

namespace Routing

variable {τ : Type} [DecidableEq τ] {routing routing' : Routing τ} {report : Report}
  {turn : RoutingTurn τ} {thread other : τ} {server_pools : List Nat}

theorem waitsFor_goTo {stage : Stage} {pool : BoltRoutingPool} :
    ((routing.goTo thread stage pool).stages thread).waitsFor server_pools =
      stage.waitsFor server_pools := by
  show (Function.update routing.stages thread stage thread).waitsFor server_pools = _
  rw [Function.update_self]

theorem waitsFor_acquired {server : BoltAddress} {status : BoltStatus} {index : Nat}
    {routed : BoltRoutingPool.Routed} {pool : BoltRoutingPool} :
    ((routing.acquired thread server status index routed pool).2.stages thread).waitsFor
        server_pools =
      match routed with
      | .waits => server_pools[index]?
      | .returned _ _ => none := by
  rcases routed with ⟨_ | connection, final⟩ | _
  · exact waitsFor_goTo
  · exact @waitsFor_goTo τ _ routing thread server_pools .idle pool
  · exact waitsFor_goTo

omit [DecidableEq τ] in
theorem waitsFor_idle (h : routing.stages thread = .idle) :
    (routing.stages thread).waitsFor server_pools = none := by
  rw [h]
  rfl

/-- Except in an acquisition, nobody waits after a turn of its own, and what is
held stays with its holders unless it is released. -/
theorem quiet_take (htake : take turn routing = some (report, routing'))
    (hturn : ∀ thread surroundings, turn ≠ .acquire thread surroundings) :
    (routing'.stages turn.thread).waitsFor server_pools = none ∧
      ((∀ thread handle, turn ≠ .release thread handle) → routing'.held = routing.held) := by
  cases turn with
  | acquire thread surroundings => exact absurd rfl (hturn thread surroundings)
  | call thread mode status =>
    simp only [take] at htake
    split at htake
    · obtain ⟨-, rfl⟩ := Prod.mk.inj (Option.some.inj htake)
      exact ⟨waitsFor_goTo, fun _ => rfl⟩
    · cases htake
  | check thread now =>
    simp only [take] at htake
    split at htake
    · next mode status result _ =>
      obtain ⟨⟨looked, pool⟩, -, hresult⟩ := Option.map_eq_some_iff.mp htake
      have hrouting : (routing.looked thread mode status looked pool).2 = routing' :=
        congrArg Prod.snd hresult
      rw [← hrouting]
      refine ⟨?_, fun _ => held_looked⟩
      rcases looked with _ | result | ⟨server, _ | index⟩
      all_goals exact waitsFor_goTo
    · cases htake
  | refresh thread locked now discovery =>
    simp only [take] at htake
    split at htake
    · split_ifs at htake
      · obtain ⟨⟨result, pool⟩, -, hresult⟩ := Option.map_eq_some_iff.mp htake
        obtain ⟨-, rfl⟩ := Prod.mk.inj hresult
        exact ⟨waitsFor_goTo, fun _ => rfl⟩
      · obtain ⟨-, rfl⟩ := Prod.mk.inj (Option.some.inj htake)
        exact ⟨waitsFor_goTo, fun _ => rfl⟩
    · cases htake
  | add thread locked =>
    simp only [take] at htake
    split at htake
    · split_ifs at htake
      all_goals
        obtain ⟨-, rfl⟩ := Prod.mk.inj (Option.some.inj htake)
        exact ⟨waitsFor_goTo, fun _ => rfl⟩
    · cases htake
  | recheck thread =>
    simp only [take] at htake
    split at htake
    · obtain ⟨-, rfl⟩ := Prod.mk.inj (Option.some.inj htake)
      exact ⟨waitsFor_goTo, fun _ => rfl⟩
    · obtain ⟨-, rfl⟩ := Prod.mk.inj (Option.some.inj htake)
      exact ⟨waitsFor_goTo, fun _ => rfl⟩
    · cases htake
  | timeout thread =>
    simp only [take] at htake
    split at htake
    · obtain ⟨-, rfl⟩ := Prod.mk.inj (Option.some.inj htake)
      exact ⟨waitsFor_goTo, fun _ => rfl⟩
    · cases htake
  | release thread connection =>
    simp only [take] at htake
    split_ifs at htake with hmay
    obtain ⟨⟨result, pool⟩, -, hresult⟩ := Option.map_eq_some_iff.mp htake
    obtain ⟨-, rfl⟩ := Prod.mk.inj hresult
    exact ⟨waitsFor_idle hmay.1, fun hkeeps => absurd rfl (hkeeps thread connection)⟩
  | use thread connection operation | assign thread connection access_mode =>
    simp only [take] at htake
    split_ifs at htake with hmay
    obtain ⟨⟨result, pool⟩, -, hresult⟩ := Option.map_eq_some_iff.mp htake
    obtain ⟨-, rfl⟩ := Prod.mk.inj hresult
    exact ⟨waitsFor_idle hmay.1, fun _ => rfl⟩
  | forgetServer thread server | forgetWriter thread server =>
    simp only [take] at htake
    split_ifs at htake with hmay
    obtain ⟨-, rfl⟩ := Prod.mk.inj (Option.some.inj htake)
    exact ⟨waitsFor_idle hmay.1, fun _ => rfl⟩

/-- The direct pools of the servers change only when nobody reads. -/
theorem server_pools_take (htake : take turn routing = some (report, routing')) :
    routing'.pool.server_pools = routing.pool.server_pools ∨ routing.reading = [] := by
  have halters := alters_take htake
  cases turn with
  | call thread mode status | recheck thread | timeout thread =>
    exact .inl (congrArg BoltRoutingPool.server_pools halters)
  | check thread now =>
    obtain ⟨mode, result, looked, hlook⟩ := halters
    exact .inl (BoltRoutingPool.look_works hlook).server_pools
  | refresh thread locked now discovery =>
    simp only [take] at htake
    split at htake
    · split_ifs at htake with hlocked hreading
      · exact .inr hreading
      · obtain ⟨-, rfl⟩ := Prod.mk.inj (Option.some.inj htake)
        exact .inl rfl
    · cases htake
  | add thread locked =>
    simp only [take] at htake
    split at htake
    · split_ifs at htake with hlocked hreading
      · exact .inr hreading
      · obtain ⟨-, rfl⟩ := Prod.mk.inj (Option.some.inj htake)
        exact .inl rfl
    · cases htake
  | acquire thread surroundings =>
    obtain ⟨index, routed, hacquire⟩ := halters
    exact .inl (BoltRoutingPool.acquireFrom_works hacquire).server_pools
  | release thread connection =>
    obtain ⟨-, result, hrelease⟩ := halters
    exact .inl (BoltRoutingPool.release_works hrelease).server_pools
  | forgetServer thread server =>
    rw [show routing'.pool = routing.pool.forgetServer server from halters]
    exact .inl rfl
  | forgetWriter thread server =>
    rw [show routing'.pool = routing.pool.forgetWriter server from halters]
    exact .inl rfl
  | use thread connection operation | assign thread connection access_mode =>
    obtain ⟨-, result, hwork⟩ := halters
    exact .inl (BoltRoutingPool.onHandle_works hwork).server_pools

end Routing

/-! ## What keeps the waiting threads served -/

namespace Contending

open BoltRoutingPool (Tenanted)

variable {τ : Type} [DecidableEq τ] {contending contending' : Contending τ}
  {routing' : Routing τ} {turn : RoutingTurn τ} {report : Report} {reply : Option Report}
  {thread : τ} {handle : Handle} {pointer pick : Nat} {woken queued : List τ}
  {pending : List (τ × Handle × BoltStatus)}

/-- The direct pools keep their books, and whoever waits can be served. -/
structure Lively (contending : Contending τ) : Prop where
  tenanted : Tenanted contending.routing.pool contending.routing.held
  live : Contention.Live contending.Waits contending.Holds contending.Blocked

theorem mem_waiters : thread ∈ contending.waiters pointer ↔ contending.Waits thread pointer := by
  unfold waiters
  rw [List.mem_filter, decide_eq_true_iff]
  exact ⟨fun h => h.2, fun h => ⟨h.1, h⟩⟩

omit [DecidableEq τ] in
theorem served_iff :
    Contention.Served contending.Holds contending.Blocked pointer ↔
      contending.ServedBy contending.routing.held pointer := by
  constructor
  · rintro h ⟨holding, hmem, hpool⟩
    obtain ⟨thread, ⟨other, hother, rfl, hpool'⟩, hfree⟩ := h ⟨_, holding, hmem, rfl, hpool⟩
    exact ⟨other, hother, hpool', hfree⟩
  · rintro h ⟨thread, holding, hmem, -, hpool⟩
    obtain ⟨other, hother, hpool', hfree⟩ := h ⟨holding, hmem, hpool⟩
    exact ⟨_, ⟨other, hother, rfl, hpool'⟩, hfree⟩

/-- Nobody begins to wait but in an acquisition. -/
theorem waits_take (htake : Routing.take turn contending.routing = some (report, routing'))
    (hturn : ∀ thread surroundings, turn ≠ .acquire thread surroundings)
    (hwoken : contending.woken ⊆ woken)
    (h : (⟨routing', woken, pending, queued⟩ : Contending τ).Waits thread pointer) :
    contending.Waits thread pointer := by
  obtain ⟨hreading, hwaits, hasleep⟩ := h
  dsimp only at hreading hwaits hasleep
  by_cases heq : thread = turn.thread
  · rw [heq, (Routing.quiet_take htake hturn).1] at hwaits
    cases hwaits
  · have hsame := Routing.sameFor_take htake heq
    rcases Routing.server_pools_take htake with hpools | hnobody
    · rw [hsame.stages, hpools] at hwaits
      exact ⟨hsame.reading.mp hreading, hwaits, fun hold => hasleep (hwoken hold)⟩
    · rw [hsame.reading, hnobody] at hreading
      cases hreading

/-- The waiting thread that a section of an acquisition may leave. -/
theorem waits_acquired {server : BoltAddress} {status : BoltStatus} {index : Nat}
    {routed : BoltRoutingPool.Routed} {pool : BoltRoutingPool} {other : τ}
    (hpools : pool.server_pools = contending.routing.pool.server_pools)
    (h : (⟨(contending.routing.acquired thread server status index routed pool).2,
      contending.woken.erase thread, pending, queued⟩ : Contending τ).Waits other pointer) :
    contending.Waits other pointer ∨
      routed = .waits ∧ contending.routing.pool.server_pools[index]? = some pointer := by
  obtain ⟨hreading, hwaits, hasleep⟩ := h
  dsimp only at hreading hwaits hasleep
  rw [Routing.pool_acquired, hpools] at hwaits
  by_cases heq : other = thread
  · subst heq
    right
    rw [Routing.waitsFor_acquired] at hwaits
    rcases routed with ⟨caller, final⟩ | _
    · cases hwaits
    · exact ⟨rfl, hwaits⟩
  · have hsame : Routing.SameFor other contending.routing
        (contending.routing.acquired thread server status index routed pool).2 :=
      Routing.sameFor_acquired heq
    rw [hsame.stages] at hwaits
    left
    exact ⟨hsame.reading.mp hreading, hwaits, fun hold =>
      hasleep ((List.mem_erase_of_ne heq).mpr hold)⟩

/-- A section of an acquisition: the thread takes a connection, or it leaves, or
it waits and is served. -/
theorem live_acquire {surroundings : Surroundings} (h : Lively contending)
    (hheeds : Heeds (.turn (.acquire thread surroundings) pick) contending)
    (hfree : ¬contending.Blocked thread)
    (htake : Routing.take (.acquire thread surroundings) contending.routing =
      some (report, routing')) :
    Contention.Live
      (⟨routing', contending.woken.erase thread, contending.pending, contending.queued⟩ :
        Contending τ).Waits
      (⟨routing', woken, pending, queued⟩ : Contending τ).Holds contending.Blocked := by
  simp only [Routing.take] at htake
  split at htake
  · next server status index waits hstage =>
    obtain ⟨⟨routed, pool⟩, hacquire, hresult⟩ := Option.map_eq_some_iff.mp htake
    have hrouting : (contending.routing.acquired thread server status index routed pool).2 =
        routing' := congrArg Prod.snd hresult
    have hpools := (BoltRoutingPool.acquireFrom_works hacquire).server_pools
    rw [← hrouting]
    rcases routed with ⟨caller, final⟩ | _
    · have hleft : Contention.Live (⟨(contending.routing.acquired thread server status index
          (.returned caller final) pool).2, contending.woken.erase thread, contending.pending,
          contending.queued⟩ : Contending τ).Waits contending.Holds contending.Blocked :=
        h.live.leave fun other pointer hwaits =>
          (waits_acquired hpools hwaits).resolve_right fun hnew => by cases hnew.1
      rcases caller with _ | connection
      · exact hleft
      · apply hleft.take
        · rintro other pointer ⟨holding, hmem, hholding⟩
          exact ⟨holding, List.mem_cons_of_mem _ hmem, hholding⟩
        · rintro other pointer ⟨holding, hmem, rfl, hpool⟩
          rcases List.mem_cons.mp hmem with rfl | hold
          · exact .inr hfree
          · exact .inl ⟨holding, hold, rfl, hpool⟩
    · obtain ⟨pointer, entry, direct, hpointer, hread, hacquired⟩ :=
        BoltRoutingPool.acquireFrom_waits hacquire
      have htarget : (server, index) ∈ (contending.routing.stages thread).target := by
        rw [hstage]
        rfl
      have hserved : contending.ServedBy contending.routing.held pointer := by
        rcases hheeds _ htarget pointer hpointer with hserved | hhurries
        · exact hserved
        · have hbooks := Signalling.free_eq (h.tenanted.owned pointer entry hread)
          exact absurd hacquired
            (BoltDirectPool.not_waits_of_hurries hbooks (hhurries entry hread))
      refine h.live.wait (served_iff.mpr hserved) fun other resource hwaits => ?_
      rcases waits_acquired hpools hwaits with hbefore | ⟨-, hnew⟩
      · exact .inl hbefore
      · exact .inr (Option.some.inj (hnew.symm.trans hpointer))
  · cases htake

/-- A release: the thread that is woken waits no longer, and the others are
served. -/
theorem live_release (h : Lively contending)
    (hheeds : Heeds (.turn (.release thread handle) pick) contending)
    (htake : Routing.take (.release thread handle) contending.routing = some (report, routing')) :
    Contention.Live
      (⟨routing', contending.wokenBy pick (.release thread handle) report, contending.pending,
        contending.queued⟩ : Contending τ).Waits
      (⟨routing', woken, pending, queued⟩ : Contending τ).Holds contending.Blocked := by
  have hbegins : ∀ {woken'}, contending.woken ⊆ woken' → ∀ other pointer,
      (⟨routing', woken', contending.pending, contending.queued⟩ : Contending τ).Waits other pointer →
        contending.Waits other pointer :=
    fun hwoken other pointer hwaits => waits_take htake nofun hwoken hwaits
  simp only [Routing.take] at htake
  split_ifs at htake with hmay
  obtain ⟨⟨result, pool⟩, hrelease, hresult⟩ := Option.map_eq_some_iff.mp htake
  obtain ⟨rfl, rfl⟩ := Prod.mk.inj hresult
  obtain ⟨-, rfl⟩ := h.tenanted.release hmay.2 hrelease
  have hwoken : contending.wokenBy pick (.release thread handle) (.released handle.index) =
      Signals.signal pick (contending.waiters handle.pool) ++ contending.woken := by
    unfold wokenBy
    exact if_pos (Int.natCast_nonneg handle.index)
  rw [hwoken]
  have hsubset : contending.woken ⊆
      Signals.signal pick (contending.waiters handle.pool) ++ contending.woken :=
    List.subset_append_right _ _
  have hothers : ∀ other ≠ handle.pool, ∀ holder,
      (⟨⟨pool, contending.routing.stages, contending.routing.reading,
        contending.routing.held.erase (thread, handle)⟩, woken, pending, queued⟩ :
          Contending τ).Holds holder other ↔ contending.Holds holder other := by
    intro other hne holder
    constructor
    · rintro ⟨holding, hmem, hholding⟩
      exact ⟨holding, List.mem_of_mem_erase hmem, hholding⟩
    · rintro ⟨holding, hmem, hholder, hpool⟩
      have hnot : holding ≠ (thread, handle) := by
        rintro rfl
        exact hne hpool.symm
      exact ⟨holding, (List.mem_erase_of_ne hnot).mpr hmem, hholder, hpool⟩
  refine h.live.give hothers (hbegins hsubset) fun other hwaits => ?_
  rcases hheeds with hfew | hserved
  · have hmem := mem_waiters.mpr (hbegins hsubset other _ hwaits)
    have hone : Signals.signal pick (contending.waiters handle.pool) =
        contending.waiters handle.pool := by
      obtain ⟨only, honly⟩ : ∃ only, contending.waiters handle.pool = [only] := by
        apply List.length_eq_one_iff.mp
        have hpos := List.length_pos_of_mem hmem
        omega
      rw [honly]
      simp [Signals.signal, Nat.mod_one]
    exact absurd (List.mem_append_left _ (hone.symm ▸ hmem)) hwaits.2.2
  · rintro ⟨holder, holding, hmem, -, hpool⟩
    obtain ⟨served, hserving, hpool', hfree⟩ := hserved ⟨holding, hmem, hpool⟩
    exact ⟨_, ⟨served, hserving, rfl, hpool'⟩, hfree⟩

/-- A thread that blocks is dispensable. -/
theorem live_block {blocked' : τ → Prop} (h : Lively contending)
    (hdispensable : contending.Dispensable thread)
    (hblocked : ∀ other, blocked' other → contending.Blocked other ∨ other = thread) :
    Contention.Live contending.Waits contending.Holds blocked' := by
  refine h.live.block hblocked fun waiting resource hwaits => ?_
  rintro ⟨holding, hmem, hholder, rfl⟩
  have hnonempty : contending.waiters holding.2.pool ≠ [] :=
    List.ne_nil_of_mem (mem_waiters.mpr hwaits)
  obtain ⟨other, hother, hpool, hne, hfree⟩ := hdispensable holding hmem hholder hnonempty
  exact ⟨other.1, hne, ⟨other, hother, rfl, hpool⟩, hfree⟩

/-- A turn keeps the waiting threads served. -/
theorem lively_turn (h : Lively contending) (hproper : turn.Proper)
    (hheeds : Heeds (.turn turn pick) contending)
    (hstep : step (.turn turn pick) contending = some (reply, contending')) :
    Lively contending' := by
  simp only [step] at hstep
  split_ifs at hstep with hdue
  obtain ⟨⟨report, routing'⟩, htake, hresult⟩ := Option.map_eq_some_iff.mp hstep
  obtain ⟨-, rfl⟩ := Prod.mk.inj hresult
  refine ⟨(Routing.upheld_take turn h.tenanted hproper htake).2, ?_⟩
  dsimp only at hresult ⊢
  have hquiet : (∀ thread surroundings, turn ≠ .acquire thread surroundings) →
      (∀ thread handle, turn ≠ .release thread handle) → ∀ {pending'},
      Contention.Live contending.Waits contending.Holds
        (⟨routing', contending.woken, pending', contending.queued⟩ : Contending τ).Blocked →
      Contention.Live
        (⟨routing', contending.woken, pending', contending.queued⟩ : Contending τ).Waits
        (⟨routing', contending.woken, pending', contending.queued⟩ : Contending τ).Holds
        (⟨routing', contending.woken, pending', contending.queued⟩ : Contending τ).Blocked := by
    intro hacquire hrelease pending' hlive
    have hheld := (@Routing.quiet_take _ _ _ _ _ _ [] htake hacquire).2 hrelease
    have hholds : (⟨routing', contending.woken, pending', contending.queued⟩ : Contending τ).Holds =
        contending.Holds := by
      unfold Holds
      rw [hheld]
    rw [hholds]
    exact hlive.leave fun thread pointer hwaits =>
      waits_take htake hacquire (List.Subset.refl _) hwaits
  cases turn with
  | acquire thread surroundings =>
    have hfree : ¬contending.Blocked thread := by
      simp only [due, Bool.and_eq_true, decide_eq_true_eq] at hdue
      exact hdue.1
    exact live_acquire h hheeds hfree htake
  | release thread handle => exact live_release h hheeds htake
  | use thread handle operation =>
    apply hquiet nofun nofun
    have halters := Routing.alters_take htake
    obtain ⟨-, result, hwork⟩ := halters
    by_cases halarms : contending.Alarms handle operation
    · apply live_block h (hheeds halarms)
      rintro other (hpending | hqueued)
      · simp only [pendingAfter, List.map_append, List.mem_append] at hpending
        rcases hpending with hold | hnew
        · exact .inl (.inl hold)
        · right
          obtain ⟨call, hcall, rfl⟩ := List.mem_map.mp hnew
          obtain ⟨status, -, rfl⟩ := List.mem_map.mp hcall
          rfl
      · exact .inl (.inr hqueued)
    · have hnone : routing'.pool.forgetting handle
          (contending.routing.pool.fired routing'.pool) = [] := by
        by_contra hsome
        exact halarms ⟨_, hwork, hsome⟩
      simp only [pendingAfter, hnone, List.map_nil, List.append_nil]
      exact h.live
  | call thread mode status | check thread now | refresh thread locked now discovery
  | add thread locked | recheck thread | timeout thread | forgetServer thread server
  | forgetWriter thread server | assign thread handle access_mode =>
    exact hquiet nofun nofun h.live

/-- Whatever happens keeps the waiting threads served. -/
theorem lively_step (event : Event τ) (h : Lively contending) (hproper : event.Proper)
    (hheeds : Heeds event contending) (hstep : step event contending = some (reply, contending')) :
    Lively contending' := by
  cases event with
  | turn turn pick => exact lively_turn h hproper hheeds hstep
  | spurious thread =>
    simp only [step] at hstep
    split at hstep
    · split_ifs at hstep with hwoken
      obtain ⟨-, rfl⟩ := Prod.mk.inj (Option.some.inj hstep)
      refine ⟨h.tenanted, h.live.leave ?_⟩
      rintro other pointer ⟨hreading, hwaits, hasleep⟩
      exact ⟨hreading, hwaits, fun hold => hasleep (List.mem_cons_of_mem _ hold)⟩
    · cases hstep
  | proceed thread =>
    simp only [step] at hstep
    split at hstep
    · split_ifs at hstep with hreading
      obtain ⟨⟨calls, pool⟩, hhandled, hresult⟩ := Option.map_eq_some_iff.mp hstep
      obtain ⟨-, rfl⟩ := Prod.mk.inj hresult
      refine ⟨?_, Contention.live_of_nobody ?_⟩
      · rcases BoltRoutingPool.connectionErrorHandler_cases hhandled with
          ⟨-, rfl⟩ | ⟨-, address, rfl | rfl⟩
        · exact h.tenanted
        · exact h.tenanted.congr rfl rfl rfl
        · exact h.tenanted.congr rfl rfl rfl
      · rintro other pointer ⟨hreads, -⟩
        rw [show contending.routing.reading = [] from hreading] at hreads
        cases hreads
    · cases hstep
  | queue thread =>
    simp only [step] at hstep
    split_ifs at hstep with hmay
    obtain ⟨-, rfl⟩ := Prod.mk.inj (Option.some.inj hstep)
    have hdispensable : contending.Dispensable thread := hheeds
    refine ⟨h.tenanted, @live_block _ _ contending _ _ h hdispensable ?_⟩
    rintro other (hpending | hqueued)
    · exact .inl (.inl hpending)
    · rcases List.mem_cons.mp hqueued with rfl | hold
      · exact .inr rfl
      · exact .inl (.inr hold)

/-! ## Every run -/

/-- In every run in which somebody is always left to give a connection back, no
thread waits under the read lock for connections that only blocked threads
hold. -/
theorem never_stuck (user_agent : List UInt8) (life_time acquisition_time : Int)
    (auth_token : BoltValue) (max_pool_size : Nat) (events : List (Event τ))
    (replies : List (Option Report)) (contending : Contending τ)
    (hheeds : Runs.Admissible step (fun event contending => event.Proper ∧ Heeds event contending)
      events (start (BoltRoutingPool.create user_agent life_time acquisition_time auth_token
        max_pool_size)))
    (hrun : Runs.run step events (start (BoltRoutingPool.create user_agent life_time
      acquisition_time auth_token max_pool_size)) = some (replies, contending)) :
    Runs.Meets step (fun _ _ _ contending => ¬contending.Stuck) events
      (start (BoltRoutingPool.create user_agent life_time acquisition_time auth_token
        max_pool_size)) := by
  have hstart : Lively (start (BoltRoutingPool.create user_agent life_time acquisition_time
      auth_token max_pool_size) : Contending τ) := by
    refine ⟨BoltRoutingPool.tenanted_create _ _ _ _ _, Contention.live_of_nobody ?_⟩
    rintro thread pointer ⟨hreading, -⟩
    cases hreading
  refine Runs.meets_of_run ?_ events hstart hheeds hrun
  intro event contending reply contending' h hok hstep
  have hlively := lively_step event h hok.1 hok.2 hstep
  exact ⟨hlively.live.not_stuck, hlively⟩

/-- The only connection of the pool is in use when another thread asks for one,
and it is released before anything goes wrong with it. -/
def served : List (Event (Fin 2)) :=
  let found : Announcement := ⟨[Routing.serverNamed "s"], [], [Routing.serverNamed "r"], 1000⟩
  let turns : List (RoutingTurn (Fin 2)) :=
    [.call 0 .read ⟨.disconnected, BOLT_SUCCESS⟩, .check 0 0, .refresh 0 true 0 (some found),
      .check 0 1, .add 0 true, .recheck 0, .acquire 0 Routing.acceptingOnce,
      .call 1 .read ⟨.disconnected, BOLT_SUCCESS⟩, .check 1 2, .acquire 1 Routing.acceptingOnce]
  turns.map (.turn · 0)

/-- The thread that has the connection releases it, and the other one gets it. -/
def handedOver : List (Event (Fin 2)) :=
  served ++ [.turn (.release 0 ⟨0, 0⟩) 0, .turn (.acquire 1 Routing.acceptingOnce) 0]

/-- The thread that has the connection loses it, and calls the error handler. -/
def lost : List (Event (Fin 2)) := served ++ [.turn (.use 0 ⟨0, 0⟩ (.fetch 0)) 0]

theorem never_stuck_handedOver :
    Runs.Meets step (fun _ _ _ contending => ¬contending.Stuck) handedOver
      (start (BoltRoutingPool.create (ascii "agent") 0 1000 (.dictionary []) 1)) := by
  have hrun : (Runs.run step handedOver
      (start (BoltRoutingPool.create (ascii "agent") 0 1000 (.dictionary []) 1))).isSome = true := by
    decide +kernel
  obtain ⟨⟨replies, contending⟩, hrun⟩ := Option.isSome_iff_exists.mp hrun
  exact never_stuck _ _ _ _ _ handedOver replies contending (by decide +kernel) hrun

/-- Both threads are stuck: the reader until its time is over, and the writer
until the reader leaves. -/
theorem lost_stuck :
    ¬∀ (events : List (Event (Fin 2))) (replies : List (Option Report))
        (contending : Contending (Fin 2)), (∀ event ∈ events, event.Proper) →
      Runs.run step events (start (BoltRoutingPool.create (ascii "agent") 0 1000 (.dictionary []) 1)) =
        some (replies, contending) → ¬contending.Stuck := by
  intro hnever
  have hrun : (Runs.run step lost
      (start (BoltRoutingPool.create (ascii "agent") 0 1000 (.dictionary []) 1))).map
        (fun (_, contending) => (decide (contending.Waits 1 0), decide (contending.Holds 0 0),
          decide (contending.Holds 1 0), decide (contending.Blocked 0))) =
      some (true, true, false, true) := by
    decide +kernel
  obtain ⟨⟨replies, contending⟩, hrun, hresult⟩ := Option.map_eq_some_iff.mp hrun
  simp only [Prod.mk.injEq, decide_eq_true_eq, decide_eq_false_iff_not] at hresult
  obtain ⟨hwaits, hholds, hnot, hblocked⟩ := hresult
  apply hnever lost replies contending (by decide) hrun
  refine ⟨0, ⟨1, hwaits⟩, ⟨0, hholds⟩, fun thread hheld => ?_⟩
  match thread with
  | 0 => exact hblocked
  | 1 => exact absurd hheld hnot

end Contending

end Seabolt
