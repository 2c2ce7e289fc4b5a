import Mathlib.Data.Bool.Count
import Seabolt.Lib.Signals
import Seabolt.Ownership

/-!
# The condition of a direct pool

A section of `BoltDirectPool_acquire` that finds the pool full waits for
`released_cond`, and `BoltDirectPool_release` signals it.  A signal wakes one of
the threads that wait, and nobody if none waits; a thread may also wake without
a signal, and it gives up when its time is over.

A thread that has been woken looks for a connection again.  If it cannot open
the one that it finds, it returns without a connection, and no other thread
learns that there is one.
-/

namespace Seabolt

/-! ## The connection that a section finds -/

namespace BoltDirectPool

variable {pool pool' : BoltDirectPool} {surroundings : Surroundings} {result : Acquired}

/-- What comes of the connection that a section finds: the result of the switch
on its state, and its status after it. -/
def brought (surroundings : Surroundings) (pool : BoltDirectPool) : Option (Int × BoltStatus) :=
  (pool.findUnusedConnection surroundings.age).bind fun (found, pool) =>
    found.bind fun index => (pool.revive surroundings index).bind fun (pool_error, pool) =>
      pool.connections[index]?.map fun connection => (pool_error, connection.status)

/-- A connection that is found reports none of the errors of the pool.  (The
transports have their own.) -/
def Foreign (surroundings : Surroundings) (pool : BoltDirectPool) : Prop :=
  ∀ brought ∈ pool.brought surroundings, brought.2.error ≠ BOLT_POOL_FULL

/-- A connection that is found can be handed out. -/
def Brings (surroundings : Surroundings) (pool : BoltDirectPool) : Prop :=
  ∀ brought ∈ pool.brought surroundings, brought.1 = BOLT_SUCCESS

instance (surroundings : Surroundings) (pool : BoltDirectPool) :
    Decidable (pool.Foreign surroundings) :=
  inferInstanceAs (Decidable (∀ brought ∈ pool.brought surroundings, _))

instance (surroundings : Surroundings) (pool : BoltDirectPool) :
    Decidable (pool.Brings surroundings) :=
  inferInstanceAs (Decidable (∀ brought ∈ pool.brought surroundings, _))

/-- The number of connections that are not in use. -/
def free (pool : BoltDirectPool) : Nat := pool.agents.count false

theorem free_eq_zero_iff : pool.free = 0 ↔ ∀ connection ∈ pool.connections, connection.agent = true := by
  simp [free, agents, List.count_eq_zero]

/-- No connection is found when all are in use. -/
theorem free_of_findUnusedConnection {age : Int}
    (hfree : (pool.free : Int) = pool.max_size - pool.in_use_count)
    (h : pool.findUnusedConnection age = some (none, pool')) : pool.free = 0 := by
  unfold findUnusedConnection at h
  split_ifs at h with hfull
  · omega
  · split at h
    · next hnone =>
      apply free_eq_zero_iff.mpr
      intro connection hin
      simpa using List.findIdx?_eq_none_iff.mp hnone connection hin
    · next index hfound =>
      split_ifs at h
      · obtain ⟨closed, -, hresult⟩ := Option.map_eq_some_iff.mp h
        cases (Prod.mk.inj hresult).1
      · cases (Prod.mk.inj (Option.some.inj h)).1

theorem init_ne_full {index : Nat} {pool_error : Int}
    (h : pool.init index = some (pool_error, pool')) : pool_error ≠ BOLT_POOL_FULL := by
  obtain ⟨connection, connection', -, hinit, -⟩ := onConnection_cases h
  obtain ⟨⟨code, left⟩, -, hresult⟩ := Option.map_eq_some_iff.mp hinit
  rw [← (Prod.mk.inj hresult).1]
  split_ifs
  all_goals decide

theorem openInit_ne_full {index : Nat} {pool_error : Int}
    (h : pool.openInit surroundings index = some (pool_error, pool')) :
    pool_error ≠ BOLT_POOL_FULL := by
  unfold openInit at h
  split_ifs at h
  · rw [← (Prod.mk.inj (Option.some.inj h)).1]
    decide
  · obtain ⟨⟨opened, pool1⟩, -, h⟩ := Option.bind_eq_some_iff.mp h
    dsimp only at h
    split_ifs at h
    · exact init_ne_full h
    · rw [← (Prod.mk.inj (Option.some.inj h)).1]
      decide

/-- The code that the pool is full is for a pool without a free connection. -/
theorem revive_ne_full {index : Nat} {pool_error : Int}
    (h : pool.revive surroundings index = some (pool_error, pool')) :
    pool_error ≠ BOLT_POOL_FULL := by
  unfold revive at h
  split at h
  · cases h
  · split at h
    · exact openInit_ne_full h
    · exact openInit_ne_full h
    · exact init_ne_full h
    · obtain ⟨⟨done, pool1⟩, -, h⟩ := Option.bind_eq_some_iff.mp h
      dsimp only at h
      split_ifs at h
      · rw [← (Prod.mk.inj (Option.some.inj h)).1]
        decide
      · exact openInit_ne_full h
    · rw [← (Prod.mk.inj (Option.some.inj h)).1]
      decide

/-- A section has found nothing because nothing is free, or it has found what
`brought` says, and hands it out if it can. -/
theorem acquire_brought (hfree : (pool.free : Int) = pool.max_size - pool.in_use_count)
    (h : pool.acquire surroundings = some (result, pool')) :
    pool.free = 0 ∨
    ∃ pool_error status, pool.brought surroundings = some (pool_error, status) ∧
      (pool_error = BOLT_SUCCESS ∧ (∃ i caller, result = .returned (some i) caller) ∨
       pool_error ≠ BOLT_SUCCESS ∧ (result = .waits → status.error = BOLT_POOL_FULL)) := by
  rcases acquire_inv h with
    ⟨hfind, -⟩ | ⟨i, pool1, pool2, pool_error, connection, hfind, hrevive, hentry, hround⟩
  · exact .inl (free_of_findUnusedConnection hfree hfind)
  · refine .inr ⟨pool_error, connection.status, ?_, ?_⟩
    · simp only [brought, hfind, hrevive, hentry, Option.bind_some, Option.map_some]
    · rcases hround with ⟨hdone, rfl, -⟩ | ⟨hfailed, -, rfl⟩
      · exact .inl ⟨hdone, i, _, rfl⟩
      · refine .inr ⟨hfailed, fun hwaits => ?_⟩
        unfold withoutConnection at hwaits
        split_ifs at hwaits with hmore hfull hfull
        · exact hfull.1
        · exact absurd hfull.1 (revive_ne_full hrevive)

/-- Nothing is free when a section waits. -/
theorem free_of_waits (hfree : (pool.free : Int) = pool.max_size - pool.in_use_count)
    (hforeign : pool.Foreign surroundings)
    (h : pool.acquire surroundings = some (.waits, pool')) : pool.free = 0 := by
  rcases acquire_brought hfree h with
    hfull | ⟨pool_error, status, hbrought, ⟨-, i, caller, hreturned⟩ | ⟨-, hwaits⟩⟩
  · exact hfull
  · cases hreturned
  · exact absurd (hwaits rfl) (hforeign _ hbrought)

/-- Nor when a section returns without a connection, if it could hand out the one
that it finds. -/
theorem free_of_brings {caller : BoltStatus}
    (hfree : (pool.free : Int) = pool.max_size - pool.in_use_count)
    (hbrings : pool.Brings surroundings)
    (h : pool.acquire surroundings = some (.returned none caller, pool')) : pool.free = 0 := by
  rcases acquire_brought hfree h with
    hfull | ⟨pool_error, status, hbrought, ⟨-, i, caller, hreturned⟩ | ⟨hfailed, -⟩⟩
  · exact hfull
  · cases hreturned
  · exact absurd (hbrings _ hbrought) hfailed

end BoltDirectPool

/-! ## Signals -/

/-- The threads that share a pool, and those of the waiting ones that have been
woken. -/
structure Signalling (τ : Type) where
  sharing : Sharing τ
  woken : List τ

namespace Signalling

variable {τ : Type} [DecidableEq τ]

/-- What can happen: a thread takes its turn, and if it signals the scheduler
picks the thread that wakes; or a thread wakes without a signal. -/
inductive Event (τ : Type) where
  | turn (turn : Turn τ) (pick : Nat)
  | spurious (thread : τ)

/-- The threads that wait on `released_cond`. -/
def blocked (signalling : Signalling τ) : List τ :=
  Signals.blocked signalling.sharing.waiting signalling.woken

/-- A thread that waits takes its next turn when it has been woken, and gives up
when it has not. -/
def due (signalling : Signalling τ) : Turn τ → Bool
  | .wake thread _ => thread ∈ signalling.woken
  | .timeout thread => thread ∉ signalling.woken
  | _ => true

/-- Who is woken after a turn.  A release that has found its connection signals
the condition. -/
def wokenBy (pick : Nat) (turn : Turn τ) (notice : Notice) (signalling : Signalling τ) : List τ :=
  match turn, notice with
  | .wake thread _, _ => signalling.woken.erase thread
  | .release _ _, .released index =>
    if index ≥ 0 then Signals.signal pick signalling.blocked ++ signalling.woken
    else signalling.woken
  | _, _ => signalling.woken

/-- An event, if it can happen. -/
def step : Runs.Step (Event τ) (Signalling τ) (Option Notice)
  | .turn turn pick, signalling =>
    if signalling.due turn then
      (Sharing.take turn signalling.sharing).map fun (notice, sharing) =>
        (some notice, ⟨sharing, signalling.wokenBy pick turn notice⟩)
    else none
  | .spurious thread, signalling =>
    if thread ∈ signalling.blocked then
      some (none, { signalling with woken := thread :: signalling.woken })
    else none

/-- A pool that nobody uses. -/
def start (pool : BoltDirectPool) : Signalling τ := ⟨Sharing.start pool, []⟩

/-- When no thread is on its way, one that waits finds every connection in
use. -/
def NoneMissed (signalling : Signalling τ) : Prop :=
  signalling.woken = [] → signalling.blocked ≠ [] →
    ∀ connection ∈ signalling.sharing.pool.connections, connection.agent = true

/-- A connection that is found reports none of the pool's errors, and a woken
thread can open the one that it finds, or nobody is left that waits, or for
every free connection there is another woken thread. -/
def Passed : Event τ → Signalling τ → Prop
  | .turn (.acquire _ surroundings) _, signalling =>
    signalling.sharing.pool.Foreign surroundings
  | .turn (.wake thread surroundings) _, signalling =>
    signalling.sharing.pool.Foreign surroundings ∧
      (signalling.sharing.pool.Brings surroundings ∨ signalling.blocked = [] ∨
        signalling.sharing.pool.free ≤ (signalling.woken.erase thread).length)
  | _, _ => True

instance : ∀ (event : Event τ) (signalling : Signalling τ), Decidable (Passed event signalling)
  | .turn (.acquire _ surroundings) _, signalling =>
    inferInstanceAs (Decidable (signalling.sharing.pool.Foreign surroundings))
  | .turn (.wake _ surroundings) _, signalling =>
    inferInstanceAs (Decidable (signalling.sharing.pool.Foreign surroundings ∧ (_ ∨ _ ∨ _)))
  | .turn (.timeout _) _, _ | .turn (.release _ _) _, _ | .turn (.use _ _ _) _, _
  | .turn (.assign _ _ _ _) _, _ | .spurious _, _ => isTrue trivial

/-! ## Nobody is forgotten -/

variable {signalling signalling' : Signalling τ} {sharing : Sharing τ} {pool : BoltDirectPool}
  {reply : Option Notice} {result : Acquired} {surroundings : Surroundings} {thread : τ}

omit [DecidableEq τ] in
theorem free_eq (hs : Sharing.Owned sharing) :
    (sharing.pool.free : Int) = sharing.pool.max_size - sharing.pool.in_use_count := by
  have hcounts := List.count_false_add_count_true sharing.pool.agents
  rw [hs.size, hs.accounted.flagged, BoltDirectPool.free]
  omega

/-- The books are in order, and there is a woken thread for every free
connection if a thread still waits. -/
structure Covered (signalling : Signalling τ) : Prop where
  owned : Sharing.Owned signalling.sharing
  signals : Signals.Covered signalling.sharing.pool.free signalling.sharing.waiting
    signalling.woken

theorem Covered.noneMissed (h : Covered signalling) : NoneMissed signalling := by
  intro hwoken hblocked
  have hsignals := h.signals
  rw [blocked, hwoken, Signals.blocked_nil] at hblocked
  rw [hwoken] at hsignals
  exact BoltDirectPool.free_eq_zero_iff.mp (hsignals.quiet hblocked)

/-- A section hands out one of the free connections, or leaves them free. -/
theorem free_acquired (hs : Sharing.Owned sharing)
    (h : sharing.pool.acquire surroundings = some (result, pool)) :
    Sharing.Owned (sharing.acquired thread result pool).2 ∧
    ((∃ i caller, result = .returned (some i) caller ∧ sharing.pool.free = pool.free + 1) ∨
     (∀ i caller, result ≠ .returned (some i) caller) ∧ pool.free = sharing.pool.free) := by
  have howned : Sharing.Owned (sharing.acquired thread result pool).2 :=
    (@Sharing.exclusive_acquire τ _ sharing thread pool (.timeout thread) _ _ hs h).2
  have hfree := free_eq hs
  refine ⟨howned, ?_⟩
  have hfree' : (pool.free : Int) = pool.max_size - pool.in_use_count := by
    have hafter := free_eq howned
    rcases result with ⟨_ | i, caller⟩ | _
    all_goals exact hafter
  rcases BoltDirectPool.acquire_cases h with
    ⟨hnone, -, hcount, hsize⟩ | ⟨i, rfl, -, -, -, -, hcount, hsize⟩
  · exact .inr ⟨hnone, by omega⟩
  · exact .inl ⟨i, _, rfl, by omega⟩

section Sections

variable {held : List (τ × Nat)} {waiting woken : List τ} {pool' : BoltDirectPool}

/-- The section of a thread that has not waited. -/
theorem covered_acquire (hs : Sharing.Owned ⟨pool, waiting, held⟩)
    (hcovered : Signals.Covered pool.free waiting woken) (hnew : thread ∉ waiting)
    (hforeign : pool.Foreign surroundings)
    (h : pool.acquire surroundings = some (result, pool')) :
    Covered ⟨(Sharing.acquired thread result pool' ⟨pool, waiting, held⟩).2, woken⟩ := by
  obtain ⟨howned, hfree⟩ := @free_acquired τ _ _ _ _ _ thread hs h
  refine ⟨howned, ?_⟩
  have hsame : waiting.erase thread = waiting := List.erase_of_not_mem hnew
  rcases hfree with ⟨i, caller, rfl, hfree⟩ | ⟨hnone, hfree⟩
  · have htaken : Signals.Covered (pool'.free + 1) waiting woken := by
      rw [← hfree]
      exact hcovered
    show Signals.Covered pool'.free (waiting.erase thread) woken
    rw [hsame]
    exact htaken.take
  · rcases result with ⟨_ | i, caller⟩ | _
    · show Signals.Covered pool'.free (waiting.erase thread) woken
      rw [hsame, hfree]
      exact hcovered
    · exact absurd rfl (hnone i caller)
    · have hfull : pool.free = 0 := BoltDirectPool.free_of_waits (free_eq hs) hforeign h
      show Signals.Covered pool'.free (thread :: waiting.erase thread) woken
      rw [hsame, hfree, show _ = 0 from hfull]
      exact hcovered.wait hnew

/-- The section of a thread that has been woken. -/
theorem covered_wake (hs : Sharing.Owned ⟨pool, waiting, held⟩)
    (hcovered : Signals.Covered pool.free waiting woken) (hwoken : thread ∈ woken)
    (hforeign : pool.Foreign surroundings)
    (hpassed : pool.Brings surroundings ∨ Signals.blocked waiting woken = [] ∨
      pool.free ≤ (woken.erase thread).length)
    (h : pool.acquire surroundings = some (result, pool')) :
    Covered ⟨(Sharing.acquired thread result pool' ⟨pool, waiting, held⟩).2,
      woken.erase thread⟩ := by
  obtain ⟨howned, hfree⟩ := @free_acquired τ _ _ _ _ _ thread hs h
  refine ⟨howned, ?_⟩
  rcases hfree with ⟨i, caller, rfl, hfree⟩ | ⟨hnone, hfree⟩
  · have htaken : Signals.Covered (pool'.free + 1) waiting woken := by
      rw [← hfree]
      exact hcovered
    exact htaken.takeWoken hwoken
  · rcases result with ⟨_ | i, caller⟩ | _
    · show Signals.Covered pool'.free (waiting.erase thread) (woken.erase thread)
      rw [hfree]
      apply hcovered.leave
      rcases hpassed with hbrings | hpassed
      · have hfull : pool.free = 0 := BoltDirectPool.free_of_brings (free_eq hs) hbrings h
        exact .inr (hfull ▸ Nat.zero_le _)
      · exact hpassed
    · exact absurd rfl (hnone i caller)
    · have hfull : pool.free = 0 := BoltDirectPool.free_of_waits (free_eq hs) hforeign h
      show Signals.Covered pool'.free (thread :: waiting.erase thread) (woken.erase thread)
      rw [hfree, show _ = 0 from hfull]
      exact hcovered.waitAgain

omit [DecidableEq τ] in
/-- A turn that works on a connection leaves as many free. -/
theorem free_onConnection {index : Nat} {code : Int}
    {work : BoltConnection → Outcome BoltConnection} (hs : Sharing.Owned ⟨pool, waiting, held⟩)
    (hs' : Sharing.Owned ⟨pool', waiting, held⟩)
    (h : pool.onConnection index work = some (code, pool')) : pool'.free = pool.free := by
  have hfree := free_eq hs
  have hfree' := free_eq hs'
  obtain ⟨connection, connection', -, -, rfl⟩ := BoltDirectPool.onConnection_cases h
  dsimp only at hfree hfree'
  omega

end Sections

/-- A release makes a connection free, and signals. -/
theorem covered_release {index : Nat} {notice : Notice} (pick : Nat) (hs : Covered signalling)
    (h : Sharing.take (.release thread index) signalling.sharing = some (notice, sharing)) :
    Covered ⟨sharing, signalling.wokenBy pick (.release thread index) notice⟩ := by
  have howned := (Sharing.exclusive_take _ hs.owned h).2
  refine ⟨howned, ?_⟩
  simp only [Sharing.take] at h
  split_ifs at h with hholds
  obtain ⟨⟨found, pool⟩, hrelease, hresult⟩ := Option.map_eq_some_iff.mp h
  obtain ⟨rfl, rfl⟩ := Prod.mk.inj hresult
  have hfree := free_eq hs.owned
  have hfree' := free_eq howned
  unfold BoltDirectPool.release at hrelease
  rw [hs.owned.findConnection hholds.2] at hrelease
  obtain ⟨left, hrecycle, hleft⟩ := Option.map_eq_some_iff.mp hrelease
  obtain ⟨rfl, rfl⟩ := Prod.mk.inj hleft
  obtain ⟨-, hcount, hsize⟩ := BoltDirectPool.recycle_agents hrecycle
  dsimp only at hfree'
  unfold wokenBy
  dsimp only
  rw [if_pos (Int.natCast_nonneg index)]
  have hgiven : ({ left with in_use_count := left.in_use_count - 1 } : BoltDirectPool).free =
      signalling.sharing.pool.free + 1 := by omega
  rw [hgiven]
  exact hs.signals.give pick

theorem covered_step (event : Event τ) (hs : Covered signalling) (hpassed : Passed event signalling)
    (h : step event signalling = some (reply, signalling')) : Covered signalling' := by
  cases event with
  | spurious thread =>
    simp only [step] at h
    split_ifs at h
    obtain ⟨rfl, rfl⟩ := Prod.mk.inj (Option.some.inj h)
    exact ⟨hs.owned, hs.signals.wake⟩
  | turn turn pick =>
    simp only [step] at h
    split_ifs at h with hdue
    obtain ⟨⟨notice, sharing⟩, htake, hresult⟩ := Option.map_eq_some_iff.mp h
    obtain ⟨rfl, rfl⟩ := Prod.mk.inj hresult
    have howned := (Sharing.exclusive_take turn hs.owned htake).2
    cases turn with
    | release thread index => exact covered_release pick hs htake
    | acquire thread surroundings =>
      simp only [Sharing.take] at htake
      split_ifs at htake with hnew
      obtain ⟨⟨result, pool⟩, hacquire, hresult⟩ := Option.map_eq_some_iff.mp htake
      obtain ⟨rfl, rfl⟩ := Prod.mk.inj hresult
      exact covered_acquire hs.owned hs.signals hnew hpassed hacquire
    | wake thread surroundings =>
      simp only [Sharing.take] at htake
      split_ifs at htake
      obtain ⟨⟨result, pool⟩, hacquire, hresult⟩ := Option.map_eq_some_iff.mp htake
      obtain ⟨rfl, rfl⟩ := Prod.mk.inj hresult
      have hwoken : thread ∈ signalling.woken := by simpa [due] using hdue
      exact covered_wake hs.owned hs.signals hwoken hpassed.1 hpassed.2 hacquire
    | timeout thread =>
      simp only [Sharing.take] at htake
      split_ifs at htake
      obtain ⟨rfl, rfl⟩ := Prod.mk.inj (Option.some.inj htake)
      exact ⟨howned, hs.signals.timeout⟩
    | use thread index operation =>
      simp only [Sharing.take] at htake
      split_ifs at htake
      obtain ⟨⟨code, pool⟩, hwork, hresult⟩ := Option.map_eq_some_iff.mp htake
      obtain ⟨rfl, rfl⟩ := Prod.mk.inj hresult
      refine ⟨howned, ?_⟩
      show Signals.Covered pool.free signalling.sharing.waiting signalling.woken
      rw [free_onConnection hs.owned howned hwork]
      exact hs.signals
    | assign thread index access_mode on_error_cb =>
      simp only [Sharing.take] at htake
      split_ifs at htake
      obtain ⟨⟨code, pool⟩, hwork, hresult⟩ := Option.map_eq_some_iff.mp htake
      obtain ⟨rfl, rfl⟩ := Prod.mk.inj hresult
      refine ⟨howned, ?_⟩
      show Signals.Covered pool.free signalling.sharing.waiting signalling.woken
      rw [free_onConnection hs.owned howned hwork]
      exact hs.signals

theorem covered_start (user_agent : List UInt8) (life_time acquisition_time : Int)
    (auth_token : BoltValue) (max_pool_size : Nat) :
    Covered (start (BoltDirectPool.create user_agent life_time acquisition_time auth_token
      max_pool_size) : Signalling τ) where
  owned := Sharing.owned_create user_agent life_time acquisition_time auth_token max_pool_size
  signals := ⟨List.nodup_nil, fun hblocked => absurd rfl hblocked⟩

/-- As long as every woken thread that finds a connection can open it, or leaves
nobody behind, no thread waits while a connection is free and nobody is on its
way to it. -/
theorem meets_noneMissed (user_agent : List UInt8) (life_time acquisition_time : Int)
    (auth_token : BoltValue) (max_pool_size : Nat) (events : List (Event τ))
    (replies : List (Option Notice)) (signalling : Signalling τ)
    (hpassed : Runs.Admissible step Passed events (start (BoltDirectPool.create user_agent life_time
      acquisition_time auth_token max_pool_size)))
    (hrun : Runs.run step events (start (BoltDirectPool.create user_agent life_time
      acquisition_time auth_token max_pool_size)) = some (replies, signalling)) :
    NoneMissed (start (BoltDirectPool.create user_agent life_time acquisition_time auth_token
        max_pool_size) : Signalling τ) ∧
      Runs.Meets step (fun _ _ _ signalling => NoneMissed signalling) events
        (start (BoltDirectPool.create user_agent life_time acquisition_time auth_token
          max_pool_size)) := by
  have hstart := @covered_start τ _ user_agent life_time acquisition_time auth_token max_pool_size
  refine ⟨hstart.noneMissed, ?_⟩
  apply Runs.meets_of_run _ events hstart hpassed hrun
  intro event signalling reply signalling' hs hpassed h
  have hs' := covered_step event hs hpassed h
  exact ⟨hs'.noneMissed, hs'⟩

/-- A server that answers the initialisation of a connection, and nothing
else. -/
def initialising : Surroundings :=
  ⟨0, 0, BoltConnection.answering (frames [chunksOf [0xB1, 0x70, 0xA0]])⟩

/-- An address that cannot be resolved any more. -/
def unresolved : Surroundings := ⟨0, 1, BoltConnection.answering []⟩

/-- Two threads wait for the only connection of a pool.  It is closed when it is
released, and the thread that the signal wakes has to open it. -/
def queueing (surroundings : Surroundings) : List (Event Nat) :=
  [.turn (.acquire 1 initialising) 0, .turn (.acquire 2 initialising) 0,
    .turn (.acquire 3 initialising) 0, .turn (.release 1 0) 0, .turn (.wake 3 surroundings) 0]

theorem meets_noneMissed_queueing :
    ∃ signalling, Runs.run step (queueing initialising)
        (start (BoltDirectPool.create (ascii "agent") 0 1000 (.dictionary []) 1)) =
        some ([some (.acquired (.returned (some 0) ⟨.ready, BOLT_SUCCESS⟩)), some (.acquired .waits),
          some (.acquired .waits), some (.released 0),
          some (.acquired (.returned (some 0) ⟨.ready, BOLT_SUCCESS⟩))], signalling) ∧
      NoneMissed (start (BoltDirectPool.create (ascii "agent") 0 1000 (.dictionary []) 1) :
        Signalling Nat) ∧
      Runs.Meets step (fun _ _ _ signalling => NoneMissed signalling) (queueing initialising)
        (start (BoltDirectPool.create (ascii "agent") 0 1000 (.dictionary []) 1)) := by
  have hreplies : (Runs.run step (queueing initialising)
      (start (BoltDirectPool.create (ascii "agent") 0 1000 (.dictionary []) 1))).map Prod.fst =
      some [some (.acquired (.returned (some 0) ⟨.ready, BOLT_SUCCESS⟩)), some (.acquired .waits),
        some (.acquired .waits), some (.released 0),
        some (.acquired (.returned (some 0) ⟨.ready, BOLT_SUCCESS⟩))] := by
    decide +kernel
  obtain ⟨⟨replies, signalling⟩, hrun, rfl⟩ := Option.map_eq_some_iff.mp hreplies
  exact ⟨signalling, hrun, meets_noneMissed _ _ _ _ _ (queueing initialising) _ signalling
    (by decide +kernel) hrun⟩

/-- The address of the pool is not resolved when the woken thread opens the
connection: the other thread goes on waiting, and the connection is free. -/
theorem queueing_missed :
    ∃ replies signalling, Runs.run step (queueing unresolved)
        (start (BoltDirectPool.create (ascii "agent") 0 1000 (.dictionary []) 1)) =
        some (replies, signalling) ∧
      replies.getLast? = some (some (.acquired (.returned none
        ⟨.disconnected, BOLT_ADDRESS_NOT_RESOLVED⟩))) ∧
      signalling.woken = [] ∧ signalling.blocked = [2] ∧
      signalling.sharing.pool.connections.map BoltConnection.agent = [false] ∧
      ¬NoneMissed signalling := by
  have hend : (Runs.run step (queueing unresolved)
      (start (BoltDirectPool.create (ascii "agent") 0 1000 (.dictionary []) 1))).map
        (fun (replies, signalling) => (replies.getLast?, signalling.woken, signalling.blocked,
          signalling.sharing.pool.connections.map BoltConnection.agent)) =
      some (some (some (.acquired (.returned none ⟨.disconnected, BOLT_ADDRESS_NOT_RESOLVED⟩))),
        [], [2], [false]) := by
    decide +kernel
  obtain ⟨⟨replies, signalling⟩, hrun, hends⟩ := Option.map_eq_some_iff.mp hend
  simp only [Prod.mk.injEq] at hends
  obtain ⟨hlast, hwoken, hblocked, hagents⟩ := hends
  refine ⟨replies, signalling, hrun, hlast, hwoken, hblocked, hagents, fun hnone => ?_⟩
  have hused := hnone hwoken (by rw [hblocked]; decide)
  have hfree : false ∈ signalling.sharing.pool.connections.map BoltConnection.agent := by
    rw [hagents]
    decide
  obtain ⟨connection, hin, hagent⟩ := List.mem_map.mp hfree
  rw [hused connection hin] at hagent
  cases hagent

end Signalling

end Seabolt
