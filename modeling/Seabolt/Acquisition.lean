import Seabolt.Connector

/-!
# What an acquisition returns

A call of `BoltConnector_acquire` returns a connection or NULL, and a status.
The two agree in the pooled schemes unless an address resolves to hosts none of
which is of a supported family; without a pool they agree if the connection can
be opened and initialised.
-/

namespace Seabolt

/-- The address resolves, but none of its hosts is tried, and so there is no
error to report. -/
def Surroundings.NoHost (surroundings : Surroundings) : Prop :=
  surroundings.resolved = 0 ∧ true ∉ surroundings.target.hosts ∧
    surroundings.target.comm.error = BOLT_SUCCESS

instance (surroundings : Surroundings) : Decidable surroundings.NoHost :=
  inferInstanceAs (Decidable (_ ∧ _ ∧ _))

namespace BoltConnection

variable {connection connection' : BoltConnection} {result : Int} {surroundings : Surroundings}
  {user_agent : List UInt8} {auth_token : BoltValue}

/-- The status that a pool reports to the caller for its error. -/
def reportedFor (pool_error : Int) (connection : BoltConnection) : BoltStatus :=
  if pool_error = BOLT_CONNECTION_HAS_MORE_INFO then connection.status
  else ⟨.disconnected, pool_error⟩

/-- Opening succeeds with one of the hosts, or leaves the connection defunct. -/
theorem openDisconnected_result {target : Target}
    (h : connection.openDisconnected target = some (result, connection')) :
    result = 0 ∧ true ∈ target.hosts ∨ result ≠ 0 ∧ connection'.status.state = .defunct := by
  unfold openDisconnected at h
  dsimp only at h
  rcases BoltCommunication.openAddress_cases target.comm target.hosts with
    ⟨hopened, hhost⟩ | ⟨hfailed, -⟩
  · rw [if_pos hopened] at h
    obtain ⟨⟨status, connection1⟩, hhandshake, hresult⟩ := Option.map_eq_some_iff.mp h
    dsimp only at hresult
    rcases tryStatus_cases status connection1 with
      ⟨-, heq⟩ | ⟨hset, hstatus, heq⟩ | ⟨hfail, hset, heq⟩
    · simp only [heq, ne_eq, not_true_eq_false, if_false, setStatus_status] at hresult
      obtain ⟨rfl, -⟩ := Prod.mk.inj hresult
      exact .inl ⟨rfl, hhost⟩
    · have hne : (-1 : Int) ≠ BOLT_SUCCESS := by decide
      simp only [heq, hne, ne_eq, not_false_eq_true, if_true] at hresult
      obtain ⟨rfl, rfl⟩ := Prod.mk.inj hresult
      rcases handshakeB_status hhandshake with hsuccess | ⟨-, hstate, -⟩ | hunsupported
      · exact absurd hsuccess hset
      · exact .inr ⟨hne, hstate⟩
      · rw [hunsupported] at hstatus
        exact absurd hstatus (by decide)
    · simp only [heq, hfail, ne_eq, not_false_eq_true, if_true] at hresult
      obtain ⟨rfl, rfl⟩ := Prod.mk.inj hresult
      rw [setStatus_status]
      exact .inr ⟨hfail, rfl⟩
  · rw [if_neg hfailed] at h
    obtain ⟨rfl, rfl⟩ := Prod.mk.inj (Option.some.inj h)
    rw [setStatusFromComm, setStatus_status]
    exact .inr ⟨by decide, rfl⟩

theorem openAt_result {target : Target}
    (h : connection.openAt target = some (result, connection')) :
    result = 0 ∧ true ∈ target.hosts ∨ result ≠ 0 ∧ connection'.status.state = .defunct := by
  unfold openAt at h
  split_ifs at h
  · obtain ⟨closed, -, hopen⟩ := Option.bind_eq_some_iff.mp h
    exact openDisconnected_result hopen
  · exact openDisconnected_result h

/-- An initialisation makes the connection ready, or defunct with an error. -/
theorem init_result (h : connection.init user_agent auth_token = some (result, connection')) :
    result = 0 ∧ connection'.status.state = .ready ∨
      result ≠ 0 ∧ connection'.status.state = .defunct ∧ connection'.status.error ≠ BOLT_SUCCESS := by
  unfold init at h
  split_ifs at h
  · split at h
    · cases h
    · obtain ⟨⟨code, connection1⟩, -, hresult⟩ := Option.map_eq_some_iff.mp h
      dsimp only at hresult
      rcases initialised_status code connection1 with
        ⟨-, hdone, hstatus⟩ | ⟨-, hfailed, hstate, herror⟩
      · rw [hresult] at hdone hstatus
        exact .inl ⟨hdone, congrArg BoltStatus.state hstatus⟩
      · rw [hresult] at hfailed hstate herror
        refine .inr ⟨?_, hstate, herror⟩
        rw [show result = -1 from hfailed]
        decide
  · obtain ⟨rfl, rfl⟩ := Prod.mk.inj (Option.some.inj h)
    rw [setStatus_status]
    exact .inr ⟨by decide, rfl, by decide⟩

theorem initOrMoreInfo_result
    (h : connection.initOrMoreInfo user_agent auth_token = some (result, connection')) :
    result = BOLT_SUCCESS ∧ connection'.status.state = .ready ∨
      result = BOLT_CONNECTION_HAS_MORE_INFO ∧ connection'.status.state = .defunct ∧
        connection'.status.error ≠ BOLT_SUCCESS := by
  obtain ⟨⟨done, left⟩, hinit, hresult⟩ := Option.map_eq_some_iff.mp h
  dsimp only at hresult
  rcases init_result hinit with ⟨hdone, hready⟩ | ⟨hfailed, hdefunct⟩
  · rw [if_pos hdone] at hresult
    obtain ⟨rfl, rfl⟩ := Prod.mk.inj hresult
    exact .inl ⟨rfl, hready⟩
  · rw [if_neg hfailed] at hresult
    obtain ⟨rfl, rfl⟩ := Prod.mk.inj hresult
    exact .inr ⟨rfl, hdefunct⟩

/-- A connection connects and is ready; or there is an error, which is reported
as none exactly if there is no host. -/
theorem connect_cases
    (h : connection.connect surroundings user_agent auth_token = some (result, connection')) :
    result = BOLT_SUCCESS ∧ connection'.status.state = .ready ∧ ¬surroundings.NoHost ∨
      result ≠ BOLT_SUCCESS ∧
        ((reportedFor result connection').error = BOLT_SUCCESS ↔ surroundings.NoHost) ∧
        (connection' = connection ∨ connection'.status.state = .defunct) := by
  unfold connect at h
  split_ifs at h with hresolved
  · obtain ⟨rfl, rfl⟩ := Prod.mk.inj (Option.some.inj h)
    refine .inr ⟨by decide, iff_of_false ?_ fun hnone => hresolved hnone.1, .inl rfl⟩
    rw [reportedFor, if_neg (by decide)]
    decide
  · obtain ⟨⟨opened, left⟩, hopen, h⟩ := Option.bind_eq_some_iff.mp h
    have hconsistent := openAt_consistent hopen
    have hreported : ∀ c : BoltConnection,
        reportedFor BOLT_CONNECTION_HAS_MORE_INFO c = c.status := fun c => rfl
    dsimp only at h
    rcases openAt_result hopen with ⟨rfl, hhost⟩ | ⟨hfailed, hdefunct⟩
    · have hsome : ¬surroundings.NoHost := fun hnone => hnone.2.1 hhost
      rw [if_pos rfl] at h
      rcases initOrMoreInfo_result h with ⟨hdone, hready⟩ | ⟨rfl, hdefunct, herror⟩
      · exact .inl ⟨hdone, hready, hsome⟩
      · refine .inr ⟨by decide, iff_of_false ?_ hsome, .inr hdefunct⟩
        rw [hreported]
        exact herror
    · rw [if_neg hfailed] at h
      obtain ⟨rfl, rfl⟩ := Prod.mk.inj (Option.some.inj h)
      refine .inr ⟨by decide, ?_, .inr hdefunct⟩
      rw [hreported]
      have herror : left.status.error ≠ BOLT_SUCCESS ↔
          true ∈ surroundings.target.hosts ∨ surroundings.target.comm.error ≠ BOLT_SUCCESS := by
        rw [← hconsistent]
        simp [BoltStatus.Consistent, hdefunct]
      unfold Surroundings.NoHost
      rw [← not_iff_not, ← ne_eq, herror]
      have hzero : surroundings.resolved = 0 := not_not.mp hresolved
      simp only [hzero, true_and, not_and_or, not_not]

theorem close_disconnected (h : connection.close = some connection') :
    connection'.status.state = .disconnected := by
  obtain ⟨closed, hclose, rfl⟩ := Option.map_eq_some_iff.mp h
  dsimp only
  split_ifs at hclose with hopen
  · rw [status_of_close_ hclose]
  · rw [← Option.some.inj hclose]
    exact not_not.mp hopen

/-- Whether a pool has to open the connection that it has found. -/
def mustOpen (connection : BoltConnection) : Bool :=
  match connection.status.state with
  | .disconnected | .defunct => true
  | .failed => connection.reset.any fun (done, _) => done ≠ 0
  | .connected | .ready => false

end BoltConnection

namespace BoltDirectPool

variable {pool pool' : BoltDirectPool} {index : Nat} {result : Int}
  {connection connection' : BoltConnection} {surroundings : Surroundings}

/-- Whether a section of `BoltDirectPool_acquire` finds a connection that it has
to open: one that is disconnected, defunct or expired, or failed and not to be
reset. -/
def opens (age : Int) (pool : BoltDirectPool) : Bool :=
  pool.in_use_count < pool.max_size &&
    ((pool.connections.findIdx? fun connection => !connection.agent).bind
      (pool.connections[·]?)).any fun connection =>
        pool.expired age connection || connection.mustOpen

/-- To open and initialise a connection of the pool is to connect it. -/
theorem openInit_connect (hentry : pool.connections[index]? = some connection)
    (h : pool.openInit surroundings index = some (result, pool')) :
    ∃ connection', connection.connect surroundings pool.user_agent pool.auth_token =
        some (result, connection') ∧ pool'.connections[index]? = some connection' := by
  obtain ⟨hlt, -⟩ := List.getElem?_eq_some_iff.mp hentry
  unfold openInit at h
  unfold BoltConnection.connect
  split_ifs at h with hresolved
  · obtain ⟨rfl, rfl⟩ := Prod.mk.inj (Option.some.inj h)
    rw [if_pos hresolved]
    exact ⟨connection, rfl, hentry⟩
  · obtain ⟨⟨opened, pool1⟩, hopen, h⟩ := Option.bind_eq_some_iff.mp h
    obtain ⟨c, c1, hentry', hopened, rfl⟩ := onConnection_cases hopen
    obtain rfl := Option.some.inj (hentry.symm.trans hentry')
    rw [if_neg hresolved, hopened, Option.bind_some]
    dsimp only at h ⊢
    split_ifs at h ⊢
    · obtain ⟨d, c2, hentry2, hinit, rfl⟩ := onConnection_cases h
      dsimp only at hentry2 hinit ⊢
      rw [List.getElem?_set_self hlt] at hentry2
      obtain rfl := Option.some.inj hentry2
      refine ⟨c2, hinit, List.getElem?_set_self ?_⟩
      rwa [List.length_set]
    · obtain ⟨rfl, rfl⟩ := Prod.mk.inj (Option.some.inj h)
      exact ⟨c1, rfl, List.getElem?_set_self hlt⟩

/-- The switch on the state of a connection succeeds, and has not opened it
without a host; or there is an error, which is reported as none exactly if the
connection was to be opened and there is no host. -/
theorem revive_result (hentry : pool.connections[index]? = some connection)
    (h : pool.revive surroundings index = some (result, pool'))
    (hentry' : pool'.connections[index]? = some connection') :
    result = BOLT_SUCCESS ∧ ¬(connection.mustOpen = true ∧ surroundings.NoHost) ∨
      result ≠ BOLT_SUCCESS ∧ ((BoltConnection.reportedFor result connection').error = BOLT_SUCCESS ↔
        connection.mustOpen = true ∧ surroundings.NoHost) := by
  have hopens : ∀ {pool1 : BoltDirectPool} {c : BoltConnection},
      pool1.connections[index]? = some c → connection.mustOpen = true →
      pool1.openInit surroundings index = some (result, pool') →
      result = BOLT_SUCCESS ∧ ¬(connection.mustOpen = true ∧ surroundings.NoHost) ∨
        result ≠ BOLT_SUCCESS ∧
          ((BoltConnection.reportedFor result connection').error = BOLT_SUCCESS ↔
            connection.mustOpen = true ∧ surroundings.NoHost) := by
    intro pool1 c hc hmust hopen
    obtain ⟨c', hconnect, hc'⟩ := openInit_connect hc hopen
    obtain rfl := Option.some.inj (hentry'.symm.trans hc')
    simp only [hmust, true_and]
    rcases BoltConnection.connect_cases hconnect with ⟨hdone, -, hhost⟩ | ⟨hfailed, herror, -⟩
    · exact .inl ⟨hdone, hhost⟩
    · exact .inr ⟨hfailed, herror⟩
  unfold revive at h
  rw [hentry] at h
  dsimp only at h
  split at h
  · next hstate => exact hopens hentry (by rw [BoltConnection.mustOpen, hstate]) h
  · next hstate => exact hopens hentry (by rw [BoltConnection.mustOpen, hstate]) h
  · next hstate =>
    have hnot : ¬(connection.mustOpen = true ∧ surroundings.NoHost) := by
      simp [BoltConnection.mustOpen, hstate]
    obtain ⟨c, c1, hc, hinit, rfl⟩ := onConnection_cases h
    obtain ⟨hlt, -⟩ := List.getElem?_eq_some_iff.mp hc
    obtain rfl : c1 = connection' := by
      rw [List.getElem?_set_self hlt] at hentry'
      exact Option.some.inj hentry'
    rcases BoltConnection.initOrMoreInfo_result hinit with ⟨hdone, -⟩ | ⟨rfl, -, herror⟩
    · exact .inl ⟨hdone, hnot⟩
    · exact .inr ⟨by decide, iff_of_false herror hnot⟩
  · next hstate =>
    obtain ⟨⟨done, pool1⟩, hreset, h⟩ := Option.bind_eq_some_iff.mp h
    obtain ⟨c, c1, hc, hdone, rfl⟩ := onConnection_cases hreset
    obtain rfl := Option.some.inj (hentry.symm.trans hc)
    obtain ⟨hlt, -⟩ := List.getElem?_eq_some_iff.mp hc
    have hmust : connection.mustOpen = decide (done ≠ 0) := by
      simp [BoltConnection.mustOpen, hstate, hdone]
    dsimp only at h
    split_ifs at h with hzero
    · obtain ⟨rfl, rfl⟩ := Prod.mk.inj (Option.some.inj h)
      exact .inl ⟨rfl, by simp [hmust, hzero]⟩
    · exact hopens (List.getElem?_set_self hlt) (by simp [hmust, hzero]) h
  · next hstate =>
    obtain ⟨rfl, rfl⟩ := Prod.mk.inj (Option.some.inj h)
    exact .inl ⟨rfl, by simp [BoltConnection.mustOpen, hstate]⟩

theorem closePoolEntry_disconnected (h : pool.closePoolEntry index = some pool') :
    ∃ connection, pool'.connections[index]? = some connection ∧
      connection.status.state = .disconnected := by
  obtain ⟨⟨status, closed⟩, hclose, rfl⟩ := Option.map_eq_some_iff.mp h
  obtain ⟨c, c', hc, hclosed, rfl⟩ := onConnection_cases hclose
  obtain ⟨hlt, -⟩ := List.getElem?_eq_some_iff.mp hc
  refine ⟨c', List.getElem?_set_self hlt, ?_⟩
  split_ifs at hclosed with hstate
  · obtain ⟨left, hleft, hresult⟩ := Option.map_eq_some_iff.mp hclosed
    obtain ⟨-, rfl⟩ := Prod.mk.inj hresult
    exact BoltConnection.close_disconnected hleft
  · obtain ⟨-, rfl⟩ := Prod.mk.inj (Option.some.inj hclosed)
    exact not_not.mp hstate

/-- Whether the connection that is found has to be opened is known before an
expired connection is closed. -/
theorem findUnusedConnection_opens {age : Int} {found : Option Nat}
    (h : pool.findUnusedConnection age = some (found, pool')) :
    found = none ∧ pool.opens age = false ∨
      ∃ i connection, found = some i ∧ pool'.connections[i]? = some connection ∧
        pool.opens age = connection.mustOpen := by
  unfold findUnusedConnection at h
  split_ifs at h with hfull
  · obtain ⟨rfl, -⟩ := Prod.mk.inj (Option.some.inj h)
    refine .inl ⟨rfl, ?_⟩
    rw [opens, decide_eq_false (by omega), Bool.false_and]
  · have hroom : decide (pool.in_use_count < pool.max_size) = true := decide_eq_true (by omega)
    split at h
    · next hnone =>
      obtain ⟨rfl, -⟩ := Prod.mk.inj (Option.some.inj h)
      refine .inl ⟨rfl, ?_⟩
      rw [opens, hnone]
      simp
    · next i hfind =>
      obtain ⟨hlt, -⟩ := List.findIdx?_eq_some_iff_getElem.mp hfind
      have hentry : pool.connections[i]? = some pool.connections[i] := List.getElem?_eq_getElem hlt
      have hopens : pool.opens age =
          (pool.expired age pool.connections[i] || pool.connections[i].mustOpen) := by
        rw [opens, hroom, hfind, Option.bind_some, hentry]
        rfl
      rw [hentry] at h
      split_ifs at h with hexpired
      · obtain ⟨closed, hclose, hresult⟩ := Option.map_eq_some_iff.mp h
        obtain ⟨rfl, rfl⟩ := Prod.mk.inj hresult
        obtain ⟨c, hc, hdisconnected⟩ := closePoolEntry_disconnected hclose
        refine .inr ⟨i, c, rfl, hc, ?_⟩
        rw [hopens]
        simp only [Option.any_some] at hexpired
        have hmust : c.mustOpen = true := by rw [BoltConnection.mustOpen, hdisconnected]
        rw [hexpired, Bool.true_or, hmust]
      · obtain ⟨rfl, rfl⟩ := Prod.mk.inj (Option.some.inj h)
        refine .inr ⟨i, _, rfl, hentry, ?_⟩
        simp only [Option.any_some, Bool.not_eq_true] at hexpired
        rw [hopens, hexpired, Bool.false_or]

theorem withoutConnection_returned {status final : BoltStatus} {found : Option Nat}
    (h : pool.withoutConnection status = .returned found final) : found = none ∧ final = status := by
  unfold withoutConnection at h
  split_ifs at h
  obtain ⟨rfl, rfl⟩ := Acquired.returned.inj h
  exact ⟨rfl, rfl⟩

/-- A section of an acquisition that returns reports an error exactly if it has
no connection, unless it has to open one and there is no host. -/
theorem acquire_error {found : Option Nat} {status : BoltStatus}
    (h : pool.acquire surroundings = some (.returned found status, pool')) :
    (found.isSome = true ↔ status.error = BOLT_SUCCESS) ↔
      ¬(pool.opens surroundings.age = true ∧ surroundings.NoHost) := by
  rcases acquire_inv h with
    ⟨hfind, hround⟩ | ⟨i, pool1, pool2, pool_error, connection, hfind, hrevive, hentry, hround⟩
  · obtain ⟨rfl, rfl⟩ := withoutConnection_returned hround.symm
    rcases findUnusedConnection_opens hfind with ⟨-, hopens⟩ | ⟨i, c, hsome, -⟩
    · rw [hopens]
      simp
    · cases hsome
  · rcases findUnusedConnection_opens hfind with ⟨hnone, -⟩ | ⟨j, c, hsome, hc, hopens⟩
    · cases hnone
    obtain rfl := Option.some.inj hsome
    rw [hopens]
    rcases revive_result hc hrevive hentry with ⟨rfl, hhost⟩ | ⟨hfailed, herror⟩
    · rcases hround with ⟨-, hreturned, -⟩ | ⟨hne, -⟩
      · obtain ⟨rfl, rfl⟩ := Acquired.returned.inj hreturned
        exact iff_of_true (by simp) hhost
      · exact absurd rfl hne
    · rcases hround with ⟨rfl, -⟩ | ⟨-, -, hreturned⟩
      · exact absurd rfl hfailed
      · obtain ⟨rfl, rfl⟩ := withoutConnection_returned hreturned.symm
        rw [← herror]
        simp [BoltConnection.reportedFor]

end BoltDirectPool

/-! ## What a connector returns -/

namespace BoltScheme

variable {τ : Type} [DecidableEq τ]

/-- The turns of the threads that share a pool. -/
def ThreadTurn (τ : Type) : BoltScheme → Type
  | direct => Turn τ
  | neo4j => RoutingTurn τ
  | directUnpooled => UnpooledTurn τ

/-- A turn that ends a call of the acquire function of the pool: the connection
and the status that it returns. -/
def acquire : (scheme : BoltScheme) → scheme.ThreadTurn τ → scheme.Threads τ →
    Option ((Option scheme.Connection × BoltStatus) × scheme.Pool)
  | direct, (turn : Turn τ), (sharing : Sharing τ) =>
    (Sharing.take turn sharing).bind fun (notice, sharing) =>
      match notice with
      | .acquired (.returned connection status) => some ((connection, status), sharing.pool)
      | _ => none
  | neo4j, (turn : RoutingTurn τ), (routing : Routing τ) =>
    (Routing.take turn routing).bind fun (report, routing) =>
      match report with
      | .acquired (.returned connection status) => some ((connection, status), routing.pool)
      | _ => none
  | directUnpooled, (turn : UnpooledTurn τ), (threads : Unpooled τ) =>
    (Unpooled.take turn threads).bind fun (notice, threads) =>
      match notice with
      | .acquired connection status => some ((connection, status), threads.pool)
      | _ => none

end BoltScheme

/-- The end of `BoltConnector_acquire`. -/
def BoltConnector.acquire {τ : Type} [DecidableEq τ] (scheme : BoltScheme) (mode : BoltAccessMode)
    (turn : scheme.ThreadTurn τ) (threads : scheme.Threads τ) :
    Option ((Option scheme.Connection × BoltStatus) × scheme.Pool) :=
  (scheme.acquire turn threads).bind fun ((connection, status), pool) =>
    (scheme.assign mode connection pool).map fun pool => ((connection, status), pool)

namespace BoltScheme

variable {τ : Type} [DecidableEq τ]

/-- A pool has recorded that a connection is handed out. -/
def Recorded : (scheme : BoltScheme) → scheme.Connection → scheme.Pool → Prop
  | direct, (index : Nat), (pool : BoltDirectPool) =>
    (pool.connections[index]?).map BoltConnection.agent = some true
  | neo4j, (handle : Handle), (pool : BoltRoutingPool) =>
    handle.pool ∈ pool.server_pools ∧
      (connectionAt neo4j handle pool).map BoltConnection.agent = some true
  | directUnpooled, (pointer : Nat), (pool : BoltNoPool) => pointer ∈ pool.connections

/-- The result and the status of an acquisition agree, a connection that is
returned is ready and recorded, and without one no connection has been
created. -/
structure Agrees (scheme : BoltScheme) (before after : scheme.Pool)
    (connection : Option scheme.Connection) (status : BoltStatus) : Prop where
  error : connection.isSome = true ↔ status.error = BOLT_SUCCESS
  ready : ∀ pointer, connection = some pointer → scheme.Recorded pointer after ∧
    (scheme.connectionAt pointer after).map (fun connection => connection.status.state) = some .ready
  kept : connection = none → ∀ pointer,
    (scheme.connectionAt pointer after).isSome = true →
      (scheme.connectionAt pointer before).isSome = true

/-- The address resolves, and a new connection is opened and initialised. -/
def Connects (surroundings : Surroundings) (pool : BoltNoPool) : Prop :=
  surroundings.resolved = 0 ∧ ∃ opened connected,
    BoltConnection.create.openAt surroundings.target = some (0, opened) ∧
      opened.init pool.user_agent pool.auth_token = some (0, connected)

/-- The turn does not open a connection of a pool without a host; and without a
pool, it connects. -/
def Answers : (scheme : BoltScheme) → scheme.ThreadTurn τ → scheme.Threads τ → Prop
  | direct, (turn : Turn τ), (sharing : Sharing τ) =>
    match turn with
    | .acquire _ surroundings | .wake _ surroundings =>
      ¬(sharing.pool.opens surroundings.age = true ∧ surroundings.NoHost)
    | _ => True
  | neo4j, (turn : RoutingTurn τ), (routing : Routing τ) =>
    match turn with
    | .acquire thread surroundings => ∀ server status index waits pointer entry,
        routing.stages thread = .ensured server status index waits →
        routing.pool.server_pools[index]? = some pointer →
        routing.pool.allocated.read pointer = some entry →
        ¬(entry.pool.opens surroundings.age = true ∧ surroundings.NoHost)
    | _ => True
  | directUnpooled, (turn : UnpooledTurn τ), (threads : Unpooled τ) =>
    match turn with
    | .acquire _ surroundings => Connects surroundings threads.pool
    | _ => True

/-! ### The access mode -/

/-- What matters of a connection here: its agent and its state. -/
def outline (connection : BoltConnection) : Bool × BoltConnectionState :=
  (connection.agent, connection.status.state)

theorem outline_onConnection {index : Nat} {work : BoltConnection → Outcome BoltConnection}
    {result : Int} {pool pool' : BoltDirectPool}
    (hwork : ∀ c c', work c = some (result, c') → outline c' = outline c)
    (h : pool.onConnection index work = some (result, pool')) (i : Nat) :
    (pool'.connections[i]?).map outline = (pool.connections[i]?).map outline := by
  obtain ⟨c, c', hc, hdone, rfl⟩ := BoltDirectPool.onConnection_cases h
  obtain ⟨hlt, -⟩ := List.getElem?_eq_some_iff.mp hc
  dsimp only
  by_cases heq : index = i
  · rw [← heq, List.getElem?_set_self hlt, hc, Option.map_some, Option.map_some, hwork c c' hdone]
  · rw [List.getElem?_set_ne heq]

theorem outline_onServerPool {β : Type} {result : β} {handle : Handle} {pool pool' : BoltRoutingPool}
    {work : BoltDirectPool → Option (β × BoltDirectPool)}
    (hwork : ∀ direct direct', work direct = some (result, direct') → ∀ i : Nat,
      (direct'.connections[i]?).map outline = (direct.connections[i]?).map outline)
    {pointer : Nat} (h : pool.onServerPool pointer work = some (result, pool')) :
    (connectionAt neo4j handle pool').map outline = (connectionAt neo4j handle pool).map outline := by
  obtain ⟨server, direct, hread, hdone, rfl⟩ := BoltRoutingPool.onServerPool_cases h
  simp only [connectionAt]
  by_cases heq : pointer = handle.pool
  · rw [← heq, Heap.read_write_self (Heap.lt_of_read hread), hread]
    exact hwork _ _ hdone handle.index
  · rw [Heap.read_write_ne heq]

/-- Setting the access mode changes nothing else. -/
theorem assign_outline (scheme : BoltScheme) {mode : BoltAccessMode}
    {connection : Option scheme.Connection} {pool pool' : scheme.Pool}
    (h : scheme.assign mode connection pool = some pool') (pointer : scheme.Connection) :
    (scheme.connectionAt pointer pool').map outline = (scheme.connectionAt pointer pool).map outline ∧
      (scheme.Recorded pointer pool' ↔ scheme.Recorded pointer pool) := by
  rcases connection with _ | target
  · rw [Option.some.inj h]
    exact ⟨rfl, Iff.rfl⟩
  obtain ⟨⟨status, assigned⟩, hwork, rfl⟩ := Option.map_eq_some_iff.mp h
  have hmode : ∀ c c' : BoltConnection,
      some (BOLT_SUCCESS, { c with access_mode := mode }) = some (status, c') →
        outline c' = outline c := by
    intro c c' hassign
    rw [← (Prod.mk.inj (Option.some.inj hassign)).2]
    rfl
  have hagent : ∀ c : Option BoltConnection,
      c.map BoltConnection.agent = (c.map outline).map Prod.fst := by
    intro c
    cases c <;> rfl
  cases scheme with
  | direct =>
    have houtline := outline_onConnection hmode hwork pointer
    refine ⟨houtline, ?_⟩
    unfold Recorded
    dsimp only
    rw [hagent, hagent, houtline]
  | neo4j =>
    have houtline := @outline_onServerPool _ _ pointer _ _ _
      (fun _ _ => outline_onConnection hmode) _ hwork
    refine ⟨houtline, ?_⟩
    unfold Recorded
    dsimp only
    rw [hagent, hagent, houtline, (BoltRoutingPool.onHandle_works hwork).server_pools]
  | directUnpooled =>
    obtain ⟨c, hread, hdone⟩ := Option.bind_eq_some_iff.mp hwork
    obtain ⟨⟨status', c'⟩, hassign, hresult⟩ := Option.map_eq_some_iff.mp hdone
    obtain ⟨rfl, rfl⟩ := Prod.mk.inj hresult
    refine ⟨?_, Iff.rfl⟩
    simp only [connectionAt]
    by_cases heq : target = pointer
    · rw [← heq, Heap.read_write_self (Heap.lt_of_read hread), hread, Option.map_some,
        Option.map_some, hmode c c' hassign]
    · rw [Heap.read_write_ne heq]

theorem agrees_assign (scheme : BoltScheme) {mode : BoltAccessMode} {before pool pool' : scheme.Pool}
    {connection : Option scheme.Connection} {status : BoltStatus}
    (h : scheme.assign mode connection pool = some pool') :
    scheme.Agrees before pool' connection status ↔ scheme.Agrees before pool connection status := by
  have houtline := assign_outline scheme h
  have hstate : ∀ pointer, (scheme.connectionAt pointer pool').map (fun c => c.status.state) =
      (scheme.connectionAt pointer pool).map fun c => c.status.state := by
    intro pointer
    have hsame := congrArg (Option.map Prod.snd) (houtline pointer).1
    rw [Option.map_map, Option.map_map] at hsame
    exact hsame
  have hsome : ∀ pointer, (scheme.connectionAt pointer pool').isSome =
      (scheme.connectionAt pointer pool).isSome := by
    intro pointer
    have hsame := congrArg Option.isSome (hstate pointer)
    simpa only [Option.isSome_map] using hsame
  constructor
  · intro hagrees
    refine ⟨hagrees.error, fun pointer hpointer => ?_, fun hnone pointer hexists => ?_⟩
    · rw [← hstate, ← (houtline pointer).2]
      exact hagrees.ready pointer hpointer
    · rw [← hsome] at hexists
      exact hagrees.kept hnone pointer hexists
  · intro hagrees
    refine ⟨hagrees.error, fun pointer hpointer => ?_, fun hnone pointer hexists => ?_⟩
    · rw [hstate, (houtline pointer).2]
      exact hagrees.ready pointer hpointer
    · rw [hsome] at hexists
      exact hagrees.kept hnone pointer hexists

/-! ### The three schemes -/

/-- A section of the direct pool that returns keeps its connections, and a
connection that it returns is ready and has an agent. -/
theorem agrees_direct {surroundings : Surroundings} {pool pool' : BoltDirectPool}
    {found : Option Nat} {status : BoltStatus}
    (h : pool.acquire surroundings = some (.returned found status, pool')) :
    (∀ i : Nat, (pool'.connections[i]?).isSome = (pool.connections[i]?).isSome) ∧
      ∀ i, found = some i → (pool'.connections[i]?).map outline = some (true, .ready) := by
  have hlength : ∀ {pool1 pool2 : BoltDirectPool} {i : Nat},
      pool2.agents.length = pool1.agents.length →
      (pool2.connections[i]?).isSome = (pool1.connections[i]?).isSome := by
    intro pool1 pool2 i hagents
    simp only [BoltDirectPool.agents, List.length_map] at hagents
    rw [Bool.eq_iff_iff]
    simp only [isSome_getElem?, hagents]
  rcases BoltDirectPool.acquire_cases h with
    ⟨hnone, hagents, -⟩ | ⟨i, hreturned, hfree, hagents, hready, -⟩
  · refine ⟨fun i => hlength (by rw [hagents]), fun i hfound => ?_⟩
    subst hfound
    exact absurd rfl (hnone i status)
  · refine ⟨fun j => hlength (by rw [hagents, List.length_set]), fun j hfound => ?_⟩
    obtain ⟨rfl, rfl⟩ := Acquired.returned.inj hreturned
    obtain rfl := Option.some.inj hfound
    obtain ⟨hlt, -⟩ := List.getElem?_eq_some_iff.mp hfree
    have hagent : (pool'.agents)[i]? = some true := by
      rw [hagents, List.getElem?_set_self hlt]
    unfold BoltDirectPool.agents at hagent
    unfold BoltDirectPool.stateAt at hready
    rw [List.getElem?_map] at hagent
    rcases hc : pool'.connections[i]? with _ | c
    · rw [hc] at hready
      cases hready
    · rw [hc, Option.map_some, Option.some.injEq] at hagent hready
      rw [Option.map_some, outline, hagent, hready]

/-- What a section of the direct pool returns to `BoltRoutingPool_acquire`. -/
theorem acquireFrom_cases {index : Nat} {surroundings : Surroundings} {pool pool' : BoltRoutingPool}
    {connection : Option Handle} {status : BoltStatus}
    (h : pool.acquireFrom index surroundings = some (.returned connection status, pool')) :
    ∃ pointer entry found direct direct', pool.server_pools[index]? = some pointer ∧
      pool.allocated.read pointer = some entry ∧
      entry.pool.acquire surroundings = some (.returned found status, direct) ∧
      connection = found.map (fun i => ⟨pointer, i⟩) ∧
      (∀ i : Nat, (direct'.connections[i]?).map outline = (direct.connections[i]?).map outline) ∧
      pool' = { pool with
        allocated := pool.allocated.write pointer { entry with pool := direct' } } := by
  obtain ⟨pointer, hpointer, h⟩ := Option.bind_eq_some_iff.mp h
  obtain ⟨entry, direct', hread, hwork, rfl⟩ := BoltRoutingPool.onServerPool_cases h
  obtain ⟨⟨acquired, direct⟩, hacquire, hround⟩ := Option.bind_eq_some_iff.mp hwork
  rcases acquired with ⟨_ | i, status'⟩ | _
  · simp only [Option.some.injEq, Prod.mk.injEq, BoltRoutingPool.Routed.returned.injEq] at hround
    obtain ⟨⟨rfl, rfl⟩, rfl⟩ := hround
    exact ⟨pointer, entry, none, direct, direct, hpointer, hread, hacquire, rfl, fun _ => rfl, rfl⟩
  · obtain ⟨⟨cleared, direct2⟩, hset, hresult⟩ := Option.map_eq_some_iff.mp hround
    simp only [Prod.mk.injEq, BoltRoutingPool.Routed.returned.injEq] at hresult
    obtain ⟨⟨rfl, rfl⟩, rfl⟩ := hresult
    refine ⟨pointer, entry, some i, direct, direct2, hpointer, hread, hacquire, rfl, ?_, rfl⟩
    refine outline_onConnection (fun c c' hcallback => ?_) hset
    rw [← (Prod.mk.inj (Option.some.inj hcallback)).2]
    rfl
  · simp at hround

/-- A turn that returns has come to the end of a section or of a wait. -/
theorem acquire_direct {turn : Turn τ} {sharing : Sharing τ} {found : Option Nat}
    {status : BoltStatus} {pool' : BoltDirectPool}
    (h : acquire direct turn sharing = some ((found, status), pool')) :
    (∃ surroundings, sharing.pool.acquire surroundings = some (.returned found status, pool') ∧
      (Answers direct turn sharing ↔
        ¬(sharing.pool.opens surroundings.age = true ∧ surroundings.NoHost))) ∨
    found = none ∧ status.error ≠ BOLT_SUCCESS ∧ pool' = sharing.pool ∧
      Answers direct turn sharing := by
  unfold acquire at h
  obtain ⟨⟨notice, sharing'⟩, htake, hnotice⟩ := Option.bind_eq_some_iff.mp h
  dsimp only at hnotice
  split at hnotice
  case h_2 => cases hnotice
  rename_i found' status'
  obtain ⟨hresult, rfl⟩ := Prod.mk.inj (Option.some.inj hnotice)
  obtain ⟨rfl, rfl⟩ := Prod.mk.inj hresult
  cases turn with
  | acquire thread surroundings =>
    simp only [Sharing.take] at htake
    split_ifs at htake
    obtain ⟨⟨acquired, pool⟩, hacquire, hresult⟩ := Option.map_eq_some_iff.mp htake
    obtain ⟨hacquired, rfl⟩ := Prod.mk.inj hresult
    obtain rfl := Notice.acquired.inj hacquired
    refine .inl ⟨surroundings, ?_, Iff.rfl⟩
    rw [hacquire]
    rcases found' with _ | i <;> rfl
  | wake thread surroundings =>
    simp only [Sharing.take] at htake
    split_ifs at htake
    obtain ⟨⟨acquired, pool⟩, hacquire, hresult⟩ := Option.map_eq_some_iff.mp htake
    obtain ⟨hacquired, rfl⟩ := Prod.mk.inj hresult
    obtain rfl := Notice.acquired.inj hacquired
    refine .inl ⟨surroundings, ?_, Iff.rfl⟩
    rw [hacquire]
    rcases found' with _ | i <;> rfl
  | timeout thread =>
    simp only [Sharing.take] at htake
    split_ifs at htake
    obtain ⟨hacquired, rfl⟩ := Prod.mk.inj (Option.some.inj htake)
    obtain ⟨rfl, rfl⟩ := Acquired.returned.inj (Notice.acquired.inj hacquired)
    exact .inr ⟨rfl, by decide, rfl, trivial⟩
  | release thread index =>
    simp only [Sharing.take] at htake
    split_ifs at htake
    obtain ⟨⟨result, pool⟩, -, hresult⟩ := Option.map_eq_some_iff.mp htake
    cases hresult
  | use thread index operation =>
    simp only [Sharing.take] at htake
    split_ifs at htake
    obtain ⟨⟨result, pool⟩, -, hresult⟩ := Option.map_eq_some_iff.mp htake
    cases hresult
  | assign thread index access_mode on_error_cb =>
    simp only [Sharing.take] at htake
    split_ifs at htake
    obtain ⟨⟨result, pool⟩, -, hresult⟩ := Option.map_eq_some_iff.mp htake
    cases hresult

theorem agrees_acquire_direct {turn : Turn τ} {sharing : Sharing τ} {found : Option Nat}
    {status : BoltStatus} {pool' : BoltDirectPool}
    (h : acquire direct turn sharing = some ((found, status), pool')) :
    Agrees direct sharing.pool pool' found status ↔ Answers direct turn sharing := by
  rcases acquire_direct h with ⟨surroundings, hacquire, hanswers⟩ | ⟨rfl, herror, rfl, hanswers⟩
  · rw [hanswers, ← BoltDirectPool.acquire_error hacquire]
    obtain ⟨hexists, hready⟩ := agrees_direct hacquire
    constructor
    · exact fun hagrees => hagrees.error
    · intro herror
      refine ⟨herror, fun i hfound => ?_, fun _ i hsome => ?_⟩
      · have houtline := hready i hfound
        refine ⟨?_, ?_⟩
        · have hagent := congrArg (Option.map Prod.fst) houtline
          rwa [Option.map_map] at hagent
        · have hstate := congrArg (Option.map Prod.snd) houtline
          rwa [Option.map_map] at hstate
      · have hsame := hexists i
        simp only [connectionAt] at hsome ⊢
        exact hsame.symm.trans hsome
  · refine iff_of_true ⟨?_, nofun, fun _ _ hsome => hsome⟩ hanswers
    exact iff_of_false nofun herror

/-- A turn that returns has found no server, or come to the end of a section of
the direct pool of its server, or of a wait. -/
theorem acquire_neo4j {turn : RoutingTurn τ} {routing : Routing τ} {connection : Option Handle}
    {status : BoltStatus} {pool' : BoltRoutingPool}
    (h : acquire neo4j turn routing = some ((connection, status), pool')) :
    (∃ index surroundings, routing.pool.acquireFrom index surroundings =
        some (.returned connection status, pool') ∧
      (Answers neo4j turn routing ↔ ∀ pointer entry,
        routing.pool.server_pools[index]? = some pointer →
        routing.pool.allocated.read pointer = some entry →
        ¬(entry.pool.opens surroundings.age = true ∧ surroundings.NoHost))) ∨
    connection = none ∧ status.error ≠ BOLT_SUCCESS ∧ pool'.allocated = routing.pool.allocated ∧
      Answers neo4j turn routing := by
  unfold acquire at h
  obtain ⟨⟨report, routing'⟩, htake, hreport⟩ := Option.bind_eq_some_iff.mp h
  dsimp only at hreport
  split at hreport
  case h_2 => cases hreport
  rename_i connection' status'
  obtain ⟨hresult, rfl⟩ := Prod.mk.inj (Option.some.inj hreport)
  obtain ⟨rfl, rfl⟩ := Prod.mk.inj hresult
  cases turn with
  | check thread now =>
    simp only [Routing.take] at htake
    split at htake
    · next mode caller result hstage =>
      obtain ⟨⟨looked, pool⟩, hlook, hresult⟩ := Option.map_eq_some_iff.mp htake
      have hpool : pool = routing'.pool :=
        Routing.pool_looked.symm.trans (congrArg (·.2.pool) hresult)
      refine .inr ?_
      rw [← hpool, (BoltRoutingPool.look_cases hlook).1]
      rcases looked with _ | failed | ⟨server, _ | index⟩
      · cases hresult
      · obtain ⟨hfailed, -⟩ := Prod.mk.inj hresult
        obtain ⟨rfl, rfl⟩ := BoltRoutingPool.Routed.returned.inj (Report.acquired.inj hfailed)
        exact ⟨rfl, BoltRoutingPool.look_failed hlook, rfl, trivial⟩
      · cases hresult
      · cases hresult
    · cases htake
  | acquire thread surroundings =>
    simp only [Routing.take] at htake
    split at htake
    · next server caller index waits hstage =>
      obtain ⟨⟨routed, pool⟩, hacquire, hresult⟩ := Option.map_eq_some_iff.mp htake
      have hpool : pool = routing'.pool :=
        Routing.pool_acquired.symm.trans (congrArg (·.2.pool) hresult)
      have hrouted : routed = .returned connection' status' :=
        Report.acquired.inj (congrArg Prod.fst hresult)
      rw [hrouted, hpool] at hacquire
      refine .inl ⟨index, surroundings, hacquire, ?_⟩
      constructor
      · intro hanswers pointer entry
        exact hanswers server caller index waits pointer entry hstage
      · intro hanswers server2 status2 index2 waits2 pointer entry hstage2
        obtain ⟨-, -, rfl, -⟩ := Stage.ensured.inj (hstage.symm.trans hstage2)
        exact hanswers pointer entry
    · cases htake
  | timeout thread =>
    simp only [Routing.take] at htake
    split at htake
    · obtain ⟨hacquired, hrouting⟩ := Prod.mk.inj (Option.some.inj htake)
      obtain ⟨rfl, rfl⟩ := BoltRoutingPool.Routed.returned.inj (Report.acquired.inj hacquired)
      refine .inr ⟨rfl, by decide, ?_, trivial⟩
      rw [← hrouting]
      rfl
    · cases htake
  | call thread mode status' =>
    simp only [Routing.take] at htake
    split at htake <;> cases htake
  | refresh thread locked now discovery =>
    simp only [Routing.take] at htake
    split at htake
    · split_ifs at htake
      · obtain ⟨⟨result, pool⟩, -, hresult⟩ := Option.map_eq_some_iff.mp htake
        cases hresult
      · cases htake
    · cases htake
  | add thread locked =>
    simp only [Routing.take] at htake
    split at htake
    · split_ifs at htake <;> cases htake
    · cases htake
  | recheck thread =>
    simp only [Routing.take] at htake
    split at htake <;> cases htake
  | release thread handle =>
    simp only [Routing.take] at htake
    split_ifs at htake
    obtain ⟨⟨result, pool⟩, -, hresult⟩ := Option.map_eq_some_iff.mp htake
    cases hresult
  | forgetServer thread server =>
    simp only [Routing.take] at htake
    split_ifs at htake
    cases htake
  | forgetWriter thread server =>
    simp only [Routing.take] at htake
    split_ifs at htake
    cases htake
  | use thread handle operation =>
    simp only [Routing.take] at htake
    split_ifs at htake
    obtain ⟨⟨result, pool⟩, -, hresult⟩ := Option.map_eq_some_iff.mp htake
    cases hresult
  | assign thread handle access_mode =>
    simp only [Routing.take] at htake
    split_ifs at htake
    obtain ⟨⟨result, pool⟩, -, hresult⟩ := Option.map_eq_some_iff.mp htake
    cases hresult

theorem agrees_acquire_neo4j {turn : RoutingTurn τ} {routing : Routing τ}
    {connection : Option Handle} {status : BoltStatus} {pool' : BoltRoutingPool}
    (h : acquire neo4j turn routing = some ((connection, status), pool')) :
    Agrees neo4j routing.pool pool' connection status ↔ Answers neo4j turn routing := by
  rcases acquire_neo4j h with ⟨index, surroundings, hacquire, hanswers⟩ | ⟨rfl, herror, hsame, hanswers⟩
  · obtain ⟨pointer, entry, found, direct, direct', hpointer, hread, hsection, rfl, houtline, rfl⟩ :=
      acquireFrom_cases hacquire
    have hentry : Answers neo4j turn routing ↔
        ¬(entry.pool.opens surroundings.age = true ∧ surroundings.NoHost) := by
      rw [hanswers]
      constructor
      · exact fun hall => hall pointer entry hpointer hread
      · intro hentry pointer' entry' hpointer' hread'
        obtain rfl := Option.some.inj (hpointer.symm.trans hpointer')
        obtain rfl := Option.some.inj (hread.symm.trans hread')
        exact hentry
    rw [hentry, ← BoltDirectPool.acquire_error hsection]
    obtain ⟨hexists, hready⟩ := agrees_direct hsection
    have hself : ∀ direct2 : BoltDirectPool,
        (routing.pool.allocated.write pointer { entry with pool := direct2 }).read pointer =
          some { entry with pool := direct2 } :=
      fun direct2 => Heap.read_write_self (Heap.lt_of_read hread)
    constructor
    · intro hagrees
      have herror : (found.map fun i => (⟨pointer, i⟩ : Handle)).isSome = true ↔
        status.error = BOLT_SUCCESS := hagrees.error
      rwa [Option.isSome_map] at herror
    · intro herror
      refine ⟨?_, fun handle hhandle => ?_, fun _ handle hsome => ?_⟩
      · show (found.map fun i => (⟨pointer, i⟩ : Handle)).isSome = true ↔ _
        rwa [Option.isSome_map]
      · obtain ⟨i, rfl, rfl⟩ := Option.map_eq_some_iff.mp hhandle
        have hview : (direct'.connections[i]?).map outline = some (true, .ready) :=
          (houtline i).trans (hready i rfl)
        simp only [Recorded, connectionAt, hself, Option.bind_some]
        refine ⟨⟨List.mem_of_getElem? hpointer, ?_⟩, ?_⟩
        · have hagent := congrArg (Option.map Prod.fst) hview
          rwa [Option.map_map] at hagent
        · have hstate := congrArg (Option.map Prod.snd) hview
          rwa [Option.map_map] at hstate
      · simp only [connectionAt] at hsome ⊢
        by_cases heq : pointer = handle.pool
        · rw [← heq, hself, Option.bind_some] at hsome
          rw [← heq, hread, Option.bind_some]
          have hview := congrArg Option.isSome (houtline handle.index)
          rw [Option.isSome_map, Option.isSome_map] at hview
          rw [← hexists, ← hview]
          exact hsome
        · rwa [Heap.read_write_ne heq] at hsome
  · refine iff_of_true ⟨iff_of_false Bool.false_ne_true herror, by simp, fun _ handle hsome => ?_⟩ hanswers
    simp only [connectionAt] at hsome ⊢
    rwa [hsame] at hsome

theorem connects_iff {surroundings : Surroundings} {pool : BoltNoPool} {pool_error : Int}
    {c : BoltConnection} (h : pool.connect surroundings = some (pool_error, c)) :
    Connects surroundings pool ↔ pool_error = BOLT_SUCCESS := by
  unfold BoltNoPool.connect BoltConnection.connect at h
  unfold Connects
  split_ifs at h with hresolved
  · obtain ⟨rfl, -⟩ := Prod.mk.inj (Option.some.inj h)
    exact iff_of_false (fun hconnects => hresolved hconnects.1) (by decide)
  · obtain ⟨⟨opened, left⟩, hopen, h⟩ := Option.bind_eq_some_iff.mp h
    have hzero : surroundings.resolved = 0 := not_not.mp hresolved
    rw [hopen]
    dsimp only at h
    split_ifs at h with hopened
    · obtain ⟨⟨done, final⟩, hinit, hresult⟩ := Option.map_eq_some_iff.mp h
      dsimp only at hresult
      constructor
      · rintro ⟨-, c1, c2, hopen', hinit'⟩
        obtain ⟨rfl, rfl⟩ := Prod.mk.inj (Option.some.inj hopen')
        rw [hinit] at hinit'
        obtain ⟨rfl, rfl⟩ := Prod.mk.inj (Option.some.inj hinit')
        exact (Prod.mk.inj hresult).1.symm
      · rintro rfl
        split_ifs at hresult with hdone
        · exact ⟨hzero, left, final, by rw [hopened], by rw [hinit, hdone]⟩
        · exact absurd (Prod.mk.inj hresult).1 (by decide)
    · obtain ⟨rfl, -⟩ := Prod.mk.inj (Option.some.inj h)
      refine iff_of_false ?_ (by decide)
      rintro ⟨-, c1, c2, hopen', -⟩
      exact hopened (Prod.mk.inj (Option.some.inj hopen')).1

theorem agrees_acquire_directUnpooled {turn : UnpooledTurn τ} {threads : Unpooled τ}
    {connection : Option Nat} {status : BoltStatus} {pool' : BoltNoPool}
    (h : acquire directUnpooled turn threads = some ((connection, status), pool')) :
    Agrees directUnpooled threads.pool pool' connection status ↔
      Answers directUnpooled turn threads := by
  unfold acquire at h
  obtain ⟨⟨notice, threads'⟩, htake, hnotice⟩ := Option.bind_eq_some_iff.mp h
  dsimp only at hnotice
  split at hnotice
  case h_2 => cases hnotice
  rename_i connection' status'
  obtain ⟨hresult, rfl⟩ := Prod.mk.inj (Option.some.inj hnotice)
  obtain ⟨rfl, rfl⟩ := Prod.mk.inj hresult
  cases turn with
  | acquire thread surroundings =>
    obtain ⟨⟨⟨found, reported⟩, pool⟩, hacquire, hresult⟩ := Option.map_eq_some_iff.mp htake
    obtain ⟨hacquired, rfl⟩ := Prod.mk.inj hresult
    obtain ⟨rfl, rfl⟩ := UnpooledNotice.acquired.inj hacquired
    obtain ⟨pool_error, c, hconnect, rfl, hallocated, hrecorded⟩ := BoltNoPool.acquire_cases hacquire
    have hread : pool.allocated.read threads.pool.allocated.length = some c := by
      rw [hallocated]
      exact Heap.read_alloc_self
    show _ ↔ Connects surroundings threads.pool
    rw [connects_iff hconnect]
    rcases BoltConnection.connect_cases hconnect with
      ⟨rfl, hready, -⟩ | ⟨hfailed, -, hleft⟩
    · rcases hrecorded with ⟨-, rfl, hconnections⟩ | ⟨hne, -⟩
      · refine iff_of_true ⟨iff_of_true rfl rfl, fun pointer hpointer => ?_, nofun⟩ rfl
        obtain rfl := Option.some.inj hpointer
        refine ⟨?_, ?_⟩
        · simp only [Recorded, hconnections]
          exact List.mem_append_right _ (List.mem_singleton.mpr rfl)
        · simp only [connectionAt, hread, Option.map_some, hready]
      · exact absurd rfl hne
    · refine iff_of_false (fun hagrees => ?_) hfailed
      obtain ⟨-, hready⟩ := hagrees.ready _ rfl
      simp only [connectionAt, hread, Option.map_some, Option.some.injEq] at hready
      rcases hleft with rfl | hdefunct
      · cases hready
      · rw [hdefunct] at hready
        cases hready
  | release thread pointer =>
    simp only [Unpooled.take] at htake
    split_ifs at htake
    obtain ⟨⟨result, pool⟩, -, hresult⟩ := Option.map_eq_some_iff.mp htake
    cases hresult
  | use thread pointer operation =>
    simp only [Unpooled.take] at htake
    split_ifs at htake
    obtain ⟨⟨result, pool⟩, -, hresult⟩ := Option.map_eq_some_iff.mp htake
    cases hresult
  | assign thread pointer access_mode =>
    simp only [Unpooled.take] at htake
    split_ifs at htake
    obtain ⟨⟨result, pool⟩, -, hresult⟩ := Option.map_eq_some_iff.mp htake
    cases hresult

/-- The result and the status of `BoltConnector_acquire` agree, if and only if the
turn that ends it does not open a pooled connection without a host, or, without
a pool, connects. -/
theorem acquire_agrees_iff (scheme : BoltScheme) (mode : BoltAccessMode)
    (turn : scheme.ThreadTurn τ) (threads : scheme.Threads τ)
    (connection : Option scheme.Connection) (status : BoltStatus) (pool' : scheme.Pool)
    (h : BoltConnector.acquire scheme mode turn threads = some ((connection, status), pool')) :
    scheme.Agrees (scheme.pool threads) pool' connection status ↔ scheme.Answers turn threads := by
  obtain ⟨⟨⟨found, reported⟩, pool⟩, hacquire, hend⟩ := Option.bind_eq_some_iff.mp h
  obtain ⟨assigned, hassign, hresult⟩ := Option.map_eq_some_iff.mp hend
  simp only [Prod.mk.injEq] at hresult
  obtain ⟨⟨rfl, rfl⟩, rfl⟩ := hresult
  rw [scheme.agrees_assign hassign]
  cases scheme with
  | direct => exact agrees_acquire_direct hacquire
  | neo4j => exact agrees_acquire_neo4j hacquire
  | directUnpooled => exact agrees_acquire_directUnpooled hacquire

/-- A server that greets and accepts the credentials. -/
def greeting : Surroundings :=
  ⟨0, 0, BoltConnection.answering (frames ([[0xB1, 0x70, 0xA0]].map chunksOf))⟩

/-- A connection of a new pool is handed out. -/
theorem acquire_agrees_iff_greeting :
    ∃ pool' : BoltDirectPool, Agrees direct (.create (ascii "agent") 0 0 (.dictionary []) 1 : BoltDirectPool)
      pool' (some (0 : Nat) : Option Nat) ⟨.ready, BOLT_SUCCESS⟩ := by
  have hacquire : (BoltConnector.acquire direct .read (.acquire 1 greeting : Turn Nat)
      (Sharing.start (.create (ascii "agent") 0 0 (.dictionary []) 1) : Sharing Nat)).map
        (fun result : (Option Nat × BoltStatus) × BoltDirectPool => result.1) =
      some (some 0, ⟨.ready, BOLT_SUCCESS⟩) := by
    decide +kernel
  obtain ⟨⟨⟨connection, status⟩, pool'⟩, hacquire, hresult⟩ := Option.map_eq_some_iff.mp hacquire
  obtain ⟨rfl, rfl⟩ := Prod.mk.inj hresult
  have hanswers : ¬((BoltDirectPool.create (ascii "agent") 0 0 (.dictionary []) 1).opens
      greeting.age = true ∧ greeting.NoHost) := by
    decide +kernel
  exact ⟨pool', (acquire_agrees_iff direct .read (.acquire 1 greeting : Turn Nat)
    (Sharing.start (.create (ascii "agent") 0 0 (.dictionary []) 1) : Sharing Nat) _ _ pool'
    hacquire).mpr hanswers⟩

/-- Without a pool, a connection is returned although the address does not
resolve; and a pool has no error for an address that resolves to no host. -/
theorem acquire_disagrees :
    (∃ pool' : BoltNoPool, BoltConnector.acquire directUnpooled .read
        (.acquire 1 ⟨0, 1, ⟨.create, [], []⟩⟩ : UnpooledTurn Nat)
        (Unpooled.start (.create (ascii "agent") (.dictionary [])) : Unpooled Nat) =
          some (((some (0 : Nat) : Option Nat), ⟨.disconnected, BOLT_ADDRESS_NOT_RESOLVED⟩), pool') ∧
      ¬Agrees directUnpooled (.create (ascii "agent") (.dictionary []) : BoltNoPool) pool'
        (some (0 : Nat) : Option Nat) ⟨.disconnected, BOLT_ADDRESS_NOT_RESOLVED⟩) ∧
    ∃ pool' : BoltDirectPool, BoltConnector.acquire direct .read
        (.acquire 1 ⟨0, 0, ⟨.create, [], []⟩⟩ : Turn Nat)
        (Sharing.start (.create (ascii "agent") 0 0 (.dictionary []) 1) : Sharing Nat) =
          some (((none : Option Nat), ⟨.defunct, BOLT_SUCCESS⟩), pool') ∧
      ¬Agrees direct (.create (ascii "agent") 0 0 (.dictionary []) 1 : BoltDirectPool) pool'
        (none : Option Nat) ⟨.defunct, BOLT_SUCCESS⟩ := by
  have hunpooled : (BoltConnector.acquire directUnpooled .read
      (.acquire 1 ⟨0, 1, ⟨.create, [], []⟩⟩ : UnpooledTurn Nat)
      (Unpooled.start (.create (ascii "agent") (.dictionary [])) : Unpooled Nat)).map
        (fun result : (Option Nat × BoltStatus) × BoltNoPool => result.1) =
      some (some 0, ⟨.disconnected, BOLT_ADDRESS_NOT_RESOLVED⟩) := by
    decide +kernel
  have hdirect : (BoltConnector.acquire direct .read
      (.acquire 1 ⟨0, 0, ⟨.create, [], []⟩⟩ : Turn Nat)
      (Sharing.start (.create (ascii "agent") 0 0 (.dictionary []) 1) : Sharing Nat)).map
        (fun result : (Option Nat × BoltStatus) × BoltDirectPool => result.1) =
      some (none, ⟨.defunct, BOLT_SUCCESS⟩) := by
    decide +kernel
  obtain ⟨⟨result, pool1⟩, hacquire1, rfl⟩ := Option.map_eq_some_iff.mp hunpooled
  obtain ⟨⟨result', pool2⟩, hacquire2, rfl⟩ := Option.map_eq_some_iff.mp hdirect
  refine ⟨⟨pool1, hacquire1, fun hagrees => ?_⟩, pool2, hacquire2, fun hagrees => ?_⟩
  · exact absurd (hagrees.error.mp rfl) (by decide)
  · exact absurd (hagrees.error.mpr rfl) nofun

end BoltScheme

end Seabolt
