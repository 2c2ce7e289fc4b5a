import Seabolt.Logged.Requests
import Seabolt.Logged.Fetch

/-!
# Transparent logging

The calls of `connection.c` that set and load request data, send it and process responses,
each with the calls of the logger that it makes.  A logger changes nothing in what they
return and do (`result_logged`), but for one argument: a NULL list of bookmarks is printed
by the third version, and the type of NULL cannot be read (`transparent_iff`).
-/

namespace Seabolt

open Erasure

namespace Logged

section Definitions

variable (log : Log)

/-! ## Initialisation -/

/-- The quiet `load_message` of the initialisation. -/
def loadQuiet (message : BoltMessage) (connection : BoltConnection) :
    Logged (Int × BoltConnection) :=
  match connection.protocol with
  | none => liftM (none : Outcome BoltConnection)
  | some protocol => do
    let (status, connection, state) ← loadMessage log protocol.version message true
      ({ connection with protocol := none }, protocol.state)
    pure (status, { connection with protocol := some { protocol with state := state } })

/-- `BoltProtocolV1_init` and `BoltProtocolV3_hello`, which log the message with masked
credentials. -/
def protocolInit (protocol : BoltProtocol) (user_agent : List UInt8) (auth_token : BoltValue)
    (connection : BoltConnection) : Logged (Int × BoltConnection) := do
  let version := protocol.version
  let masked ← liftM (version.compileInit user_agent auth_token true version.createInit)
  log.message connection.currentId "C" protocol.state.next_request_id masked.code
    (.list masked.fields) version
  let message ← liftM (version.compileInit user_agent auth_token false masked)
  TRY (loadQuiet log message connection) fun connection => do
    let init_request ← liftM connection.lastRequest
    TRY (send log connection.currentId connection) fun connection =>
      TRY (fetchSummary log connection init_request) fun connection => do
        let protocol ← liftM connection.protocol
        pure (protocol.state.data_type.toInt, connection)

/-- What `BoltConnection_init` does with the result of the protocol's `init`. -/
def initialised (code : Int) (connection : BoltConnection) : Logged (Int × BoltConnection) := do
  let id := connection.currentId
  if code = BOLT_V1_SUCCESS.toInt then
    let connection ← setStatus log id [] .ready BOLT_SUCCESS connection
    pure (0, connection)
  else if code = BOLT_V1_FAILURE.toInt then
    let error_ctx := log.context (.located "BoltConnection_init(%s:%d), failure message")
    let connection ← setStatus log id error_ctx .defunct BOLT_PERMISSION_DENIED connection
    pure (-1, connection)
  else
    log.error "[%s]: Protocol violation (received summary code %d)" [.string id, .number code]
    let error_ctx := log.context (.located "BoltConnection_init(%s:%d), received summary code: %d")
    let connection ← setStatus log id error_ctx .defunct BOLT_PROTOCOL_VIOLATION connection
    pure (-1, connection)

/-- `BoltConnection_init`. -/
def init (user_agent : List UInt8) (auth_token : BoltValue) (connection : BoltConnection) :
    Logged (Int × BoltConnection) := do
  log.info "[%s]: Initialising connection" [.string connection.currentId]
  if connection.protocol_version = 1 ∨ connection.protocol_version = 2 ∨
      connection.protocol_version = 3 then
    match connection.protocol with
    | none => liftM (none : Outcome BoltConnection)
    | some protocol =>
      let (code, connection) ← protocolInit log protocol user_agent auth_token connection
      initialised log code connection
  else
    let error_ctx := log.context (.located "BoltConnection_init(%s:%d)")
    let connection ← setStatus log connection.currentId error_ctx .defunct
      BOLT_PROTOCOL_UNSUPPORTED connection
    pure (-1, connection)

/-- `reset` of `direct-pool.c`. -/
def reset (connection : BoltConnection) : Logged (Int × BoltConnection) := do
  let (loaded, connection) ← request log .loadResetRequest connection
  if loaded = 0 then
    let request_id ← liftM connection.lastRequest
    let (sent, connection) ← send log connection.currentId connection
    if sent < 0 then pure (-1, connection)
    else
      let (records, connection) ← fetchSummary log connection request_id
      if records < 0 then pure (-1, connection)
      else if connection.isSummary BOLT_V1_SUCCESS then pure (0, connection)
      else pure (-1, connection)
  else pure (-1, connection)

end Definitions

variable {log : Log}

@[simp] theorem result_loadQuiet (message : BoltMessage) (connection : BoltConnection) :
    result (loadQuiet log message connection) = connection.loadMessage message := by
  unfold loadQuiet BoltConnection.loadMessage
  cases connection.protocol with
  | none => rfl
  | some protocol =>
    simp only [result_bind, result_loadMessage, result_pure]
    exact Option.map_eq_bind.symm

@[simp] theorem result_protocolInit (protocol : BoltProtocol) (user_agent : List UInt8)
    (auth_token : BoltValue) (connection : BoltConnection) :
    result (protocolInit log protocol user_agent auth_token connection) =
      connection.protocolInit protocol.version user_agent auth_token := by
  simp only [protocolInit, BoltConnection.protocolInit, result_bind, result_liftM,
    Log.result_message, Option.bind_some, result_TRY, result_loadQuiet, result_send,
    result_fetchSummary, result_pure, ProtocolVersion.initMessage_eq, Option.bind_assoc,
    Option.map_eq_bind, Function.comp_def]

@[simp] theorem result_initialised (code : Int) (connection : BoltConnection) :
    result (initialised log code connection) =
      some (BoltConnection.initialised code connection) := by
  simp only [initialised, BoltConnection.initialised, result_ite, result_bind, result_setStatus,
    Log.result_error, Option.bind_some, result_pure]
  split_ifs <;> rfl

@[simp] theorem result_init (user_agent : List UInt8) (auth_token : BoltValue)
    (connection : BoltConnection) :
    result (init log user_agent auth_token connection) =
      connection.init user_agent auth_token := by
  unfold init BoltConnection.init
  rw [result_bind, Log.result_info, Option.bind_some, result_ite]
  refine if_congr Iff.rfl ?_ ?_
  · cases connection.protocol with
    | none => rfl
    | some protocol =>
      simp only [result_bind, result_protocolInit, result_initialised]
      exact Option.map_eq_bind.symm
  · simp only [result_bind, result_setStatus, Option.bind_some, result_pure]

theorem passesNull_reset (version : ProtocolVersion) :
    passesNull version .loadResetRequest = false := by
  cases version <;> rfl

@[simp] theorem result_reset (connection : BoltConnection) :
    result (reset log connection) = connection.reset := by
  have hreset : result (request log .loadResetRequest connection) = connection.loadResetRequest :=
    result_request fun protocol _ hnull => by rw [passesNull_reset] at hnull; cases hnull
  unfold reset BoltConnection.reset
  rw [result_bind, hreset]
  congr 1
  funext outcome
  obtain ⟨loaded, connection⟩ := outcome
  simp only [result_ite, result_bind, result_liftM, result_send, result_fetchSummary,
    Option.bind_some, result_pure]
  refine if_congr Iff.rfl ?_ rfl
  congr 1
  funext request_id
  refine if_congr Iff.rfl rfl ?_
  rw [Option.map_eq_bind]
  congr 1
  funext outcome
  simp only [Function.comp_apply]
  split_ifs <;> rfl

end Logged

/-! ## Calls -/

/-- A call of a user or of a pool that sets, loads or sends request data or processes a
response. -/
inductive Exchange where
  | request (request : Request)
  | send
  | fetch (request : Nat)
  | fetchSummary (request : Nat)
  | init (user_agent : List UInt8) (auth_token : BoltValue)
  | reset

namespace Exchange

/-- The call as the rest of the model has it. -/
def call : Exchange → BoltConnection → Outcome BoltConnection
  | .request r, connection => connection.request r
  | .send, connection => some connection.send
  | .fetch request_id, connection => connection.fetch request_id
  | .fetchSummary request_id, connection => connection.fetchSummary request_id
  | .init user_agent auth_token, connection => connection.init user_agent auth_token
  | .reset, connection => connection.reset

/-- The call with what it logs. -/
def logged (log : Log) : Exchange → BoltConnection → Logged (Int × BoltConnection)
  | .request r, connection => Logged.request log r connection
  | .send, connection => Logged.send log connection.currentId connection
  | .fetch request_id, connection => Logged.fetch log connection request_id
  | .fetchSummary request_id, connection => Logged.fetchSummary log connection request_id
  | .init user_agent auth_token, connection => Logged.init log user_agent auth_token connection
  | .reset, connection => Logged.reset log connection

/-- The call passes NULL for a list of bookmarks to the third version. -/
def passesNull (connection : BoltConnection) : Exchange → Bool
  | .request r =>
    connection.protocol.any fun protocol => Logged.passesNull protocol.version r
  | _ => false

variable {log : Log} {exchange : Exchange} {connection : BoltConnection}

/-- A call that does not print NULL does what it does without a logger. -/
theorem result_logged (h : exchange.passesNull connection = true → log.enabled .debug = false) :
    result (exchange.logged log connection) = exchange.call connection := by
  cases exchange with
  | request r =>
    refine Logged.result_request fun protocol hprotocol hnull => h ?_
    rw [passesNull, hprotocol]
    exact hnull
  | send => exact Logged.result_send connection
  | fetch request_id => exact Logged.result_fetch connection request_id
  | fetchSummary request_id => exact Logged.result_fetchSummary connection request_id
  | init user_agent auth_token => exact Logged.result_init user_agent auth_token connection
  | reset => exact Logged.result_reset connection

/-- A call that prints NULL reads through it. -/
theorem result_logged_null (hnull : exchange.passesNull connection = true)
    (h : log.enabled .debug = true) : result (exchange.logged log connection) = none := by
  cases exchange with
  | request r =>
    obtain ⟨protocol, hprotocol, hnull⟩ := (Option.any_eq_true _ _).mp hnull
    exact Logged.result_request_null hprotocol hnull h
  | _ => cases hnull

/-- The bookmarks of the RUN that is prepared are cleared. -/
def clearBookmarks : Exchange := .request (.setRunBookmarks none)

/-- A log of which nothing is printed but what the model has. -/
def unprinted (logger : Option Logger) : Log where
  logger := logger
  printing := { double := fun _ => [], error_ctx := fun _ _ _ => [] }
  object := fun _ => []
  context := fun _ => []

/-- Without a logger the call returns; with all levels enabled it reads through NULL. -/
theorem clearBookmarks_not_transparent :
    (result (clearBookmarks.logged (unprinted none) (idle .v3))).map Prod.fst =
      some BOLT_SUCCESS ∧
    result (clearBookmarks.logged (unprinted (some Logger.all)) (idle .v3)) = none := by
  constructor
  · rw [result_logged fun _ => rfl]
    decide +kernel
  · exact result_logged_null rfl rfl

/-- Whatever a call returns and does without a logger, it returns and does with a logger
exactly if it does not pass NULL for a list of bookmarks to the third version while the
level for debugging is enabled. -/
theorem transparent_iff (log : Log) (logger : Logger) {outcome : Int × BoltConnection}
    (haccepts : result (exchange.logged { log with logger := none } connection) = some outcome) :
    result (exchange.logged { log with logger := some logger } connection) = some outcome ↔
      ¬(exchange.passesNull connection = true ∧ logger .debug = true) := by
  rw [result_logged fun _ => rfl] at haccepts
  constructor
  · rintro hlogged ⟨hnull, hdebug⟩
    have hnone : result (exchange.logged { log with logger := some logger } connection) = none :=
      result_logged_null hnull hdebug
    rw [hnone] at hlogged
    cases hlogged
  · intro hnot
    rw [result_logged, haccepts]
    intro hnull
    cases hdebug : logger .debug with
    | false => exact hdebug
    | true => exact absurd ⟨hnull, hdebug⟩ hnot

/-- Two bookmarks. -/
def twoBookmarks : BoltValue :=
  .list [.string (ascii "neo4j:bookmark:v1:tx16"), .string (ascii "neo4j:bookmark:v1:tx23")]

/-- The bookmarks are printed and set. -/
theorem transparent_iff_bookmarks : ∃ outcome,
    result ((request (.setRunBookmarks (some twoBookmarks))).logged (unprinted (some Logger.all))
      (idle .v3)) = some outcome ∧ outcome.1 = BOLT_SUCCESS := by
  have hstatus : ((request (.setRunBookmarks (some twoBookmarks))).call (idle .v3)).map Prod.fst =
      some BOLT_SUCCESS := by
    decide +kernel
  obtain ⟨outcome, hcall, hsuccess⟩ := Option.map_eq_some_iff.mp hstatus
  have haccepts : result ((request (.setRunBookmarks (some twoBookmarks))).logged (unprinted none)
      (idle .v3)) = some outcome := by
    rw [result_logged fun _ => rfl, hcall]
  refine ⟨outcome, ?_, hsuccess⟩
  exact (transparent_iff (unprinted none) Logger.all haccepts).mpr fun h => nomatch h.1

end Exchange

end Seabolt
