import Seabolt.Logged.Calls

/-!
# Requests with logging

The setters and the `load` functions of `v1.c` and `v3.c`, with the calls of the logger
that are in them.  Without what they write they are the functions of the same names in
`Seabolt.Requests` (`result_request`), with one exception: `_set_tx_bookmark` prints the
list of bookmarks before it compares it with NULL (`result_setTxBookmark_null`).
-/

namespace Seabolt

open BoltValue Erasure

namespace Logged

section Definitions

variable {σ : Type} (log : Log) (version : ProtocolVersion)

/-- The `TRY` macro. -/
def TRY (r : Logged (Int × σ)) (next : σ → Logged (Int × σ)) : Logged (Int × σ) := do
  let (status, state) ← r
  if status = BOLT_SUCCESS then next state else pure (status, state)

/-! ## Loading -/

/-- `BoltProtocolV1_load_message` and `BoltProtocolV3_load_message`. -/
def loadMessage (message : BoltMessage) (quiet : Bool) (session : Session) :
    Logged (Int × Session) := do
  onlyIf (quiet = false) (log.message (sessionId version session) "C" session.2.next_request_id
    message.code (.list message.fields) version)
  liftM (Seabolt.loadMessage version.checkWritableStruct message session)

/-- The functions that load DISCARD_ALL and PULL_ALL. -/
def loadAll (request : BoltProtocolState → BoltMessage) (n : Int) (session : Session) :
    Logged (Int × Session) :=
  if n ≥ 0 then pure (BOLT_PROTOCOL_VIOLATION, session)
  else loadMessage log version (request session.2) false session

/-- `BoltProtocolV1_load_reset_request` and `BoltProtocolV3_load_reset`. -/
def loadReset (session : Session) : Logged (Int × Session) :=
  TRY (loadMessage log version session.2.reset_request false session) fun (connection, state) =>
    pure (BOLT_SUCCESS, connection, { state with failure_data := none })

/-- The functions of the first version that load a transaction message and a
DISCARD_ALL. -/
def loadAndDiscard (request : BoltProtocolState → BoltMessage) (session : Session) :
    Logged (Int × Session) :=
  TRY (loadMessage log version (request session.2) false session) fun session =>
    loadMessage log version session.2.discard_request false session

/-! ## Bookmarks of the third version -/

/-- The loop of `_set_tx_bookmark`: whether every element is a String. -/
def checkBookmarks (id : List UInt8) : Nat → List BoltValue → Logged Bool
  | _, [] => pure true
  | i, element :: elements =>
    if element.type ≠ .string then do
      log.debug "[%s]: passed bookmark at position %d is not of type BOLT_STRING, it is: %d"
        [.string id, .number i, .number element.type.ctorIdx]
      pure false
    else checkBookmarks id (i + 1) elements

/-- `_set_tx_bookmark`, on the entries of the metadata. -/
def setTxBookmarkEntries (id : List UInt8) (bookmark_list : Option BoltValue)
    (entries : List (BoltValue × BoltValue)) :
    Logged (Int × List (BoltValue × BoltValue)) := do
  log.value "[%s]: setting transaction_bookmark: %s" id version bookmark_list
  let present := (keyIndex entries BOOKMARKS_KEY).isSome
  match bookmark_list with
  | none =>
    log.debug "[%s]: passed bookmarks list is NULL" [.string id]
    onlyIf present (log.debug "[%s]: clearing out already set bookmarks" [.string id])
    pure (BOLT_SUCCESS, changeIfPresent BOOKMARKS_KEY (·.formatAsList 0) entries)
  | some (.list elements) =>
    if ← checkBookmarks log id 0 elements then
      onlyIf (¬present) (log.debug
        "[%s]: metadata map doesn't contain a key for bookmarks, adding an entry." [.string id])
      log.debug "[%s]: copying passed in bookmarks list into metadata map" [.string id]
      liftM (copyEntry BOOKMARKS_KEY (.list elements) entries)
    else pure (BOLT_PROTOCOL_VIOLATION, entries)
  | some bookmark_list =>
    log.debug "[%s]: passed bookmarks list is not of type BOLT_LIST, it is: %d"
      [.string id, .number bookmark_list.type.ctorIdx]
    pure (BOLT_PROTOCOL_VIOLATION, entries)

/-- `_set_tx_bookmark`. -/
def setTxBookmark (id : List UInt8) (bookmark_list : Option BoltValue) :
    BoltValue → Logged (Int × BoltValue)
  | dictionary entries => do
    let (status, entries) ← setTxBookmarkEntries log version id bookmark_list entries
    pure (status, dictionary entries)
  | _ => liftM (none : Outcome BoltValue)

/-- Change the value that `BoltMessage_param` points to. -/
def update (message : BoltMessage) (index : Nat) (change : BoltValue → Logged (Int × BoltValue)) :
    Logged (Int × BoltMessage) :=
  match message.fields[index]? with
  | none => liftM (none : Outcome BoltMessage)
  | some value => do
    let (status, value) ← change value
    pure (status, { message with fields := message.fields.set index value })

/-- `BoltProtocolV3_set_begin_tx_bookmark`. -/
def setBeginTxBookmark (bookmark_list : Option BoltValue) (session : Session) :
    Logged (Int × Session) := do
  let id := sessionId version session
  let (status, message) ←
    update session.2.begin_request 0 (setTxBookmark log version id bookmark_list)
  pure (status, session.1, { session.2 with begin_request := message })

/-- `BoltProtocolV3_set_run_bookmark`. -/
def setRunBookmark (bookmark_list : Option BoltValue) (session : Session) :
    Logged (Int × Session) := do
  let id := sessionId version session
  let (status, message) ←
    update session.2.run_request 2 (setTxBookmark log version id bookmark_list)
  pure (status, session.1, { session.2 with run_request := message })

/-- `BoltProtocolV3_load_begin_tx`. -/
def loadBeginTx (session : Session) : Logged (Int × Session) :=
  TRY (liftM (onBeginRequest (·.update 0 (setAccessMode session.1.access_mode)) session))
    fun session => loadMessage log version session.2.begin_request false session

/-- `BoltProtocolV3_load_run`. -/
def loadRun (session : Session) : Logged (Int × Session) :=
  TRY (liftM (onRunRequest (·.update 2 (setAccessMode session.1.access_mode)) session))
    fun session => loadMessage log version session.2.run_request false session

/-! ## The functions of the protocols -/

/-- The table of `v1.c`.  The setters do not log. -/
def requestV1 : Request → Session → Logged (Int × Session)
  | .loadBeginRequest => loadAndDiscard log version (·.begin_request)
  | .loadCommitRequest => loadAndDiscard log version (·.commit_request)
  | .loadRollbackRequest => loadAndDiscard log version (·.rollback_request)
  | .loadRunRequest => fun session => loadMessage log version session.2.run_request false session
  | .loadDiscardRequest n => loadAll log version (·.discard_request) n
  | .loadPullRequest n => loadAll log version (·.pull_request) n
  | .loadResetRequest => loadReset log version
  | request => fun session =>
    liftM (BoltProtocolV1.request version.checkWritableStruct request session)

/-- The table of `v3.c`.  Of the setters only those for bookmarks log. -/
def requestV3 : Request → Session → Logged (Int × Session)
  | .setBeginBookmarks bookmark_list => setBeginTxBookmark log version bookmark_list
  | .setRunBookmarks bookmark_list => setRunBookmark log version bookmark_list
  | .loadBeginRequest => loadBeginTx log version
  | .loadCommitRequest => fun session =>
    loadMessage log version session.2.commit_request false session
  | .loadRollbackRequest => fun session =>
    loadMessage log version session.2.rollback_request false session
  | .loadRunRequest => loadRun log version
  | .loadDiscardRequest n => loadAll log version (·.discard_request) n
  | .loadPullRequest n => loadAll log version (·.pull_request) n
  | .loadResetRequest => loadReset log version
  | request => fun session =>
    liftM (BoltProtocolV3.request version.checkWritableStruct request session)

/-- The function of the protocol that a request calls. -/
def protocolRequest : Request → Session → Logged (Int × Session) :=
  match version with
  | .v1 => requestV1 log .v1
  | .v2 => requestV1 log .v2
  | .v3 => requestV3 log .v3

/-! ## The connection -/

/-- The name of the function of `connection.c`. -/
def functionName : Request → String
  | .clearBegin => "BoltConnection_clear_begin"
  | .setBeginBookmarks _ => "BoltConnection_set_begin_bookmarks"
  | .setBeginTxTimeout _ => "BoltConnection_set_begin_tx_timeout"
  | .setBeginTxMetadata _ => "BoltConnection_set_begin_tx_metadata"
  | .loadBeginRequest => "BoltConnection_load_begin_request"
  | .loadCommitRequest => "BoltConnection_load_commit_request"
  | .loadRollbackRequest => "BoltConnection_load_rollback_request"
  | .clearRun => "BoltConnection_clear_run"
  | .setRunCypher _ _ => "BoltConnection_set_run_cypher"
  | .setRunCypherParameter _ _ _ => "BoltConnection_set_run_cypher_parameter"
  | .setRunBookmarks _ => "BoltConnection_set_run_bookmarks"
  | .setRunTxTimeout _ => "BoltConnection_set_run_tx_timeout"
  | .setRunTxMetadata _ => "BoltConnection_set_run_tx_metadata"
  | .loadRunRequest => "BoltConnection_load_run_request"
  | .loadDiscardRequest _ => "BoltConnection_load_discard_request"
  | .loadPullRequest _ => "BoltConnection_load_pull_request"
  | .loadResetRequest => "BoltConnection_load_reset_request"

/-- The `TRY` of `connection.c`. -/
def tryStatus (id : List UInt8) (format : String) (status : Int) (connection : BoltConnection) :
    Logged (Int × BoltConnection) :=
  if status = BOLT_SUCCESS then pure (BOLT_SUCCESS, connection)
  else if status = BOLT_STATUS_SET then pure (-1, connection)
  else do
    let connection ←
      setStatus log id (log.context (.located format)) .defunct status connection
    pure (status, connection)

/-- The functions of `connection.c` for the requests. -/
def request (request : Request) (connection : BoltConnection) : Logged (Int × BoltConnection) :=
  match connection.protocol with
  | none => liftM (none : Outcome BoltConnection)
  | some protocol => do
    let session := ({ connection with protocol := none }, protocol.state)
    let (status, session) ← protocolRequest log protocol.version request session
    tryStatus log (sessionId protocol.version session)
      (functionName request ++ "(%s:%d), error code: %d") status
      { session.1 with protocol := some { protocol with state := session.2 } }

end Definitions

/-! ## Results -/

variable {σ : Type} {log : Log} {version : ProtocolVersion}

theorem result_TRY (r : Logged (Int × σ)) (next : σ → Logged (Int × σ)) :
    result (TRY r next) = Outcome.TRY (result r) fun state => result (next state) := by
  unfold TRY Outcome.TRY
  rw [result_bind]
  cases result r with
  | none => rfl
  | some outcome => simp only [Option.bind_some, result_ite, result_pure]

@[simp] theorem result_loadMessage (message : BoltMessage) (quiet : Bool) (session : Session) :
    result (loadMessage log version message quiet session) =
      Seabolt.loadMessage version.checkWritableStruct message session := by
  simp only [loadMessage, result_bind, result_onlyIf (Log.result_message ..), Option.bind_some,
    result_liftM]

@[simp] theorem result_loadAll (request : BoltProtocolState → BoltMessage) (n : Int)
    (session : Session) :
    result (loadAll log version request n session) =
      Seabolt.loadAll version.checkWritableStruct request n session := by
  simp only [loadAll, Seabolt.loadAll, result_ite, result_pure, result_loadMessage]

@[simp] theorem result_loadReset (session : Session) :
    result (loadReset log version session) =
      Seabolt.loadReset version.checkWritableStruct session := by
  simp only [loadReset, Seabolt.loadReset, result_TRY, result_loadMessage, result_pure]

@[simp] theorem result_loadAndDiscard (request : BoltProtocolState → BoltMessage)
    (session : Session) :
    result (loadAndDiscard log version request session) =
      BoltProtocolV1.loadAndDiscard version.checkWritableStruct request session := by
  simp only [loadAndDiscard, result_TRY, result_loadMessage]
  rfl

theorem result_checkBookmarks (id : List UInt8) (elements : List BoltValue) : ∀ i,
    result (checkBookmarks log id i elements) = some (isBookmarkList (.list elements)) := by
  induction elements with
  | nil => exact fun _ => rfl
  | cons element elements ih =>
    intro i
    unfold checkBookmarks
    by_cases htype : element.type = .string
    · rw [if_neg (not_not_intro htype), ih]
      simp [isBookmarkList, htype]
    · rw [if_pos htype]
      simp only [result_bind, Log.result_debug, Option.bind_some, result_pure]
      simp [isBookmarkList, htype]

/-- A list that is not NULL is printed before it is checked, and checked as before. -/
theorem result_setTxBookmarkEntries (id : List UInt8) (bookmark_list : BoltValue)
    (entries : List (BoltValue × BoltValue)) :
    result (setTxBookmarkEntries log version id (some bookmark_list) entries) =
      if isBookmarkList bookmark_list then copyEntry BOOKMARKS_KEY bookmark_list entries
      else some (BOLT_PROTOCOL_VIOLATION, entries) := by
  unfold setTxBookmarkEntries
  rw [result_bind, Log.result_value, Option.bind_some]
  cases bookmark_list with
  | list elements =>
    simp only [result_bind, result_checkBookmarks, result_onlyIf (Log.result_debug ..),
      Log.result_debug, Option.bind_some, result_ite, result_liftM, result_pure]
  | _ =>
    simp only [result_bind, Log.result_debug, Option.bind_some, result_pure]
    rfl

/-- NULL clears the list, unless it is printed. -/
theorem result_setTxBookmarkEntries_null (id : List UInt8)
    (entries : List (BoltValue × BoltValue)) :
    result (setTxBookmarkEntries log version id none entries) =
      if log.enabled .debug then none
      else some (BOLT_SUCCESS, changeIfPresent BOOKMARKS_KEY (·.formatAsList 0) entries) := by
  unfold setTxBookmarkEntries
  rw [result_bind, Log.result_value_null]
  cases log.enabled .debug with
  | true => rfl
  | false =>
    simp only [Bool.false_eq_true, if_false, Option.bind_some, result_bind, Log.result_debug,
      result_onlyIf (Log.result_debug ..), result_pure]

theorem result_setTxBookmark (id : List UInt8) {bookmark_list : Option BoltValue}
    (h : bookmark_list = none → log.enabled .debug = false) (metadata : BoltValue) :
    result (setTxBookmark log version id bookmark_list metadata) =
      Seabolt.setTxBookmark bookmark_list metadata := by
  cases metadata with
  | dictionary entries =>
    rw [setTxBookmark, result_bind]
    cases bookmark_list with
    | none =>
      rw [result_setTxBookmarkEntries_null, h rfl, if_neg Bool.false_ne_true]
      rfl
    | some bookmark_list =>
      rw [result_setTxBookmarkEntries]
      exact Option.map_eq_bind.symm
  | _ => rfl

theorem result_setTxBookmark_null (id : List UInt8) (h : log.enabled .debug = true)
    (metadata : BoltValue) : result (setTxBookmark log version id none metadata) = none := by
  cases metadata with
  | dictionary entries =>
    rw [setTxBookmark, result_bind, result_setTxBookmarkEntries_null, if_pos h]
    rfl
  | _ => rfl

theorem result_update (message : BoltMessage) (index : Nat)
    (change : BoltValue → Logged (Int × BoltValue)) :
    result (update message index change) =
      message.update index fun value => result (change value) := by
  unfold update BoltMessage.update
  cases message.fields[index]? with
  | none => rfl
  | some value =>
    simp only [result_bind, result_pure]
    exact Option.map_eq_bind.symm

/-! ## NULL for the list of bookmarks -/

/-- The list of bookmarks that a function prints is NULL. -/
def passesNull : ProtocolVersion → Request → Bool
  | .v3, .setBeginBookmarks none => true
  | .v3, .setRunBookmarks none => true
  | _, _ => false

/-- A setter of the third version, with and without logging. -/
theorem result_setBeginTxBookmark {bookmark_list : Option BoltValue}
    (h : bookmark_list = none → log.enabled .debug = false) (session : Session) :
    result (setBeginTxBookmark log version bookmark_list session) =
      BoltProtocolV3.setBeginTxBookmark bookmark_list session := by
  simp only [setBeginTxBookmark, result_bind, result_update, result_setTxBookmark _ h, result_pure]
  exact Option.map_eq_bind.symm

theorem result_setRunBookmark {bookmark_list : Option BoltValue}
    (h : bookmark_list = none → log.enabled .debug = false) (session : Session) :
    result (setRunBookmark log version bookmark_list session) =
      BoltProtocolV3.setRunBookmark bookmark_list session := by
  simp only [setRunBookmark, result_bind, result_update, result_setTxBookmark _ h, result_pure]
  exact Option.map_eq_bind.symm

theorem result_requestV1 (request : Request) (session : Session) :
    result (requestV1 log version request session) =
      BoltProtocolV1.request version.checkWritableStruct request session := by
  unfold requestV1
  cases request with
  | loadBeginRequest | loadCommitRequest | loadRollbackRequest =>
    exact result_loadAndDiscard _ session
  | loadRunRequest => exact result_loadMessage _ false session
  | loadDiscardRequest n | loadPullRequest n => exact result_loadAll _ n session
  | loadResetRequest => exact result_loadReset session
  | _ => exact result_liftM _

theorem result_requestV3 {request : Request}
    (h : passesNull .v3 request = true → log.enabled .debug = false) (session : Session) :
    result (requestV3 log version request session) =
      BoltProtocolV3.request version.checkWritableStruct request session := by
  cases request with
  | setBeginBookmarks bookmark_list =>
    exact result_setBeginTxBookmark (fun hnull => h (by rw [hnull]; rfl)) session
  | setRunBookmarks bookmark_list =>
    exact result_setRunBookmark (fun hnull => h (by rw [hnull]; rfl)) session
  | loadBeginRequest =>
    simp only [requestV3, loadBeginTx, result_TRY, result_liftM, result_loadMessage]
    rfl
  | loadRunRequest =>
    simp only [requestV3, loadRun, result_TRY, result_liftM, result_loadMessage]
    rfl
  | loadCommitRequest | loadRollbackRequest => exact result_loadMessage _ false session
  | loadDiscardRequest n | loadPullRequest n => exact result_loadAll _ n session
  | loadResetRequest => exact result_loadReset session
  | _ => exact result_liftM _

/-- No other function reads through NULL. -/
theorem result_protocolRequest {request : Request}
    (h : passesNull version request = true → log.enabled .debug = false) (session : Session) :
    result (protocolRequest log version request session) = version.request request session := by
  cases version with
  | v1 => exact result_requestV1 request session
  | v2 => exact result_requestV1 request session
  | v3 => exact result_requestV3 h session

theorem result_protocolRequest_null {request : Request} (hnull : passesNull version request = true)
    (h : log.enabled .debug = true) (session : Session) :
    result (protocolRequest log version request session) = none := by
  have hupdate : ∀ (message : BoltMessage) (index : Nat) (id : List UInt8),
      result (update message index (setTxBookmark log .v3 id none)) = none := by
    intro message index id
    rw [result_update, BoltMessage.update]
    cases message.fields[index]? with
    | none => rfl
    | some value =>
      show (result (setTxBookmark log .v3 id none value)).map _ = none
      rw [result_setTxBookmark_null id h, Option.map_none]
  cases version with
  | v1 | v2 => simp [passesNull] at hnull
  | v3 =>
    cases request with
    | setBeginBookmarks bookmark_list =>
      obtain rfl : bookmark_list = none := by
        rcases bookmark_list with _ | value
        · rfl
        · simp [passesNull] at hnull
      show result (setBeginTxBookmark log .v3 none session) = none
      rw [setBeginTxBookmark, result_bind, hupdate]
      rfl
    | setRunBookmarks bookmark_list =>
      obtain rfl : bookmark_list = none := by
        rcases bookmark_list with _ | value
        · rfl
        · simp [passesNull] at hnull
      show result (setRunBookmark log .v3 none session) = none
      rw [setRunBookmark, result_bind, hupdate]
      rfl
    | _ => simp [passesNull] at hnull

@[simp] theorem result_tryStatus (id : List UInt8) (format : String) (status : Int)
    (connection : BoltConnection) :
    result (tryStatus log id format status connection) =
      some (connection.tryStatus status) := by
  unfold tryStatus BoltConnection.tryStatus
  simp only [result_ite, result_pure, result_bind, result_setStatus, Option.bind_some]
  split_ifs <;> rfl

/-- Without what it writes a request is the one of `Seabolt.Requests`. -/
theorem result_request {request : Request} {connection : BoltConnection}
    (h : ∀ protocol, connection.protocol = some protocol →
      passesNull protocol.version request = true → log.enabled .debug = false) :
    result (Logged.request log request connection) = connection.request request := by
  unfold Logged.request BoltConnection.request
  cases hprotocol : connection.protocol with
  | none => rfl
  | some protocol =>
    simp only [result_bind, result_protocolRequest (h protocol hprotocol), result_tryStatus]
    exact Option.map_eq_bind.symm

theorem result_request_null {request : Request} {connection : BoltConnection}
    {protocol : BoltProtocol} (hprotocol : connection.protocol = some protocol)
    (hnull : passesNull protocol.version request = true) (h : log.enabled .debug = true) :
    result (Logged.request log request connection) = none := by
  unfold Logged.request
  simp only [hprotocol, result_bind, result_protocolRequest_null hnull h, Option.bind_none]

end Logged

end Seabolt
