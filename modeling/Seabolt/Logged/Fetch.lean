import Seabolt.Logged.Decoding
import Seabolt.Logged.Transfers

/-!
# Fetching with logging

The receiving half of `v1.c` and `v3.c` with what it logs of the messages and their
metadata, and the functions of `connection.c` on top of it.  The first two versions share
the functions of the third, but for the `connection_id` entry.
-/

namespace Seabolt

open BoltValue Erasure

abbrev MAX_LOGGED_RECORDS : Nat := 3

namespace Logged

section Definitions

variable (log : Log) (version : ProtocolVersion) (id : List UInt8)

/-! ## Reassembly -/

/-- The inner loop of `fetch`. -/
def readChunks : Nat → Nat → Session → Logged (Int × Session)
  | 0, _, _ => liftM (none : Outcome Session)
  | fuel + 1, chunk_size, (connection, state) =>
    if chunk_size ≠ 0 then do
      let (target, rx_buffer) := state.rx_buffer.loadPointer chunk_size
      let (status, chunk, connection) ← receive log id connection chunk_size
      if status ≠ BOLT_SUCCESS then
        pure (FETCH_ERROR, connection, { state with rx_buffer := rx_buffer })
      else
        let state := { state with rx_buffer := rx_buffer.write target chunk }
        let (status, header, connection) ← receive log id connection 2
        if status ≠ BOLT_SUCCESS then pure (FETCH_ERROR, connection, state)
        else readChunks fuel (charToUint16be header) (connection, state)
    else pure (BOLT_SUCCESS, connection, state)

/-- The first half of a round of `fetch`. -/
def reassemble : Session → Logged (Int × Session)
  | (connection, state) => do
    let (status, header, connection) ← receive log id connection 2
    if status ≠ BOLT_SUCCESS then pure (FETCH_ERROR, connection, state)
    else
      let state := { state with rx_buffer := state.rx_buffer.compact }
      readChunks log id (connection.pending.length + 1) (charToUint16be header) (connection, state)

/-! ## Decoding -/

/-- What the end of `unload` logs: the first records, how many more there were, and the
summary. -/
def logUnloaded (state : BoltProtocolState) : Logged Unit :=
  if state.data_type = BOLT_V1_RECORD then
    onlyIf (state.record_counter < MAX_LOGGED_RECORDS)
      (log.message id "S" state.response_counter state.data_type state.data version)
  else do
    onlyIf (state.record_counter > MAX_LOGGED_RECORDS)
      (log.info "[%s]: S[%d]: Received %llu more records" [.string id,
        .number state.response_counter, .number (state.record_counter - MAX_LOGGED_RECORDS : Nat)])
    log.message id "S" state.response_counter state.data_type state.data version

/-- `BoltProtocolV1_unload` and `BoltProtocolV3_unload`. -/
def unloadMessage (state : BoltProtocolState) (garbage : List UInt8) :
    Logged (Int × BoltProtocolState × List UInt8) :=
  if state.rx_buffer.unloadable = 0 then pure (BOLT_SUCCESS, state, garbage)
  else
    match state.rx_buffer.unloadU8 with
    | none => pure (-1, state, garbage)
    | some (marker, rx_buffer) =>
      let state := { state with rx_buffer := rx_buffer }
      if markerType marker ≠ .struct then pure (BOLT_PROTOCOL_VIOLATION, state, garbage)
      else
        match state.rx_buffer.unloadU8 with
        | none => pure (-1, state, garbage)
        | some (code, rx_buffer) => do
          let size := marker &&& 0x0F
          let elements := state.data.listElements size
          let state := { state with rx_buffer := rx_buffer, data_type := Int16.ofNat code }
          let (status, d, elements) ←
            unloadElements (unload log version.checkReadableStruct) ⟨rx_buffer, garbage⟩ elements
          let state := { state with rx_buffer := d.buffer, data := .list elements }
          if status = BOLT_SUCCESS then
            logUnloaded log version id state
            pure (BOLT_SUCCESS, countRecord state, d.garbage)
          else pure (status, state, d.garbage)

/-! ## Metadata -/

/-- Whether the version knows the `connection_id` entry. -/
def knowsConnectionId : ProtocolVersion → Bool
  | .v1 | .v2 => false
  | .v3 => true

/-- `BoltConnection_id`, on the summary data. -/
def summaryId (summary : SummaryData) : List UInt8 :=
  match version with
  | .v1 | .v2 => id
  | .v3 => BoltProtocolV3.id summary id

/-- The `case BOLT_STRING` of a metadata entry. -/
def onString (value : BoltValue) (state : Extraction) (f : List UInt8 → Logged Extraction) :
    Logged Extraction :=
  match value with
  | string data => f data
  | negative .string _ => liftM (none : Option Extraction)
  | _ => pure state

/-- The `connection_id` entry. -/
def setConnectionId (data : List UInt8) (state : Extraction) : Logged Extraction := do
  let old_connection_id := BoltProtocolV3.id state.1 id
  let total_new_length :=
    old_connection_id.length + data.length + CONNECTION_ID_SEPARATOR.length + 1
  if total_new_length > MAX_CONNECTION_ID_SIZE then
    log.error ("[%s]: Unable to set new connection_id %s: " ++
      "new length (%zu) would exceed max length (%zu)") [.string old_connection_id, .string data,
        .number total_new_length, .number MAX_CONNECTION_ID_SIZE]
    pure state
  else
    let state := Seabolt.setConnectionId id data state
    log.info "[%s]: <SET connection_id=\"%s\">"
      [.string (BoltProtocolV3.id state.1 id), .string data]
    pure state

/-- One round of the loop of `extract_metadata`. -/
def extractEntry (data_type : Int16) (key value : BoltValue) (state : Extraction) :
    Logged Extraction :=
  let (summary, garbage) := state
  if key.stringEquals BOOKMARK_KEY then
    onString value state fun data => do
      let cleared := memcpy summary.last_bookmark 0 (List.replicate MAX_BOOKMARK_SIZE 0)
      let summary := { summary with last_bookmark := memcpy cleared 0 data }
      log.info "[%s]: <SET last_bookmark=\"%s\">"
        [.string (summaryId version id summary), .string summary.last_bookmark]
      pure (summary, garbage)
  else if key.stringEquals FIELDS_KEY then
    match value with
    | list elements => do
      let names ← liftM (elements.mapM fieldName)
      let summary := { summary with result_field_names := list names }
      log.value "[%s]: <SET result_field_names=%s>" (summaryId version id summary) version
        (some summary.result_field_names)
      pure (summary, garbage)
    | _ => pure state
  else if key.stringEquals SERVER_KEY then
    onString value state fun data => do
      let cleared := memcpy summary.server 0 (List.replicate MAX_SERVER_SIZE 0)
      let summary := { summary with server := memcpy cleared 0 data }
      log.info "[%s]: <SET server=\"%s\">"
        [.string (summaryId version id summary), .string summary.server]
      pure (summary, garbage)
  else if knowsConnectionId version && key.stringEquals CONNECTION_ID_KEY then
    onString value state fun data => setConnectionId log id data state
  else if key.stringEquals FAILURE_CODE_KEY && data_type == BOLT_V1_FAILURE then
    onString value state fun data => do
      let failure_data := ensureFailureData summary.failure_data
      let summary :=
        { summary with failure_data := setDictionaryValue failure_data 0 (string data) }
      log.value "[%s]: <FAILURE code=\"%s\">" (summaryId version id summary) version
        (some (string data))
      pure (summary, garbage)
  else if key.stringEquals FAILURE_MESSAGE_KEY && data_type == BOLT_V1_FAILURE then
    onString value state fun data => do
      let failure_data := ensureFailureData summary.failure_data
      let summary :=
        { summary with failure_data := setDictionaryValue failure_data 1 (string data) }
      log.value "[%s]: <FAILURE message=\"%s\">" (summaryId version id summary) version
        (some (string data))
      pure (summary, garbage)
  else liftM (appendMetadata key value state)

/-- The loop of `extract_metadata`. -/
def extractEntries (data_type : Int16) :
    List (BoltValue × BoltValue) → Extraction → Logged Extraction
  | [], state => pure state
  | (key, value) :: entries, state => do
    let state ← extractEntry log version id data_type key value state
    extractEntries data_type entries state

/-- `BoltProtocolV1_extract_metadata` and `BoltProtocolV3_extract_metadata`. -/
def extractMetadata (data_type : Int16) (metadata : BoltValue) (state : Extraction) :
    Logged Extraction :=
  match metadata with
  | dictionary entries => extractEntries log version id data_type entries state
  | _ => pure state

/-! ## The loop of fetch -/

/-- The second half of a round of `fetch` after a message was decoded. -/
def readSummary : Session → Logged Session
  | (connection, state) =>
    if state.data_type ≠ BOLT_V1_RECORD then
      let state := { state with
        response_counter := state.response_counter + 1
        result_metadata := state.result_metadata.formatAsDictionary 0 }
      if 1 ≤ state.data.size then
        match state.data with
        | .list (metadata :: _) => do
          let (summary, garbage) ←
            extractMetadata log version connection.id state.data_type metadata
              (state.toSummaryData, connection.garbage)
          pure ({ connection with garbage := garbage }, { state with toSummaryData := summary })
        | _ => liftM (none : Option Session)
      else pure (connection, state)
    else pure (connection, state)

/-- The end of a round that has decoded a message. -/
def finishRound (request_id response_id : Nat) (session : Session) : Logged Round := do
  let (connection, state) ← readSummary log version session
  if response_id ≠ request_id then pure (.again (connection, state))
  else if state.data_type ≠ BOLT_V1_RECORD then pure (.done FETCH_SUMMARY (connection, state))
  else pure (.done FETCH_RECORD (connection, state))

/-- One round of the loop of `fetch`. -/
def fetchRound (request_id : Nat) (session : Session) : Logged Round := do
  let (status, connection, state) ← reassemble log (sessionId version session) session
  if status ≠ BOLT_SUCCESS then pure (.done status (connection, state))
  else
    let response_id := state.response_counter
    let (status, state, garbage) ←
      unloadMessage log version (sessionId version session) state connection.garbage
    let connection := { connection with garbage := garbage }
    if status ≠ BOLT_SUCCESS then pure (.done status (connection, state))
    else finishRound log version request_id response_id (connection, state)

/-- The loop of `fetch`. -/
def fetchLoop (request_id : Nat) : Nat → Session → Logged (Int × Session)
  | 0, _ => liftM (none : Outcome Session)
  | fuel + 1, session => do
    match ← fetchRound log version request_id session with
    | .again session => fetchLoop request_id fuel session
    | .done fetched session => pure (fetched, session)

/-! ## The connection -/

/-- What `BoltConnection_fetch` does after the protocol's `fetch`. -/
def fetched (fetched : Int) (connection : BoltConnection) (state : BoltProtocolState) :
    Logged (Int × BoltConnection) :=
  let status (result : Int) (format : Option String) (state : BoltConnectionState) (error : Int) :=
    do
      let error_ctx := (format.map fun format => log.context (.located format)).getD []
      let connection ← setStatus log id error_ctx state error connection
      pure (result, connection)
  if fetched = FETCH_SUMMARY then
    if state.data_type = BOLT_V1_SUCCESS then status fetched none .ready BOLT_SUCCESS
    else if state.data_type = BOLT_V1_IGNORED then
      if state.failure_data.isSome then
        status fetched (some "BoltConnection_fetch(%s:%d), failure upon ignored message") .failed
          BOLT_SERVER_FAILURE
      else pure (fetched, connection)
    else if state.data_type = BOLT_V1_FAILURE then
      status fetched (some "BoltConnection_fetch(%s:%d), failure message") .failed
        BOLT_SERVER_FAILURE
    else do
      log.error "[%s]: Protocol violation (received summary code %d)"
        [.string id, .number state.data_type.toInt]
      status FETCH_ERROR (some "BoltConnection_fetch(%s:%d), received summary code: %d") .defunct
        BOLT_PROTOCOL_VIOLATION
  else pure (fetched, connection)

/-- `BoltConnection_fetch`. -/
def fetch (connection : BoltConnection) (request : Nat) : Logged (Int × BoltConnection) :=
  match connection.protocol with
  | none => liftM (none : Outcome BoltConnection)
  | some protocol => do
    let session := ({ connection with protocol := none }, protocol.state)
    let (result, connection, state) ←
      fetchLoop log protocol.version request (session.1.pending.length + 1) session
    let protocol := { protocol with state := state }
    fetched log (sessionId protocol.version (connection, state)) result
      { connection with protocol := some protocol } state

/-- The loop of `BoltConnection_fetch_summary`. -/
def fetchSummaryLoop (request : Nat) : Nat → Int → BoltConnection → Logged (Int × BoltConnection)
  | 0, _, _ => liftM (none : Outcome BoltConnection)
  | fuel + 1, records, connection => do
    let (data, connection) ← fetch log connection request
    if data < 0 then pure (data, connection)
    else
      let records := BoltConnection.addInt records data
      if data ≠ 0 then fetchSummaryLoop request fuel records connection
      else pure (records, connection)

/-- `BoltConnection_fetch_summary`. -/
def fetchSummary (connection : BoltConnection) (request : Nat) : Logged (Int × BoltConnection) :=
  fetchSummaryLoop log request (connection.pending.length + 1) 0 connection

end Definitions

/-! ## Results -/

variable {log : Log} {version : ProtocolVersion} {id : List UInt8}

theorem result_readChunks (fuel : Nat) : ∀ chunk_size session,
    result (readChunks log id fuel chunk_size session) =
      Seabolt.readChunks fuel chunk_size session := by
  induction fuel with
  | zero => exact fun _ _ => rfl
  | succ fuel ih =>
    rintro chunk_size ⟨connection, state⟩
    rw [readChunks, Seabolt.readChunks]
    by_cases hchunk : chunk_size ≠ 0
    · rw [if_pos hchunk, if_pos hchunk]
      rcases state.rx_buffer.loadPointer chunk_size with ⟨target, rx_buffer⟩
      simp only [result_bind, result_receive, Option.bind_some]
      rcases connection.receive chunk_size with ⟨status, chunk, connection⟩
      by_cases hfailed : status ≠ BOLT_SUCCESS
      · simp only [if_pos hfailed]
        rfl
      simp only [if_neg hfailed, result_bind, result_receive, Option.bind_some]
      rcases connection.receive 2 with ⟨status, header, connection⟩
      simp only [result_ite, ih]
      rfl
    · rw [if_neg hchunk, if_neg hchunk]
      rfl

@[simp] theorem result_reassemble (session : Session) :
    result (reassemble log id session) = Seabolt.reassemble session := by
  obtain ⟨connection, state⟩ := session
  unfold reassemble Seabolt.reassemble
  simp only [result_bind, result_receive, Option.bind_some]
  rcases connection.receive 2 with ⟨status, header, connection⟩
  simp only [result_ite, result_readChunks]
  rfl

@[simp] theorem result_logUnloaded (state : BoltProtocolState) :
    result (logUnloaded log version id state) = some () := by
  unfold logUnloaded
  simp only [result_ite, result_bind, result_onlyIf (Log.result_message ..),
    result_onlyIf (Log.result_info ..), Log.result_message, Option.bind_some, ite_self]

@[simp] theorem result_unloadMessage (state : BoltProtocolState) (garbage : List UInt8) :
    result (unloadMessage log version id state garbage) =
      Seabolt.unloadMessage version.checkReadableStruct state garbage := by
  unfold unloadMessage Seabolt.unloadMessage
  by_cases hempty : state.rx_buffer.unloadable = 0
  · rw [if_pos hempty, if_pos hempty]
    rfl
  rw [if_neg hempty, if_neg hempty]
  cases state.rx_buffer.unloadU8 with
  | none => rfl
  | some first =>
    obtain ⟨marker, rx_buffer⟩ := first
    by_cases hmarker : markerType marker ≠ .struct
    · simp only [if_pos hmarker]
      rfl
    simp only [if_neg hmarker]
    cases rx_buffer.unloadU8 with
    | none => rfl
    | some second =>
      obtain ⟨code, rx_buffer⟩ := second
      simp only [result_bind, result_unloadElements result_unload]
      rw [Option.map_eq_bind]
      congr 1
      funext outcome
      obtain ⟨status, d, elements⟩ := outcome
      simp only [result_ite, result_bind, result_logUnloaded, Option.bind_some, result_pure,
        Function.comp_apply]
      split_ifs <;> rfl

/-! ### Metadata -/

theorem result_onString {value : BoltValue} {state : Extraction}
    {f : List UInt8 → Logged Extraction} {g : List UInt8 → Extraction}
    (h : ∀ data, result (f data) = some (g data)) :
    result (onString value state f) = Seabolt.onString value state g := by
  cases value with
  | string data => exact h data
  | negative type n => cases type <;> rfl
  | _ => rfl

theorem result_setConnectionId (data : List UInt8) (state : Extraction) :
    result (setConnectionId log id data state) = some (Seabolt.setConnectionId id data state) := by
  unfold setConnectionId
  simp only [result_ite, result_bind, Log.result_error, Log.result_info, Option.bind_some,
    result_pure]
  split_ifs with hlong
  · rw [Seabolt.setConnectionId, if_pos hlong]
  · rfl

theorem result_extractEntry (data_type : Int16) (key value : BoltValue) (state : Extraction) :
    result (extractEntry log version id data_type key value state) =
      Seabolt.extractEntry (knowsConnectionId version) id data_type key value state := by
  obtain ⟨summary, garbage⟩ := state
  simp only [extractEntry, Seabolt.extractEntry, result_ite]
  refine if_congr Iff.rfl ?_ (if_congr Iff.rfl ?_ (if_congr Iff.rfl ?_ (if_congr Iff.rfl ?_
    (if_congr Iff.rfl ?_ (if_congr Iff.rfl ?_ ?_)))))
  · refine result_onString fun data => ?_
    simp only [result_bind, Log.result_info, Option.bind_some, result_pure]
  · cases value with
    | list elements =>
      simp only [result_bind, result_liftM, Log.result_value, Option.bind_some, result_pure]
      exact Option.map_eq_bind.symm
    | _ => rfl
  · refine result_onString fun data => ?_
    simp only [result_bind, Log.result_info, Option.bind_some, result_pure]
  · exact result_onString fun data => result_setConnectionId data _
  · refine result_onString fun data => ?_
    simp only [result_bind, Log.result_value, Option.bind_some, result_pure]
  · refine result_onString fun data => ?_
    simp only [result_bind, Log.result_value, Option.bind_some, result_pure]
  · exact result_liftM _

theorem result_extractEntries (data_type : Int16) (entries : List (BoltValue × BoltValue)) :
    ∀ state, result (extractEntries log version id data_type entries state) =
      Seabolt.extractEntries (knowsConnectionId version) id data_type entries state := by
  induction entries with
  | nil => exact fun _ => rfl
  | cons entry entries ih =>
    intro state
    obtain ⟨key, value⟩ := entry
    simp only [extractEntries, Seabolt.extractEntries, result_bind, result_extractEntry, ih,
      Option.bind_eq_bind]

@[simp] theorem result_extractMetadata (data_type : Int16) (metadata : BoltValue)
    (state : Extraction) :
    result (extractMetadata log version id data_type metadata state) =
      version.fetchFunctions.extractMetadata id data_type metadata state := by
  have hsame : version.fetchFunctions.extractMetadata id data_type metadata state =
      Seabolt.extractMetadata (knowsConnectionId version) id data_type metadata state := by
    cases version <;> rfl
  rw [hsame]
  cases metadata with
  | dictionary entries => exact result_extractEntries data_type entries state
  | _ => rfl

/-! ### The loops -/

@[simp] theorem result_readSummary (session : Session) :
    result (readSummary log version session) =
      Seabolt.readSummary version.fetchFunctions session := by
  obtain ⟨connection, state⟩ := session
  unfold readSummary Seabolt.readSummary
  simp only [result_ite]
  refine if_congr Iff.rfl (if_congr Iff.rfl ?_ rfl) rfl
  rcases hdata : state.data with _ | _ | _ | _ | _ | _ | elements | _ | _ | _
  case list =>
    cases elements with
    | nil => rfl
    | cons metadata elements =>
      simp only [result_bind, result_extractMetadata, result_pure]
      exact Option.map_eq_bind.symm
  all_goals rfl

@[simp] theorem result_finishRound (request_id response_id : Nat) (session : Session) :
    result (finishRound log version request_id response_id session) =
      Seabolt.finishRound version.fetchFunctions request_id response_id session := by
  unfold finishRound Seabolt.finishRound
  rw [result_bind, result_readSummary, Option.map_eq_bind]
  congr 1
  funext session
  simp only [result_ite, result_pure, Function.comp_apply]
  split_ifs <;> rfl

@[simp] theorem result_fetchRound (request_id : Nat) (session : Session) :
    result (fetchRound log version request_id session) =
      Seabolt.fetchRound version.fetchFunctions version.checkReadableStruct request_id session := by
  unfold fetchRound Seabolt.fetchRound
  rw [result_bind, result_reassemble, version.unload_eq]
  cases Seabolt.reassemble session with
  | none => rfl
  | some outcome =>
    obtain ⟨status, connection, state⟩ := outcome
    simp only [Option.bind_some, result_ite, result_bind, result_unloadMessage, result_pure,
      result_finishRound]
    refine if_congr Iff.rfl rfl ?_
    cases Seabolt.unloadMessage version.checkReadableStruct state connection.garbage with
    | none => rfl
    | some outcome => rfl

theorem result_fetchLoop (request_id fuel : Nat) : ∀ session,
    result (fetchLoop log version request_id fuel session) =
      Seabolt.fetchLoop version.fetchFunctions version.checkReadableStruct request_id fuel
        session := by
  induction fuel with
  | zero => exact fun _ => rfl
  | succ fuel ih =>
    intro session
    rw [fetchLoop, Seabolt.fetchLoop, result_bind, result_fetchRound]
    cases Seabolt.fetchRound version.fetchFunctions version.checkReadableStruct request_id
      session with
    | none => rfl
    | some round =>
      cases round with
      | again session => exact ih session
      | done fetched session => rfl

@[simp] theorem result_fetched (fetched : Int) (connection : BoltConnection)
    (state : BoltProtocolState) :
    result (Logged.fetched log id fetched connection state) =
      some (BoltConnection.fetched fetched connection state) := by
  unfold Logged.fetched BoltConnection.fetched
  simp only [result_ite, result_bind, result_setStatus, Log.result_error, Option.bind_some,
    result_pure]
  split_ifs <;> rfl

@[simp] theorem result_fetch (connection : BoltConnection) (request : Nat) :
    result (fetch log connection request) = connection.fetch request := by
  unfold fetch BoltConnection.fetch
  cases connection.protocol with
  | none => rfl
  | some protocol =>
    simp only [result_bind, result_fetchLoop, result_fetched, ProtocolVersion.fetch_eq]
    exact Option.map_eq_bind.symm

theorem result_fetchSummaryLoop (request fuel : Nat) : ∀ records connection,
    result (fetchSummaryLoop log request fuel records connection) =
      BoltConnection.fetchSummaryLoop request fuel records connection := by
  induction fuel with
  | zero => exact fun _ _ => rfl
  | succ fuel ih =>
    intro records connection
    rw [fetchSummaryLoop, BoltConnection.fetchSummaryLoop, result_bind, result_fetch]
    cases connection.fetch request with
    | none => rfl
    | some outcome =>
      obtain ⟨data, connection⟩ := outcome
      simp only [Option.bind_some, result_ite, ih, result_pure]

@[simp] theorem result_fetchSummary (connection : BoltConnection) (request : Nat) :
    result (fetchSummary log connection request) = connection.fetchSummary request :=
  result_fetchSummaryLoop request _ 0 connection

end Logged

end Seabolt
