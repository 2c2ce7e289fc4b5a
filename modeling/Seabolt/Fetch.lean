import Seabolt.Receive

/-!
# Fetching

The receiving half of `v1.c` and `v3.c`, and `BoltConnection_fetch` and
`BoltConnection_fetch_summary` on top of it.  The two versions share the body
of `fetch`; it takes the extraction of metadata as a parameter.

The loops run as long as the peer has bytes to send, so they recurse on a
fuel of one more than the pending bytes.
-/

namespace Seabolt

abbrev FETCH_ERROR : Int := -1
abbrev FETCH_SUMMARY : Int := 0
abbrev FETCH_RECORD : Int := 1

/-- A connection, and the state of its protocol, which is taken out of it
while a protocol function works on both. -/
abbrev Session := BoltConnection × BoltProtocolState

/-! ## Reassembly -/

/-- The inner loop of `fetch`: append chunk after chunk to the protocol's
receive buffer, until the header of an empty one.  The destination of a chunk
is reserved before it is received. -/
def readChunks : Nat → Nat → Session → Outcome Session
  | 0, _, _ => none
  | fuel + 1, chunk_size, (connection, state) =>
    if chunk_size ≠ 0 then
      let (target, rx_buffer) := state.rx_buffer.loadPointer chunk_size
      let (status, bytes, connection) := connection.receive chunk_size
      if status ≠ BOLT_SUCCESS then
        some (FETCH_ERROR, connection, { state with rx_buffer := rx_buffer })
      else
        let state := { state with rx_buffer := rx_buffer.write target bytes }
        let (status, header, connection) := connection.receive 2
        if status ≠ BOLT_SUCCESS then some (FETCH_ERROR, connection, state)
        else readChunks fuel (charToUint16be header) (connection, state)
    else some (BOLT_SUCCESS, connection, state)

/-- The first half of a round of `fetch`: receive the chunks of one
message. -/
def reassemble : Session → Outcome Session
  | (connection, state) =>
    let (status, header, connection) := connection.receive 2
    if status ≠ BOLT_SUCCESS then some (FETCH_ERROR, connection, state)
    else
      let state := { state with rx_buffer := state.rx_buffer.compact }
      readChunks (connection.pending.length + 1) (charToUint16be header) (connection, state)

/-! ## Decoding -/

/-- The end of `unload`: count the records of a response. -/
def countRecord (state : BoltProtocolState) : BoltProtocolState :=
  if state.data_type = BOLT_V1_RECORD then
    { state with record_counter := state.record_counter + 1 }
  else { state with record_counter := 0 }

/-- The body that `BoltProtocolV1_unload` and `BoltProtocolV3_unload` share. -/
def unloadMessage (check_readable_struct : CheckStructSignature) (state : BoltProtocolState)
    (garbage : List UInt8) : Outcome (BoltProtocolState × List UInt8) :=
  if state.rx_buffer.unloadable = 0 then some (BOLT_SUCCESS, state, garbage)
  else
    match state.rx_buffer.unloadU8 with
    | none => some (-1, state, garbage)
    | some (marker, rx_buffer) =>
      let state := { state with rx_buffer := rx_buffer }
      if markerType marker ≠ .struct then some (BOLT_PROTOCOL_VIOLATION, state, garbage)
      else
        match state.rx_buffer.unloadU8 with
        | none => some (-1, state, garbage)
        | some (code, rx_buffer) =>
          let size := marker &&& 0x0F
          let elements := state.data.listElements size
          let state := { state with rx_buffer := rx_buffer, data_type := Int16.ofNat code }
          (PackStream.unloadElements (PackStream.unload check_readable_struct)
            ⟨rx_buffer, garbage⟩ elements).map fun (status, d, elements) =>
              let state := { state with rx_buffer := d.buffer, data := .list elements }
              if status = BOLT_SUCCESS then (BOLT_SUCCESS, countRecord state, d.garbage)
              else (status, state, d.garbage)

/-- `BoltProtocolV1_unload`. -/
def BoltProtocolV1.unload := unloadMessage

/-- `BoltProtocolV3_unload`. -/
def BoltProtocolV3.unload := unloadMessage

/-- What the two versions do differently in `fetch`. -/
structure FetchFunctions where
  unload : CheckStructSignature → BoltProtocolState → List UInt8 →
    Outcome (BoltProtocolState × List UInt8)
  extractMetadata : List UInt8 → Int16 → BoltValue → Extraction → Option Extraction

/-- The second half of a round of `fetch` after a message was decoded: a
summary ends the response and replaces the metadata. -/
def readSummary (functions : FetchFunctions) : Session → Option Session
  | (connection, state) =>
    if state.data_type ≠ BOLT_V1_RECORD then
      let state := { state with
        response_counter := state.response_counter + 1
        result_metadata := state.result_metadata.formatAsDictionary 0 }
      if 1 ≤ state.data.size then
        match state.data with
        | .list (metadata :: _) =>
          (functions.extractMetadata connection.id state.data_type metadata
            (state.toSummaryData, connection.garbage)).map fun (summary, garbage) =>
              ({ connection with garbage := garbage }, { state with toSummaryData := summary })
        | _ => none
      else some (connection, state)
    else some (connection, state)

/-- How a round of the loop of `fetch` ends. -/
inductive Round where
  | again (session : Session)
  | done (fetched : Int) (session : Session)

/-- The end of a round that has decoded a message: the loop goes on until it
has read a message of the requested response. -/
def finishRound (functions : FetchFunctions) (request_id response_id : Nat) (session : Session) :
    Option Round :=
  (readSummary functions session).map fun (connection, state) =>
    if response_id ≠ request_id then .again (connection, state)
    else if state.data_type ≠ BOLT_V1_RECORD then .done FETCH_SUMMARY (connection, state)
    else .done FETCH_RECORD (connection, state)

/-- One round of the loop of `fetch`. -/
def fetchRound (functions : FetchFunctions) (check_readable_struct : CheckStructSignature)
    (request_id : Nat) (session : Session) : Option Round :=
  match reassemble session with
  | none => none
  | some (status, connection, state) =>
    if status ≠ BOLT_SUCCESS then some (.done status (connection, state))
    else
      let response_id := state.response_counter
      match functions.unload check_readable_struct state connection.garbage with
      | none => none
      | some (status, state, garbage) =>
        let connection := { connection with garbage := garbage }
        if status ≠ BOLT_SUCCESS then some (.done status (connection, state))
        else finishRound functions request_id response_id (connection, state)

/-- The loop of `fetch`. -/
def fetchLoop (functions : FetchFunctions) (check_readable_struct : CheckStructSignature)
    (request_id : Nat) : Nat → Session → Outcome Session
  | 0, _ => none
  | fuel + 1, session =>
    match fetchRound functions check_readable_struct request_id session with
    | none => none
    | some (.again session) => fetchLoop functions check_readable_struct request_id fuel session
    | some (.done fetched session) => some (fetched, session)

/-- The functions of `v1.c`, which the second version shares. -/
def BoltProtocolV1.fetchFunctions : FetchFunctions where
  unload := BoltProtocolV1.unload
  extractMetadata := BoltProtocolV1.extractMetadata

/-- The functions of `v3.c`. -/
def BoltProtocolV3.fetchFunctions : FetchFunctions where
  unload := BoltProtocolV3.unload
  extractMetadata := BoltProtocolV3.extractMetadata

/-- `BoltProtocolV1_fetch`. -/
def BoltProtocolV1.fetch (check_readable_struct : CheckStructSignature) (session : Session)
    (request_id : Nat) : Outcome Session :=
  fetchLoop BoltProtocolV1.fetchFunctions check_readable_struct request_id
    (session.1.pending.length + 1) session

/-- `BoltProtocolV3_fetch`. -/
def BoltProtocolV3.fetch (check_readable_struct : CheckStructSignature) (session : Session)
    (request_id : Nat) : Outcome Session :=
  fetchLoop BoltProtocolV3.fetchFunctions check_readable_struct request_id
    (session.1.pending.length + 1) session

/-- `protocol->fetch`. -/
def ProtocolVersion.fetch : ProtocolVersion → Session → Nat → Outcome Session
  | .v1 => BoltProtocolV1.fetch BoltProtocolV1.checkReadableStructSignature
  | .v2 => BoltProtocolV1.fetch BoltProtocolV2.checkReadableStructSignature
  | .v3 => BoltProtocolV3.fetch BoltProtocolV3.checkReadableStructSignature

/-- The functions behind `protocol->fetch`. -/
def ProtocolVersion.fetchFunctions : ProtocolVersion → FetchFunctions
  | .v1 => BoltProtocolV1.fetchFunctions
  | .v2 => BoltProtocolV1.fetchFunctions
  | .v3 => BoltProtocolV3.fetchFunctions

/-- Every version runs the same loop. -/
theorem ProtocolVersion.fetch_eq (version : ProtocolVersion) (session : Session)
    (request_id : Nat) :
    version.fetch session request_id =
      fetchLoop version.fetchFunctions version.checkReadableStruct request_id
        (session.1.pending.length + 1) session := by
  cases version <;> rfl

/-- Every version decodes messages in the same way. -/
theorem ProtocolVersion.unload_eq (version : ProtocolVersion) :
    version.fetchFunctions.unload = unloadMessage := by
  cases version <;> rfl

/-- Copyable metadata can be extracted. -/
theorem ProtocolVersion.extractMetadata_isSome (version : ProtocolVersion) (id : List UInt8)
    (data_type : Int16) {metadata : BoltValue} (h : metadata.Copyable) (state : Extraction) :
    ∃ state', version.fetchFunctions.extractMetadata id data_type metadata state =
      some state' := by
  cases version with
  | v1 | v2 => exact Seabolt.extractMetadata_isSome false id data_type h state
  | v3 => exact Seabolt.extractMetadata_isSome true id data_type h state

/-! ## The connection -/

namespace BoltConnection

/-- `protocol->is_success_summary`, `is_failure_summary` and
`is_ignored_summary`: whether the last message has the given code. -/
def isSummary (connection : BoltConnection) (code : Int16) : Bool :=
  connection.protocol.any fun protocol => protocol.state.data_type == code

/-- What `BoltConnection_fetch` does after the protocol's `fetch`. -/
def fetched (fetched : Int) (connection : BoltConnection) (state : BoltProtocolState) :
    Int × BoltConnection :=
  if fetched = FETCH_SUMMARY then
    if state.data_type = BOLT_V1_SUCCESS then
      (fetched, connection.setStatus .ready BOLT_SUCCESS)
    else if state.data_type = BOLT_V1_IGNORED then
      -- we may need to update status based on an earlier reported FAILURE
      -- which our consumer did not care its result
      if state.failure_data.isSome then (fetched, connection.setStatus .failed BOLT_SERVER_FAILURE)
      else (fetched, connection)
    else if state.data_type = BOLT_V1_FAILURE then
      (fetched, connection.setStatus .failed BOLT_SERVER_FAILURE)
    else (FETCH_ERROR, connection.setStatus .defunct BOLT_PROTOCOL_VIOLATION)
  else (fetched, connection)

/-- `BoltConnection_fetch`.  `none` when there is no protocol to call. -/
def fetch (connection : BoltConnection) (request : Nat) : Outcome BoltConnection :=
  match connection.protocol with
  | none => none
  | some protocol =>
    (protocol.version.fetch ({ connection with protocol := none }, protocol.state) request).map
      fun (result, connection, state) =>
        let protocol := { protocol with state := state }
        fetched result { connection with protocol := some protocol } state

/-- `records += data` on an `int`. -/
def addInt (records data : Int) : Int := Int.bmod (records + data) 0x100000000

/-- The loop of `BoltConnection_fetch_summary`. -/
def fetchSummaryLoop (request : Nat) : Nat → Int → BoltConnection → Outcome BoltConnection
  | 0, _, _ => none
  | fuel + 1, records, connection =>
    match connection.fetch request with
    | none => none
    | some (data, connection) =>
      if data < 0 then some (data, connection)
      else
        let records := addInt records data
        if data ≠ 0 then fetchSummaryLoop request fuel records connection
        else some (records, connection)

/-- `BoltConnection_fetch_summary`. -/
def fetchSummary (connection : BoltConnection) (request : Nat) : Outcome BoltConnection :=
  fetchSummaryLoop request (connection.pending.length + 1) 0 connection

/-- `BoltConnection_field_values`: the first element of the list that a
record was decoded to, or NULL. -/
def fieldValues (connection : BoltConnection) : Option BoltValue :=
  match connection.protocol with
  | none => none
  | some protocol =>
    if protocol.state.data_type = BOLT_V1_RECORD then
      match protocol.state.data with
      | .list elements => elements.head?
      | _ => none
    else none

end BoltConnection

end Seabolt
