import Seabolt.Requests

/-!
# Opening, initialising and closing

The life of a `BoltConnection` around its requests.  `BoltConnection_open` is
given the communication that it works with and says of each resolved host
whether its address family is supported; a host that cannot be opened is a
step of the script of the communication.

A closed connection has the buffers of size 0 and the communication that
`BoltConnection.create` starts with; they stand for NULL.
-/

namespace Seabolt

open BoltValue

/-- The masked value that is logged for the credentials. -/
def MASK : List UInt8 := ascii "********"

/-! ## Messages of the initialisation -/

/-- Hide the credentials, if there are any.  `none` when the value is no
dictionary. -/
def maskCredentials : BoltValue → Option BoltValue
  | dictionary entries =>
    some (dictionary (changeIfPresent CREDENTIALS_KEY (fun _ => string MASK) entries))
  | _ => none

/-- `BoltProtocolV1_compile_INIT`. -/
def BoltProtocolV1.compileINIT (user_agent : List UInt8) (auth_token : BoltValue)
    (mask_secure_fields : Bool) (message : BoltMessage) : Option BoltMessage := do
  let token ← copy (message.fields.getD 1 null) auth_token
  let token ← if mask_secure_fields then maskCredentials token else some token
  some { message with fields := (message.fields.set 0 (string user_agent)).set 1 token }

/-- `BoltProtocolV3_compile_HELLO`.  `none` when the token is neither a
dictionary nor empty. -/
def BoltProtocolV3.compileHELLO (user_agent : List UInt8) (auth_token : BoltValue)
    (mask_secure_fields : Bool) (message : BoltMessage) : Option BoltMessage := do
  let entries ← match auth_token with
    | dictionary entries => some entries
    | value => if value.size = 0 then some [] else none
  let params := (message.fields.getD 0 null).dictionaryEntries (entries.length + 1)
  let copied ← copyEntries params entries
  let params := dictionary (copied ++ [(string USER_AGENT_KEY, string user_agent)])
  let params ← if mask_secure_fields then maskCredentials params else some params
  some { message with fields := message.fields.set 0 params }

/-- `BoltProtocolV1_init` and `BoltProtocolV3_hello` fill the message twice,
with masked credentials for the log and then with the true ones. -/
def ProtocolVersion.initMessage (version : ProtocolVersion) (user_agent : List UInt8)
    (auth_token : BoltValue) : Option BoltMessage := do
  match version with
  | .v1 | .v2 =>
    let logged ← BoltProtocolV1.compileINIT user_agent auth_token true (.create BOLT_V1_INIT 2)
    BoltProtocolV1.compileINIT user_agent auth_token false logged
  | .v3 =>
    let logged ← BoltProtocolV3.compileHELLO user_agent auth_token true (.create BOLT_V3_HELLO 1)
    BoltProtocolV3.compileHELLO user_agent auth_token false logged

namespace BoltConnection

/-- The `load_message` of the protocol, called for a message that is not one of
the prepared ones. -/
def loadMessage (message : BoltMessage) (connection : BoltConnection) : Outcome BoltConnection :=
  match connection.protocol with
  | none => none
  | some protocol =>
    (Seabolt.loadMessage protocol.version.checkWritableStruct message
      ({ connection with protocol := none }, protocol.state)).map fun (status, connection, state) =>
        (status, { connection with protocol := some { protocol with state := state } })

/-! ## Closing -/

/-- `BoltProtocolV1_goodbye_noop` and `BoltProtocolV3_goodbye`, whose status
the caller does not look at. -/
def goodbye (connection : BoltConnection) : Option BoltConnection :=
  match connection.protocol.map BoltProtocol.version with
  | some .v3 => do
    let (status, connection) ← connection.loadMessage (.create BOLT_V3_GOODBYE 0)
    if status = BOLT_SUCCESS then some connection.send.2 else some connection
  | _ => some connection

/-- `_close`. -/
def close_ (connection : BoltConnection) : Option BoltConnection :=
  let closed :=
    if connection.protocol.isSome then
      connection.goodbye.map fun connection =>
        { connection with protocol := none, protocol_version := 0 }
    else some connection
  closed.map fun connection =>
    { connection with comm := .create }.setStatus .disconnected BOLT_SUCCESS

/-- `BoltConnection_close`. -/
def close (connection : BoltConnection) : Option BoltConnection :=
  let closed :=
    if connection.status.state ≠ .disconnected then connection.close_ else some connection
  closed.map fun connection =>
    { connection with rx_buffer := .create 0, tx_buffer := .create 0, id := [] }

/-! ## Opening -/

/-- The twenty bytes that a client sends first: a preamble and four versions. -/
def handshakeBytes (_1 _2 _3 _4 : Nat) : List UInt8 :=
  [0x60, 0x60, 0xB0, 0x17] ++ beBytes 4 _1 ++ beBytes 4 _2 ++ beBytes 4 _3 ++ beBytes 4 _4

/-- The `memcpy_be` of the four bytes that the server answers with to the
`int32_t` of the version. -/
def versionOf (handshake : List UInt8) : Int := Int.bmod (beValue handshake) 0x100000000

/-- The protocol that `handshake_b` creates for a version. -/
def protocolOf (protocol_version : Int) : Option BoltProtocol :=
  if protocol_version = 1 then some (.create .v1)
  else if protocol_version = 2 then some (.create .v2)
  else if protocol_version = 3 then some (.create .v3)
  else none

/-- The end of `handshake_b`: create the protocol of the version that the server
has chosen, or close the connection. -/
def negotiated (protocol_version : Int) (connection : BoltConnection) : Outcome BoltConnection :=
  let connection := { connection with protocol_version := protocol_version }
  match protocolOf protocol_version with
  | some protocol => some (BOLT_SUCCESS, { connection with protocol := some protocol })
  | none => connection.close_.map fun connection => (BOLT_PROTOCOL_UNSUPPORTED, connection)

/-- `handshake_b`. -/
def handshakeB (_1 _2 _3 _4 : Nat) (connection : BoltConnection) : Outcome BoltConnection :=
  let (status, comm) := connection.comm.send (handshakeBytes _1 _2 _3 _4)
  let connection := { connection with comm := comm }
  if status ≠ BOLT_SUCCESS then some (BOLT_STATUS_SET, connection.setStatusFromComm .defunct)
  else
    let (status, handshake, comm) := connection.comm.receive 4 4
    let connection := { connection with comm := comm }
    if status ≠ BOLT_SUCCESS then some (BOLT_STATUS_SET, connection.setStatusFromComm .defunct)
    else connection.negotiated (versionOf handshake)

/-- What `BoltConnection_open` is called with: the communication that it
creates (or that the caller has set), whether each resolved host is of a
supported address family, and the id of the connection. -/
structure Target where
  comm : BoltCommunication
  hosts : List Bool
  id : List UInt8

/-- `BoltConnection_open` of a disconnected connection. -/
def openDisconnected (target : Target) (connection : BoltConnection) : Outcome BoltConnection :=
  let (status, comm) := target.comm.openAddress target.hosts
  let connection := { connection with id := target.id, comm := comm }
  if status = BOLT_SUCCESS then
    let connection := { connection with
      tx_buffer := .create INITIAL_TX_BUFFER_SIZE
      rx_buffer := .create INITIAL_RX_BUFFER_SIZE }
    (connection.handshakeB 3 2 1 0).map fun (status, connection) =>
      let (status, connection) := tryStatus status connection
      if status ≠ BOLT_SUCCESS then (status, connection)
      else
        let connection := connection.setStatus .connected BOLT_SUCCESS
        (if connection.status.state = .ready then BOLT_SUCCESS else connection.status.error,
          connection)
  else some (BOLT_STATUS_SET, connection.setStatusFromComm .defunct)

/-- `BoltConnection_open`. -/
def openAt (target : Target) (connection : BoltConnection) : Outcome BoltConnection :=
  if connection.status.state ≠ .disconnected then connection.close.bind (openDisconnected target)
  else connection.openDisconnected target

/-! ## Initialising -/

/-- `protocol->init`: the result is the type of the summary, or the first
status that is not success. -/
def protocolInit (version : ProtocolVersion) (user_agent : List UInt8) (auth_token : BoltValue)
    (connection : BoltConnection) : Outcome BoltConnection :=
  (version.initMessage user_agent auth_token).bind fun message =>
    Outcome.TRY (connection.loadMessage message) fun connection =>
      connection.lastRequest.bind fun init_request =>
        Outcome.TRY (some connection.send) fun connection =>
          Outcome.TRY (connection.fetchSummary init_request) fun connection =>
            connection.protocol.map fun protocol => (protocol.state.data_type.toInt, connection)

/-- What `BoltConnection_init` does with the result of the protocol's `init`. -/
def initialised (code : Int) (connection : BoltConnection) : Int × BoltConnection :=
  if code = BOLT_V1_SUCCESS.toInt then (0, connection.setStatus .ready BOLT_SUCCESS)
  else if code = BOLT_V1_FAILURE.toInt then
    (-1, connection.setStatus .defunct BOLT_PERMISSION_DENIED)
  else (-1, connection.setStatus .defunct BOLT_PROTOCOL_VIOLATION)

/-- `BoltConnection_init`. -/
def init (user_agent : List UInt8) (auth_token : BoltValue) (connection : BoltConnection) :
    Outcome BoltConnection :=
  if connection.protocol_version = 1 ∨ connection.protocol_version = 2 ∨
      connection.protocol_version = 3 then
    match connection.protocol with
    | none => none
    | some protocol =>
      (connection.protocolInit protocol.version user_agent auth_token).map
        fun (code, connection) => initialised code connection
  else some (-1, connection.setStatus .defunct BOLT_PROTOCOL_UNSUPPORTED)

/-! ## Resetting -/

/-- `reset` of `direct-pool.c`, on the connection of the pool. -/
def reset (connection : BoltConnection) : Outcome BoltConnection :=
  connection.loadResetRequest.bind fun (loaded, connection) =>
    if loaded = 0 then
      connection.lastRequest.bind fun request_id =>
        let (sent, connection) := connection.send
        if sent < 0 then some (-1, connection)
        else
          (connection.fetchSummary request_id).map fun (records, connection) =>
            if records < 0 then (-1, connection)
            else if connection.isSummary BOLT_V1_SUCCESS then (0, connection)
            else (-1, connection)
    else some (-1, connection)

end BoltConnection

end Seabolt
