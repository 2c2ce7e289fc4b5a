import Seabolt.Communication
import Seabolt.ProtocolState

/-!
# Connections

`BoltConnection` and its status, and the two transfers of `connection.c`.

A connection that is closed has no protocol; its buffers and its transport
are those that the next `BoltConnection_open` replaces.  Every read of an
uninitialised local on behalf of a connection takes its value from the
`garbage` of the connection.
-/

namespace Seabolt

/-- `BoltConnectionState`. -/
inductive BoltConnectionState where
  | disconnected | connected | ready | failed | defunct
  deriving DecidableEq, Repr

/-- `BoltAccessMode`. -/
inductive BoltAccessMode where
  | write | read
  deriving DecidableEq, Repr

/-- `BoltStatus`, without the context text. -/
structure BoltStatus where
  state : BoltConnectionState
  error : Int
  deriving DecidableEq, Repr

/-- `struct BoltProtocol`: the version stands for its table of functions. -/
structure BoltProtocol where
  version : ProtocolVersion
  state : BoltProtocolState

/-- `BoltConnection`. -/
structure BoltConnection where
  /-- Whether `agent` is not NULL. -/
  agent : Bool
  access_mode : BoltAccessMode
  id : List UInt8
  comm : BoltCommunication
  protocol_version : Int
  protocol : Option BoltProtocol
  tx_buffer : BoltBuffer
  rx_buffer : BoltBuffer
  status : BoltStatus
  /-- Whether `on_error_cb` is set. -/
  on_error_cb : Bool
  /-- The statuses that `on_error_cb` was called with. -/
  on_error_calls : List BoltStatus
  garbage : List UInt8

namespace BoltConnection

/-- `BoltConnection_create`. -/
def create : BoltConnection where
  agent := false
  access_mode := .write
  id := []
  comm := .create
  protocol_version := 0
  protocol := none
  tx_buffer := .create 0
  rx_buffer := .create 0
  status := { state := .disconnected, error := BOLT_SUCCESS }
  on_error_cb := false
  on_error_calls := []
  garbage := []

/-! ## Status -/

/-- `_status_changed`: the error callback sees every change to `DEFUNCT` or
`FAILED`. -/
def statusChanged (connection : BoltConnection) : BoltConnection :=
  if (connection.status.state = .defunct ∨ connection.status.state = .failed)
      ∧ connection.on_error_cb then
    { connection with on_error_calls := connection.on_error_calls ++ [connection.status] }
  else connection

/-- `_set_status`, and `_set_status_with_ctx` without its text. -/
def setStatus (connection : BoltConnection) (state : BoltConnectionState) (error : Int) :
    BoltConnection :=
  let old_status := connection.status.state
  let connection := { connection with status := { state := state, error := error } }
  if state ≠ old_status then connection.statusChanged else connection

/-- `_set_status_from_comm`. -/
def setStatusFromComm (connection : BoltConnection) (state : BoltConnectionState) :
    BoltConnection :=
  connection.setStatus state connection.comm.error

/-- The calls of the error callback, after those for a change to the given
status. -/
def callsAfter (connection : BoltConnection) (status : BoltStatus) : List BoltStatus :=
  if status.state ≠ connection.status.state ∧ (status.state = .defunct ∨ status.state = .failed) ∧
      connection.on_error_cb then
    connection.on_error_calls ++ [status]
  else connection.on_error_calls

/-- Setting the status changes the status and the record of the callback. -/
theorem setStatus_eq (connection : BoltConnection) (state : BoltConnectionState) (error : Int) :
    connection.setStatus state error =
      { connection with
        status := { state := state, error := error }
        on_error_calls := connection.callsAfter { state := state, error := error } } := by
  unfold setStatus statusChanged callsAfter
  by_cases hchange : state = connection.status.state
  · simp [hchange]
  · by_cases hcalled : (state = .defunct ∨ state = .failed) ∧ connection.on_error_cb
    · simp [hchange, hcalled]
    · simp [hchange, hcalled]

@[simp] theorem setStatus_status (connection : BoltConnection) (state : BoltConnectionState)
    (error : Int) : (connection.setStatus state error).status = ⟨state, error⟩ := by
  rw [setStatus_eq]

@[simp] theorem setStatus_rx_buffer (connection : BoltConnection) (state : BoltConnectionState)
    (error : Int) : (connection.setStatus state error).rx_buffer = connection.rx_buffer := by
  rw [setStatus_eq]

@[simp] theorem setStatus_tx_buffer (connection : BoltConnection) (state : BoltConnectionState)
    (error : Int) : (connection.setStatus state error).tx_buffer = connection.tx_buffer := by
  rw [setStatus_eq]

@[simp] theorem setStatus_protocol (connection : BoltConnection) (state : BoltConnectionState)
    (error : Int) : (connection.setStatus state error).protocol = connection.protocol := by
  rw [setStatus_eq]

@[simp] theorem setStatus_agent (connection : BoltConnection) (state : BoltConnectionState)
    (error : Int) : (connection.setStatus state error).agent = connection.agent := by
  rw [setStatus_eq]

/-- The `TRY` of `connection.c` around a protocol function. -/
def tryStatus (status : Int) (connection : BoltConnection) : Int × BoltConnection :=
  if status = BOLT_SUCCESS then (BOLT_SUCCESS, connection)
  else if status = BOLT_STATUS_SET then (-1, connection)
  else (status, connection.setStatus .defunct status)

/-! ## Transfers -/

/-- `BoltConnection_send`. -/
def send (connection : BoltConnection) : Int × BoltConnection :=
  let size := connection.tx_buffer.unloadable
  let bytes := (connection.tx_buffer.data.drop connection.tx_buffer.cursor).take size
  let (_, tx_buffer) := connection.tx_buffer.unloadPointer size
  let (status, comm) := connection.comm.send bytes
  let connection := { connection with comm := comm, tx_buffer := tx_buffer }
  let (status, connection) :=
    if status ≠ BOLT_SUCCESS then (BOLT_STATUS_SET, connection.setStatusFromComm .defunct)
    else (status, connection)
  (status, { connection with tx_buffer := connection.tx_buffer.compact })

/-- The room that `BoltConnection_receive` reserves for `delta` missing
bytes: the free space of the buffer, compacted when there is none, or `delta`
if that is more. -/
def reserve (rx_buffer : BoltBuffer) (delta : Nat) : BoltBuffer × Nat :=
  let rx_buffer := if rx_buffer.loadable = 0 then rx_buffer.compact else rx_buffer
  (rx_buffer, max delta rx_buffer.loadable)

/-- The loop of `BoltConnection_receive`.  Every round takes at least one of
the missing bytes, which bound the rounds. -/
def receiveLoop : Nat → Nat → BoltConnection → Int × BoltConnection
  | 0, _, connection => (BOLT_SUCCESS, connection)
  | rounds + 1, delta, connection =>
    if delta > 0 then
      let (rx_buffer, max_size) := reserve connection.rx_buffer delta
      let (target, rx_buffer) := rx_buffer.loadPointer max_size
      let (status, bytes, comm) := connection.comm.receive delta max_size
      let rx_buffer := rx_buffer.write target bytes
      let connection := { connection with comm := comm, rx_buffer := rx_buffer }
      if status ≠ BOLT_SUCCESS then (BOLT_STATUS_SET, connection.setStatusFromComm .defunct)
      else
        -- adjust the buffer extent based on the actual amount of data received
        let rx_buffer := { rx_buffer with extent := rx_buffer.extent - max_size + bytes.length }
        receiveLoop rounds (delta - bytes.length) { connection with rx_buffer := rx_buffer }
    else (BOLT_SUCCESS, connection)

/-- `BoltConnection_receive`: the status, and the bytes written to the
caller's buffer. -/
def receive (connection : BoltConnection) (size : Nat) : Int × List UInt8 × BoltConnection :=
  if size = 0 then (BOLT_SUCCESS, [], connection)
  else
    let delta := size - connection.rx_buffer.unloadable
    let (status, connection) := receiveLoop delta delta connection
    if status = BOLT_SUCCESS then
      match connection.rx_buffer.unload size with
      | some (bytes, rx_buffer) => (BOLT_SUCCESS, bytes, { connection with rx_buffer := rx_buffer })
      | none => (BOLT_SUCCESS, [], connection)
    else (status, [], connection)

end BoltConnection

end Seabolt
