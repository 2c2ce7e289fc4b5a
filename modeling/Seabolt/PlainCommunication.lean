import Seabolt.Communication
import Seabolt.Lib.Runs
import Seabolt.Sockets

/-!
# The plain transport

`communication-plain.c`, and `communication.c` over it.  A communication is opened
once, for one of the hosts of its address, and closed and destroyed at the end.
-/

namespace Seabolt

/-- `struct PlainCommunicationContext`. -/
structure PlainCommunicationContext where
  local_endpoint : Option Nat
  remote_endpoint : Option Nat
  fd_socket : Int
  action_to_restore : SavedMask

/-- `struct BoltSocketOptions`, of which `send_timeout` is not used. -/
structure BoltSocketOptions where
  connect_timeout : Int
  recv_timeout : Int
  keep_alive : Int

/-- `struct BoltCommunication` with its plain context: the error of its status, and the
process around it. -/
structure PlainCommunication where
  error : Int
  sock_opts : BoltSocketOptions
  context : PlainCommunicationContext
  process : Process

namespace PlainCommunication

/-- `BoltCommunication_create_plain`. -/
def create (sock_opts : BoltSocketOptions) (process : Process) : PlainCommunication where
  error := BOLT_SUCCESS
  sock_opts := sock_opts
  context := ⟨none, none, 0, none⟩
  process := process

/-! ## `communication-plain.c` -/

/-- Record an error and return. -/
def fail (code : Int) (comm : PlainCommunication) : Int × PlainCommunication :=
  (BOLT_STATUS_SET, { comm with error := code })

/-- Record the last error of the socket functions. -/
def failWithLastError (comm : PlainCommunication) : Int × PlainCommunication :=
  comm.fail (socketTransformError comm.process.errno)

/-- The `TRY_SOCKET` macro, with the outcome of the call. -/
def TRY_SOCKET (result : Int × Process) (comm : PlainCommunication)
    (next : PlainCommunication → Outcome PlainCommunication) : Outcome PlainCommunication :=
  let comm := { comm with process := result.2 }
  if result.1 = -1 then some comm.failWithLastError else next comm

/-- `plain_socket_ignore_sigpipe`. -/
def ignoreSigpipe (comm : PlainCommunication) : Int × PlainCommunication :=
  let (status, saved, process) :=
    socketIgnoreSigpipe comm.context.action_to_restore comm.process
  let comm := { comm with
    context := { comm.context with action_to_restore := saved }, process := process }
  if status < 0 then comm.failWithLastError else (BOLT_SUCCESS, comm)

/-- `plain_socket_restore_sigpipe`. -/
def restoreSigpipe (comm : PlainCommunication) : Outcome PlainCommunication :=
  (socketRestoreSigpipe comm.context.action_to_restore comm.process).map
    fun (status, saved, process) =>
      let comm := { comm with
        context := { comm.context with action_to_restore := saved }, process := process }
      if status < 0 then comm.failWithLastError else (BOLT_SUCCESS, comm)

/-- The part of `plain_socket_open` that connects, with a limit of time. -/
def connectInTime (comm : PlainCommunication) : Outcome PlainCommunication :=
  let sockfd := comm.context.fd_socket
  -- enable non-blocking mode
  TRY_SOCKET (socketSetBlockingMode sockfd false comm.process) comm fun comm =>
    -- initiate connection
    let (conn_status, in_progress, process) := socketConnect sockfd comm.process
    let comm := { comm with process := process }
    if conn_status = -1 ∧ !in_progress then some comm.failWithLastError
    else
      -- revert to blocking mode
      let connected (comm : PlainCommunication) : Outcome PlainCommunication :=
        TRY_SOCKET (socketSetBlockingMode sockfd true comm.process) comm fun comm =>
          some (BOLT_SUCCESS, comm)
      if conn_status = 0 then connected comm
      else
        match socketSelect sockfd comm.process with
        | none => none
        | some (conn_status, process) =>
          let comm := { comm with process := process }
          if conn_status = 0 then some (comm.fail BOLT_TIMED_OUT)
          else if conn_status = 1 then connected comm
          else some comm.failWithLastError

/-- The part of `plain_socket_open` that connects. -/
def connect (comm : PlainCommunication) : Outcome PlainCommunication :=
  if 0 < comm.sock_opts.connect_timeout then comm.connectInTime
  else
    let (status, _, process) := socketConnect comm.context.fd_socket comm.process
    TRY_SOCKET (status, process) comm fun comm => some (BOLT_SUCCESS, comm)

/-- `get_address_components`, of which the status is not 0 when it fails. -/
def getAddressComponents (comm : PlainCommunication) : Int × PlainCommunication :=
  match comm.process.ask with
  | (.fail _, process) => (-1, { comm with process := process })
  | (.succeed _, process) => (0, { comm with process := process })

/-- The part of `plain_socket_open` that finds the remote endpoint. -/
def nameRemote (comm : PlainCommunication) : Int × PlainCommunication :=
  let (status, comm) := comm.getAddressComponents
  if status ≠ 0 then comm.fail BOLT_ADDRESS_NAME_INFO_FAILED
  else
    let (address, heap) := comm.process.heap.allocate ADDRESS_SIZE
    (BOLT_SUCCESS, { comm with
      context := { comm.context with remote_endpoint := some address }
      process := { comm.process with heap := heap } })

/-- The part of `plain_socket_open` that finds the local endpoint. -/
def nameLocal (comm : PlainCommunication) : Outcome PlainCommunication :=
  TRY_SOCKET (socketGetLocalAddr comm.context.fd_socket comm.process) comm fun comm =>
    let (status, comm) := comm.getAddressComponents
    if status ≠ 0 then some (comm.fail BOLT_ADDRESS_NAME_INFO_FAILED)
    else
      let (address, heap) := comm.process.heap.allocate ADDRESS_SIZE
      some (BOLT_SUCCESS, { comm with
        context := { comm.context with local_endpoint := some address }
        process := { comm.process with heap := heap } })

/-- The part of `plain_socket_open` that sets the options of the socket. -/
def setOptions (comm : PlainCommunication) : Outcome PlainCommunication :=
  let sockfd := comm.context.fd_socket
  TRY_SOCKET (socketSetNodelay sockfd 1 comm.process) comm fun comm =>
    TRY_SOCKET (socketSetRecvTimeout sockfd comm.sock_opts.recv_timeout comm.process) comm
      fun comm =>
        TRY_SOCKET (socketSetKeepalive sockfd comm.sock_opts.keep_alive comm.process) comm
          fun comm => some (BOLT_SUCCESS, comm)

/-- `plain_socket_open`. -/
def plainSocketOpen (comm : PlainCommunication) : Outcome PlainCommunication :=
  let (fd_socket, process) := socketOpen comm.process
  let comm := { comm with
    context := { comm.context with fd_socket := fd_socket }, process := process }
  if fd_socket = -1 then
    let code := socketTransformError comm.process.errno
    some (code, { comm with error := code })
  else
    TRY_SOCKET (socketDisableSigpipe fd_socket comm.process) comm fun comm =>
      Outcome.TRY comm.connect fun comm =>
        Outcome.TRY (some comm.nameRemote) fun comm =>
          Outcome.TRY comm.nameLocal setOptions

/-- `BoltAddress_destroy`, unless the address is NULL. -/
def destroyAddress (address : Option Nat) (process : Process) : Option Process :=
  match address with
  | none => some process
  | some pointer =>
    (process.heap.deallocate pointer ADDRESS_SIZE).map fun heap => { process with heap := heap }

/-- What `plain_socket_close` and `plain_socket_destroy` do with the endpoints. -/
def destroyEndpoints (comm : PlainCommunication) : Option PlainCommunication := do
  let process ← destroyAddress comm.context.local_endpoint comm.process
  let process ← destroyAddress comm.context.remote_endpoint process
  some { comm with
    context := { comm.context with local_endpoint := none, remote_endpoint := none }
    process := process }

/-- `plain_socket_close`. -/
def plainSocketClose (comm : PlainCommunication) : Outcome PlainCommunication :=
  let sockfd := comm.context.fd_socket
  let comm :=
    if sockfd ≠ 0 then { comm with
      context := { comm.context with fd_socket := 0 }
      process := socketClose sockfd (socketShutdown sockfd comm.process) }
    else comm
  comm.destroyEndpoints.map fun comm => (BOLT_SUCCESS, comm)

/-- `plain_socket_send`: the status, and the number of bytes that were sent. -/
def plainSocketSend (buffer : List UInt8) (comm : PlainCommunication) :
    Int × Nat × PlainCommunication :=
  let (bytes, process) := socketSend comm.context.fd_socket buffer comm.process
  let comm := { comm with process := process }
  if bytes = -1 then
    let (status, comm) := comm.failWithLastError
    (status, 0, comm)
  else (BOLT_SUCCESS, bytes.toNat, comm)

/-- `plain_socket_recv`: the status, and the bytes written to the buffer. -/
def plainSocketRecv (length : Nat) (comm : PlainCommunication) :
    Int × List UInt8 × PlainCommunication :=
  let (bytes, buffer, process) := socketRecv comm.context.fd_socket length comm.process
  let comm := { comm with process := process }
  if bytes = -1 then
    let (status, comm) := comm.failWithLastError
    (status, [], comm)
  else if bytes = 0 ∧ length ≠ 0 then
    let (status, comm) := comm.fail BOLT_END_OF_TRANSMISSION
    (status, [], comm)
  else (BOLT_SUCCESS, buffer, comm)

/-! ## `communication.c` -/

/-- The `TRY_COMM` macro for a status that is not success. -/
def tryComm (status : Int) (comm : PlainCommunication) : Int × PlainCommunication :=
  if status = BOLT_STATUS_SET then (BOLT_STATUS_SET, comm)
  else (status, { comm with error := status })

/-- What the transfer loops do with a status that is not success. -/
def transferFailed (status : Int) (comm : PlainCommunication) : Int × PlainCommunication :=
  if status = BOLT_STATUS_SET then (BOLT_STATUS_SET, comm)
  else (BOLT_STATUS_SET, { comm with error := status })

/-- `_open`, for a host of a supported address family. -/
def openHost (comm : PlainCommunication) : Outcome PlainCommunication :=
  comm.plainSocketOpen.map fun (status, comm) =>
    if status ≠ BOLT_SUCCESS then tryComm status comm else (BOLT_SUCCESS, comm)

/-- The loop of `BoltCommunication_open` over the resolved hosts: whether each is of a
supported address family. -/
def openHosts (status : Int) : List Bool → PlainCommunication → Outcome PlainCommunication
  | [], comm => some (status, comm)
  | supported :: hosts, comm =>
    match if supported then comm.openHost else some (BOLT_UNSUPPORTED, comm) with
    | none => none
    | some (status, comm) =>
      if status = BOLT_SUCCESS then some (BOLT_SUCCESS, { comm with error := BOLT_SUCCESS })
      else openHosts status hosts comm

/-- `BoltCommunication_open`. -/
def openAddress (hosts : List Bool) (comm : PlainCommunication) : Outcome PlainCommunication :=
  if hosts = [] then some (BOLT_ADDRESS_NOT_RESOLVED, comm) else openHosts BOLT_SUCCESS hosts comm

/-- The end of the functions that ignore SIGPIPE: restore it, and return the status. -/
def restored (status : Int) (comm : PlainCommunication) : Outcome PlainCommunication :=
  comm.restoreSigpipe.map fun (restored, comm) =>
    if restored ≠ BOLT_SUCCESS then tryComm restored comm else (status, comm)

/-- `BoltCommunication_close`. -/
def close (comm : PlainCommunication) : Outcome PlainCommunication :=
  let (status, comm) := comm.ignoreSigpipe
  if status ≠ BOLT_SUCCESS then some (tryComm status comm)
  else
    match comm.plainSocketClose with
    | none => none
    | some (status, comm) =>
      let comm := if status ≠ BOLT_SUCCESS then { comm with error := status } else comm
      comm.restored status

/-- The loop of `BoltCommunication_send`. -/
def sendLoop : Nat → List UInt8 → PlainCommunication → Int × PlainCommunication
  | 0, _, comm => (BOLT_SUCCESS, comm)
  | rounds + 1, bytes, comm =>
    if bytes = [] then (BOLT_SUCCESS, comm)
    else
      let (status, sent, comm) := comm.plainSocketSend bytes
      if status = BOLT_SUCCESS then sendLoop rounds (bytes.drop sent) comm
      else transferFailed status comm

/-- `BoltCommunication_send`. -/
def send (bytes : List UInt8) (comm : PlainCommunication) : Outcome PlainCommunication :=
  if bytes = [] then some (BOLT_SUCCESS, comm)
  else
    let (status, comm) := comm.ignoreSigpipe
    if status ≠ BOLT_SUCCESS then some (tryComm status comm)
    else
      let (status, comm) := sendLoop bytes.length bytes comm
      comm.restored status

/-- The loop of `BoltCommunication_receive`. -/
def receiveLoop : Nat → Nat → Nat → PlainCommunication → Int × List UInt8 × PlainCommunication
  | 0, _, _, comm => (BOLT_SUCCESS, [], comm)
  | rounds + 1, missing, maxRemaining, comm =>
    if missing = 0 then (BOLT_SUCCESS, [], comm)
    else
      let (status, bytes, comm) := comm.plainSocketRecv maxRemaining
      if status = BOLT_SUCCESS then
        let (status, rest, comm) :=
          receiveLoop rounds (missing - bytes.length) (maxRemaining - bytes.length) comm
        (status, bytes ++ rest, comm)
      else
        let (status, comm) := transferFailed status comm
        (status, [], comm)

/-- `BoltCommunication_receive`: the status, and the bytes written to the buffer. -/
def receive (minSize maxSize : Nat) (comm : PlainCommunication) :
    Option (Int × List UInt8 × PlainCommunication) :=
  if minSize = 0 then some (BOLT_SUCCESS, [], comm)
  else
    let (status, comm) := comm.ignoreSigpipe
    if status ≠ BOLT_SUCCESS then
      let (status, comm) := tryComm status comm
      some (status, [], comm)
    else
      let (status, bytes, comm) := receiveLoop minSize minSize maxSize comm
      (comm.restored status).map fun (status, comm) => (status, bytes, comm)

/-- `BoltCommunication_destroy`: what is left of the context is freed. -/
def destroy (comm : PlainCommunication) : Option Process :=
  comm.destroyEndpoints.map PlainCommunication.process

end PlainCommunication

end Seabolt
