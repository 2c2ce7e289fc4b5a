import Seabolt.SocketLives

/-!
# The secure transport

How `communication-secure-openssl.c` opens, closes and destroys a communication.  It has a
plain communication under it, whose status it shares.  OpenSSL is not a part of the
repository: its functions answer like system calls, and the objects that it hands out,
security contexts and sessions, are blocks.

A security context is shared between the connections of a pool, or it belongs to the
communication.  `secure_lives_account` says what becomes of these objects.
-/

namespace Seabolt

/-- The size of an object of OpenSSL, which only has to be the same for all. -/
abbrev OBJECT_SIZE : Nat := 1

/-- A process, and its objects of OpenSSL. -/
structure SecureProcess where
  process : Process
  contexts : Blocks
  sessions : Blocks

/-- `struct OpenSSLContext`, and the objects. -/
structure SecureCommunication where
  owns_sec_ctx : Bool
  sec_ctx : Option Nat
  ssl : Option Nat
  plain_comm : PlainCommunication
  contexts : Blocks
  sessions : Blocks

namespace SecureCommunication

/-! ## OpenSSL -/

/-- `SSL_set_fd` and `SSL_set_tlsext_host_name`: whether they succeed. -/
def sslSet (process : Process) : Bool × Process :=
  match process.ask with
  | (.fail _, process) => (false, process)
  | (.succeed _, process) => (true, process)

/-- `SSL_connect` and `SSL_shutdown`, which work on the socket: whether they succeed.  A
peer that is gone raises SIGPIPE. -/
def sslTalk (process : Process) : Bool × Process :=
  match process.ask with
  | (.fail .EPIPE, process) => (false, { process with signals := process.signals.raise })
  | (.fail _, process) => (false, process)
  | (.succeed _, process) => (true, process)

/-- The part of `secure_openssl_open` that works on the new session, up to the first
failure. -/
def handshake (process : Process) : Bool × Process :=
  let (set, process) := sslSet process
  if !set then (false, process)
  else
    let (named, process) := sslSet process
    if !named then (false, process) else sslTalk process

/-! ## `communication-secure-openssl.c` -/

/-- `BoltCommunication_create_secure`. -/
def create (sec_ctx : Option Nat) (sock_opts : BoltSocketOptions) (world : SecureProcess) :
    SecureCommunication where
  owns_sec_ctx := sec_ctx.isNone
  sec_ctx := sec_ctx
  ssl := none
  plain_comm := .create sock_opts world.process
  contexts := world.contexts
  sessions := world.sessions

/-- The part of `secure_openssl_open` that makes sure that there is a context.  The pointer
is used, whether `BoltSecurityContext_create` has returned one or not. -/
def ensureContext (comm : SecureCommunication) : Option (Nat × SecureCommunication) :=
  match comm.sec_ctx with
  | some pointer => some (pointer, comm)
  | none =>
    match comm.plain_comm.process.ask with
    | (.fail _, _) => none
    | (.succeed _, process) =>
      let (pointer, contexts) := comm.contexts.allocate OBJECT_SIZE
      some (pointer, { comm with
        owns_sec_ctx := true
        sec_ctx := some pointer
        plain_comm := { comm.plain_comm with process := process }
        contexts := contexts })

/-- The end of `secure_openssl_open`, after a failure. -/
def abandon (pointer ssl : Nat) (comm : SecureCommunication) :
    Option (Int × SecureCommunication) := do
  let sessions ← comm.sessions.deallocate ssl OBJECT_SIZE
  let contexts ←
    if comm.owns_sec_ctx then comm.contexts.deallocate pointer OBJECT_SIZE else some comm.contexts
  some (comm.plain_comm.error, { comm with
    owns_sec_ctx := false
    sec_ctx := none
    ssl := none
    contexts := contexts
    sessions := sessions })

/-- `secure_openssl_open`. -/
def secureOpensslOpen (comm : SecureCommunication) : Outcome SecureCommunication :=
  match comm.plain_comm.plainSocketOpen with
  | none => none
  | some (status, plain) =>
    let comm := { comm with plain_comm := plain }
    if status ≠ BOLT_SUCCESS then some (status, comm)
    else
      match comm.ensureContext with
      | none => none
      | some (pointer, comm) =>
        if (comm.contexts.read pointer).isNone then none
        else
          let (ssl, sessions) := comm.sessions.allocate OBJECT_SIZE
          let (connected, process) := handshake comm.plain_comm.process
          let comm := { comm with
            ssl := some ssl
            plain_comm := { comm.plain_comm with process := process }
            sessions := sessions }
          if connected then some (BOLT_SUCCESS, comm)
          else abandon pointer ssl { comm with
            plain_comm := { comm.plain_comm with error := BOLT_TLS_ERROR } }

/-- `BoltSecurityContext_destroy`, if there is a context and it is owned. -/
def dropContext (comm : SecureCommunication) : Option SecureCommunication :=
  match comm.sec_ctx with
  | none => some comm
  | some pointer =>
    if comm.owns_sec_ctx then
      (comm.contexts.deallocate pointer OBJECT_SIZE).map fun contexts =>
        { comm with owns_sec_ctx := false, sec_ctx := none, contexts := contexts }
    else some comm

/-- The part of `secure_openssl_close` that is about the session. -/
def dropSession (comm : SecureCommunication) : Option SecureCommunication :=
  match comm.ssl with
  | none => some comm
  | some ssl =>
    let (_, process) := sslTalk comm.plain_comm.process
    (comm.sessions.deallocate ssl OBJECT_SIZE).map fun sessions =>
      { comm with
        ssl := none
        plain_comm := { comm.plain_comm with process := process }
        sessions := sessions }

/-- `secure_openssl_close`. -/
def secureOpensslClose (comm : SecureCommunication) : Option (Int × SecureCommunication) := do
  let comm ← comm.dropSession
  let comm ← comm.dropContext
  let (status, plain) ← comm.plain_comm.plainSocketClose
  some (status, { comm with plain_comm := plain })

/-- `secure_openssl_destroy`. -/
def secureOpensslDestroy (comm : SecureCommunication) : Option SecureProcess := do
  let comm ← comm.dropContext
  let process ← comm.plain_comm.destroy
  some ⟨process, comm.contexts, comm.sessions⟩

/-! ## `communication.c` -/

/-- `_open`, for a host of a supported address family. -/
def openHost (comm : SecureCommunication) : Outcome SecureCommunication :=
  comm.secureOpensslOpen.map fun (status, comm) =>
    if status ≠ BOLT_SUCCESS then
      let (status, plain) := PlainCommunication.tryComm status comm.plain_comm
      (status, { comm with plain_comm := plain })
    else (BOLT_SUCCESS, comm)

/-- The loop of `BoltCommunication_open`. -/
def openHosts (status : Int) : List Bool → SecureCommunication → Outcome SecureCommunication
  | [], comm => some (status, comm)
  | supported :: hosts, comm =>
    match if supported then comm.openHost else some (BOLT_UNSUPPORTED, comm) with
    | none => none
    | some (status, comm) =>
      if status = BOLT_SUCCESS then
        some (BOLT_SUCCESS, { comm with
          plain_comm := { comm.plain_comm with error := BOLT_SUCCESS } })
      else openHosts status hosts comm

/-- `BoltCommunication_open`. -/
def openAddress (hosts : List Bool) (comm : SecureCommunication) : Outcome SecureCommunication :=
  if hosts = [] then some (BOLT_ADDRESS_NOT_RESOLVED, comm) else openHosts BOLT_SUCCESS hosts comm

/-- `BoltCommunication_close`. -/
def close (comm : SecureCommunication) : Outcome SecureCommunication :=
  let (status, plain) := comm.plain_comm.ignoreSigpipe
  let comm := { comm with plain_comm := plain }
  if status ≠ BOLT_SUCCESS then
    let (status, plain) := PlainCommunication.tryComm status plain
    some (status, { comm with plain_comm := plain })
  else
    match comm.secureOpensslClose with
    | none => none
    | some (status, comm) =>
      let plain :=
        if status ≠ BOLT_SUCCESS then { comm.plain_comm with error := status } else comm.plain_comm
      (plain.restored status).map fun (status, plain) => (status, { comm with plain_comm := plain })

end SecureCommunication

end Seabolt
