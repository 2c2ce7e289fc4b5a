import Seabolt.Lib.Erasure
import Seabolt.Logging

/-!
# Logging calls

The functions of `log.c`, called where the rest of the source calls them: a function with
calls in it is a computation that writes them (`Logged`), and it is undefined if a call
reads through NULL.  A call that the logger has not enabled writes nothing.

What `vsnprintf` makes of a format and its arguments is left to the C library.  `%s` reads a
text up to a NUL, and goes on behind a text that has none; what it reads there changes no
result.  The texts of values have no limit here, while the builder of such a text counts its
bytes in an `int`.
-/

namespace Seabolt

open Erasure

/-! ## `log.c` -/

/-- The levels of a logger. -/
inductive LogLevel where
  | error
  | warning
  | info
  | debug
  deriving DecidableEq, Repr

/-- `struct BoltLog`: which levels are enabled. -/
abbrev Logger := LogLevel → Bool

/-- A logger that has every level enabled. -/
def Logger.all : Logger := fun _ => true

/-- An argument behind the format: a `%s`, or a number. -/
inductive LogArgument where
  | string (text : List UInt8)
  | number (n : Int)
  deriving DecidableEq, Repr

/-- A call of a logger. -/
structure LogCall where
  level : LogLevel
  format : String
  arguments : List LogArgument
  deriving DecidableEq, Repr

/-- A function with logging calls in it. -/
abbrev Logged (α : Type) := Writing (List LogCall) α

/-- Where the `error_ctx` of a status comes from: from the communication, or from a format
that is printed with the place in the source. -/
inductive StatusContext where
  | comm (comm : BoltCommunication)
  | located (format : String)

/-- A logger or NULL, and what is printed by others: a double, a Dictionary with a key that
is no String, of which the bytes in memory are printed, and an `error_ctx`. -/
structure Log where
  logger : Option Logger
  printing : Printing
  object : BoltValue → List UInt8
  context : StatusContext → List UInt8

namespace Log

variable (log : Log)

/-- `log!=NULL && log->..._enabled`. -/
def enabled (level : LogLevel) : Bool := log.logger.any fun logger => logger level

/-- `BoltLog_error`, `BoltLog_warning`, `BoltLog_info` and `BoltLog_debug`. -/
def write (level : LogLevel) (format : String) (arguments : List LogArgument) : Logged Unit :=
  onlyIf (log.enabled level) (tell [⟨level, format, arguments⟩])

/-- `BoltLog_error`. -/
def error (format : String) (arguments : List LogArgument) : Logged Unit :=
  log.write .error format arguments

/-- `BoltLog_info`. -/
def info (format : String) (arguments : List LogArgument) : Logged Unit :=
  log.write .info format arguments

/-- `BoltLog_debug`. -/
def debug (format : String) (arguments : List LogArgument) : Logged Unit :=
  log.write .debug format arguments

/-- `BoltValue_write` into a new builder.  The type of NULL cannot be read.  A text of `2 ^ 31`
bytes and more overflows the `int` of the builder, which this function does not show. -/
def valueText (version : ProtocolVersion) : Option BoltValue → Logged (List UInt8)
  | none => liftM (none : Option (List UInt8))
  | some value =>
    pure ((value.write log.printing version.structureName).getD (log.object value))

/-- `BoltLog_value`. -/
def value (format : String) (id : List UInt8) (version : ProtocolVersion)
    (value : Option BoltValue) : Logged Unit :=
  onlyIf (log.enabled .debug) do
    let text ← log.valueText version value
    log.debug format [.string id, .string text]

/-- `BoltLog_message`. -/
def message (id : List UInt8) (peer : String) (request_id : Nat) (code : Int16)
    (fields : BoltValue) (version : ProtocolVersion) : Logged Unit :=
  onlyIf (log.enabled .debug) do
    let text ← log.valueText version (some fields)
    log.debug "[%s]: %s[%PRIu64] %s %s" [.string id, .string (ascii peer), .number request_id,
      .string (version.messageName code), .string text]

variable {log}

@[simp] theorem result_write (level : LogLevel) (format : String) (arguments : List LogArgument) :
    result (log.write level format arguments) = some () :=
  result_onlyIf (result_tell _) _

@[simp] theorem result_error (format : String) (arguments : List LogArgument) :
    result (log.error format arguments) = some () := result_write ..

@[simp] theorem result_info (format : String) (arguments : List LogArgument) :
    result (log.info format arguments) = some () := result_write ..

@[simp] theorem result_debug (format : String) (arguments : List LogArgument) :
    result (log.debug format arguments) = some () := result_write ..

/-- A value that is not NULL can be printed, whatever it is, as its text has no limit here. -/
@[simp] theorem result_value (format : String) (id : List UInt8) (version : ProtocolVersion)
    (value : BoltValue) : result (log.value format id version (some value)) = some () := by
  refine result_onlyIf ?_ _
  simp only [valueText, result_bind, result_pure, result_debug, Option.bind_some]

/-- NULL can be passed as long as it is not printed. -/
theorem result_value_null (format : String) (id : List UInt8) (version : ProtocolVersion) :
    result (log.value format id version none) = if log.enabled .debug then none else some () := by
  simp only [value, onlyIf, valueText, result_ite, result_bind, result_liftM, result_pure,
    Option.bind_none]

@[simp] theorem result_message (id : List UInt8) (peer : String) (request_id : Nat) (code : Int16)
    (fields : BoltValue) (version : ProtocolVersion) :
    result (log.message id peer request_id code fields version) = some () := by
  refine result_onlyIf ?_ _
  simp only [valueText, result_bind, result_pure, result_debug, Option.bind_some]

end Log

/-! ## Statuses -/

namespace Logged

/-- `BoltConnection_id`, within a function of the protocol. -/
def sessionId (version : ProtocolVersion) : Session → List UInt8
  | (connection, state) =>
    match version with
    | .v1 | .v2 => connection.id
    | .v3 => BoltProtocolV3.id state.toSummaryData connection.id

variable (log : Log)

/-- The name of a state. -/
def statusText : BoltConnectionState → List UInt8
  | .disconnected => ascii "<DISCONNECTED>"
  | .connected => ascii "<CONNECTED>"
  | .ready => ascii "<READY>"
  | .failed => ascii "<FAILED>"
  | .defunct => ascii "<DEFUNCT>"

/-- `_status_changed`. -/
def statusChanged (id error_ctx : List UInt8) (connection : BoltConnection) :
    Logged BoltConnection := do
  if printed error_ctx ≠ [] then
    log.info "[%s]: %s [%s]"
      [.string id, .string (statusText connection.status.state), .string error_ctx]
  else log.info "[%s]: %s" [.string id, .string (statusText connection.status.state)]
  pure connection.statusChanged

/-- `_set_status` and `_set_status_with_ctx`. -/
def setStatus (id error_ctx : List UInt8) (state : BoltConnectionState) (error : Int)
    (connection : BoltConnection) : Logged BoltConnection :=
  let old_status := connection.status.state
  let connection := { connection with status := { state := state, error := error } }
  if state ≠ old_status then statusChanged log id error_ctx connection else pure connection

/-- `_set_status_from_comm`. -/
def setStatusFromComm (id : List UInt8) (state : BoltConnectionState)
    (connection : BoltConnection) : Logged BoltConnection :=
  setStatus log id (log.context (.comm connection.comm)) state connection.comm.error connection

variable {log}

@[simp] theorem result_statusChanged (id error_ctx : List UInt8) (connection : BoltConnection) :
    result (statusChanged log id error_ctx connection) = some connection.statusChanged := by
  simp only [statusChanged, result_bind, result_ite, Log.result_info, ite_self, Option.bind_some,
    result_pure]

@[simp] theorem result_setStatus (id error_ctx : List UInt8) (state : BoltConnectionState)
    (error : Int) (connection : BoltConnection) :
    result (setStatus log id error_ctx state error connection) =
      some (connection.setStatus state error) := by
  simp only [setStatus, result_ite, result_statusChanged, result_pure]
  rw [BoltConnection.setStatus, apply_ite some]

@[simp] theorem result_setStatusFromComm (id : List UInt8) (state : BoltConnectionState)
    (connection : BoltConnection) :
    result (setStatusFromComm log id state connection) =
      some (connection.setStatusFromComm state) := result_setStatus ..

end Logged

end Seabolt
