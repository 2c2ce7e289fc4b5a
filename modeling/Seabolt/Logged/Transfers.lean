import Seabolt.Logged.Calls

/-!
# Transfers with logging

`BoltConnection_send` and `BoltConnection_receive`, on `BoltCommunication_send` and
`BoltCommunication_receive`, which log how much they have transferred.
-/

namespace Seabolt

open Erasure

namespace Logged

section Definitions

variable (log : Log) (id : List UInt8)

/-! ## `communication.c` -/

/-- `BoltCommunication_receive`. -/
def commReceive (minSize maxSize : Nat) (comm : BoltCommunication) :
    Logged (Int × List UInt8 × BoltCommunication) :=
  if minSize = 0 then pure (BOLT_SUCCESS, [], comm)
  else do
    let (status, comm) := comm.ignoreSigpipe
    if status ≠ BOLT_SUCCESS then
      let (status, comm) := BoltCommunication.tryComm status comm
      pure (status, [], comm)
    else
      let (status, bytes, comm) := BoltCommunication.receiveLoop minSize minSize maxSize comm
      onlyIf (status = BOLT_SUCCESS)
        (if minSize = maxSize then
          log.info "[%s]: Received %d of %d bytes"
            [.string id, .number bytes.length, .number maxSize]
        else
          log.info "[%s]: Received %d of %d..%d bytes"
            [.string id, .number bytes.length, .number minSize, .number maxSize])
      let (restored, comm) := comm.restoreSigpipe
      if restored ≠ BOLT_SUCCESS then
        let (restored, comm) := BoltCommunication.tryComm restored comm
        pure (restored, bytes, comm)
      else pure (status, bytes, comm)

/-- `BoltCommunication_send`.  It has sent all bytes if no call of the transport failed. -/
def commSend (bytes : List UInt8) (comm : BoltCommunication) : Logged (Int × BoltCommunication) :=
  if bytes = [] then pure (BOLT_SUCCESS, comm)
  else do
    let (status, comm) := comm.ignoreSigpipe
    if status ≠ BOLT_SUCCESS then pure (BoltCommunication.tryComm status comm)
    else
      let (status, comm) := BoltCommunication.sendLoop bytes.length bytes comm
      onlyIf (status = BOLT_SUCCESS) (log.info "[%s]: (Sent %d of %d bytes)"
        [.string id, .number bytes.length, .number bytes.length])
      let (restored, comm) := comm.restoreSigpipe
      if restored ≠ BOLT_SUCCESS then pure (BoltCommunication.tryComm restored comm)
      else pure (status, comm)

/-! ## `connection.c` -/

/-- `BoltConnection_send`. -/
def send (connection : BoltConnection) : Logged (Int × BoltConnection) := do
  let size := connection.tx_buffer.unloadable
  let bytes := (connection.tx_buffer.data.drop connection.tx_buffer.cursor).take size
  let (_, tx_buffer) := connection.tx_buffer.unloadPointer size
  let (status, comm) ← commSend log id bytes connection.comm
  let connection := { connection with comm := comm, tx_buffer := tx_buffer }
  let (status, connection) ←
    if status ≠ BOLT_SUCCESS then do
      let connection ← setStatusFromComm log id .defunct connection
      pure (BOLT_STATUS_SET, connection)
    else pure (status, connection)
  pure (status, { connection with tx_buffer := connection.tx_buffer.compact })

/-- The loop of `BoltConnection_receive`. -/
def receiveLoop : Nat → Nat → BoltConnection → Logged (Int × BoltConnection)
  | 0, _, connection => pure (BOLT_SUCCESS, connection)
  | rounds + 1, delta, connection =>
    if delta > 0 then do
      let (rx_buffer, max_size) := BoltConnection.reserve connection.rx_buffer delta
      let (target, rx_buffer) := rx_buffer.loadPointer max_size
      let (status, bytes, comm) ← commReceive log id delta max_size connection.comm
      let rx_buffer := rx_buffer.write target bytes
      let connection := { connection with comm := comm, rx_buffer := rx_buffer }
      if status ≠ BOLT_SUCCESS then
        let connection ← setStatusFromComm log id .defunct connection
        pure (BOLT_STATUS_SET, connection)
      else
        let rx_buffer := { rx_buffer with extent := rx_buffer.extent - max_size + bytes.length }
        receiveLoop rounds (delta - bytes.length) { connection with rx_buffer := rx_buffer }
    else pure (BOLT_SUCCESS, connection)

/-- `BoltConnection_receive`. -/
def receive (connection : BoltConnection) (size : Nat) :
    Logged (Int × List UInt8 × BoltConnection) :=
  if size = 0 then pure (BOLT_SUCCESS, [], connection)
  else do
    let delta := size - connection.rx_buffer.unloadable
    let (status, connection) ← receiveLoop log id delta delta connection
    if status = BOLT_SUCCESS then
      match connection.rx_buffer.unload size with
      | some (bytes, rx_buffer) =>
        pure (BOLT_SUCCESS, bytes, { connection with rx_buffer := rx_buffer })
      | none => pure (BOLT_SUCCESS, [], connection)
    else pure (status, [], connection)

end Definitions

/-! ## Results -/

variable {log : Log} {id : List UInt8}

@[simp] theorem result_commReceive (minSize maxSize : Nat) (comm : BoltCommunication) :
    result (commReceive log id minSize maxSize comm) = some (comm.receive minSize maxSize) := by
  have hlog : ∀ (c : Prop) [Decidable c] (format format' : String)
      (arguments arguments' : List LogArgument),
      result (if c then log.info format arguments else log.info format' arguments') = some () := by
    intro c _ format format' arguments arguments'
    rw [result_ite, Log.result_info, Log.result_info, ite_self]
  unfold commReceive BoltCommunication.receive
  by_cases hempty : minSize = 0
  · rw [if_pos hempty, if_pos hempty]
    rfl
  rw [if_neg hempty, if_neg hempty]
  rcases comm.ignoreSigpipe with ⟨status, comm⟩
  by_cases hignored : status ≠ BOLT_SUCCESS
  · simp only [if_pos hignored]
    rfl
  simp only [if_neg hignored]
  rcases BoltCommunication.receiveLoop minSize minSize maxSize comm with ⟨status, bytes, comm⟩
  simp only [result_bind, result_onlyIf (hlog _ _ _ _ _), Option.bind_some]
  rcases comm.restoreSigpipe with ⟨restored, comm⟩
  simp only [result_ite, result_pure]
  split_ifs <;> rfl

@[simp] theorem result_commSend (bytes : List UInt8) (comm : BoltCommunication) :
    result (commSend log id bytes comm) = some (comm.send bytes) := by
  unfold commSend BoltCommunication.send
  by_cases hempty : bytes = []
  · rw [if_pos hempty, if_pos hempty]
    rfl
  rw [if_neg hempty, if_neg hempty]
  rcases comm.ignoreSigpipe with ⟨status, comm⟩
  by_cases hignored : status ≠ BOLT_SUCCESS
  · simp only [if_pos hignored]
    rfl
  simp only [if_neg hignored]
  rcases BoltCommunication.sendLoop bytes.length bytes comm with ⟨status, comm⟩
  simp only [result_bind, result_onlyIf (Log.result_info ..), Option.bind_some]
  rcases comm.restoreSigpipe with ⟨restored, comm⟩
  simp only [result_ite, result_pure]
  split_ifs <;> rfl

@[simp] theorem result_send (connection : BoltConnection) :
    result (send log id connection) = some connection.send := by
  unfold send BoltConnection.send
  dsimp only
  rcases connection.tx_buffer.unloadPointer connection.tx_buffer.unloadable with ⟨_, tx_buffer⟩
  simp only [result_bind, result_commSend, Option.bind_some]
  generalize (connection.tx_buffer.data.drop connection.tx_buffer.cursor).take
    connection.tx_buffer.unloadable = bytes
  rcases connection.comm.send bytes with ⟨status, comm⟩
  by_cases hfailed : status ≠ BOLT_SUCCESS
  · simp only [if_pos hfailed, result_bind, result_setStatusFromComm, Option.bind_some, result_pure]
  · simp only [if_neg hfailed, result_bind, result_pure, Option.bind_some]

theorem result_receiveLoop (rounds : Nat) : ∀ delta connection,
    result (receiveLoop log id rounds delta connection) =
      some (BoltConnection.receiveLoop rounds delta connection) := by
  induction rounds with
  | zero => exact fun _ _ => rfl
  | succ rounds ih =>
    intro delta connection
    rw [receiveLoop, BoltConnection.receiveLoop]
    by_cases hmissing : delta > 0
    · rw [if_pos hmissing, if_pos hmissing]
      rcases BoltConnection.reserve connection.rx_buffer delta with ⟨rx_buffer, max_size⟩
      simp only [result_bind, result_commReceive, Option.bind_some]
      rcases connection.comm.receive delta max_size with ⟨status, bytes, comm⟩
      by_cases hfailed : status ≠ BOLT_SUCCESS
      · simp only [if_pos hfailed, result_bind, result_setStatusFromComm, Option.bind_some,
          result_pure]
      · simp only [if_neg hfailed, ih]
    · rw [if_neg hmissing, if_neg hmissing]
      rfl

@[simp] theorem result_receive (connection : BoltConnection) (size : Nat) :
    result (receive log id connection size) = some (connection.receive size) := by
  unfold receive BoltConnection.receive
  by_cases hempty : size = 0
  · rw [if_pos hempty, if_pos hempty]
    rfl
  rw [if_neg hempty, if_neg hempty]
  simp only [result_bind, result_receiveLoop, Option.bind_some]
  rcases BoltConnection.receiveLoop (size - connection.rx_buffer.unloadable)
    (size - connection.rx_buffer.unloadable) connection with ⟨status, connection⟩
  by_cases hreceived : status = BOLT_SUCCESS
  · simp only [if_pos hreceived]
    cases connection.rx_buffer.unload size with
    | none => rfl
    | some unloaded => rfl
  · simp only [if_neg hreceived]
    rfl

end Logged

end Seabolt
