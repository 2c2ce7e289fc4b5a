import Seabolt.Isolation
import Seabolt.Loading
import Seabolt.Opening

/-!
# What an operation can change

A transport function that fails has an error recorded in the communication,
except when there is nothing to open (`openAddress_cases`).  From there the
error goes to the status of the connection.

`Steady` and `Session.Steady` say what receiving and fetching leave alone, and
that they set no status but `DEFUNCT`, with an error.
-/

namespace Seabolt

/-! ## Errors of the transport -/

namespace BoltCommunication

variable {comm : BoltCommunication}

/-- A failure is reported by its code, or recorded. -/
def Failed (result : Int × BoltCommunication) : Prop :=
  result.1 ≠ BOLT_SUCCESS ∧ (result.1 = BOLT_STATUS_SET → result.2.error ≠ BOLT_SUCCESS)

theorem failWith_failed (comm : BoltCommunication) (failure : Failure) :
    Failed (comm.failWith failure) := by
  cases failure with
  | code error => exact ⟨error.2.1, fun hset => absurd hset error.2.2⟩
  | statusSet error => exact ⟨(by decide : BOLT_STATUS_SET ≠ BOLT_SUCCESS), fun _ => error.2.1⟩

theorem report_failed {failure : Option Failure}
    (h : (comm.report failure).1 ≠ BOLT_SUCCESS) : Failed (comm.report failure) := by
  cases failure with
  | none => exact absurd rfl h
  | some failure => exact failWith_failed comm failure

/-- `TRY_COMM` records the code of a failure. -/
theorem tryComm_error {result : Int × BoltCommunication} (h : Failed result) :
    (tryComm result.1 result.2).2.error ≠ BOLT_SUCCESS := by
  unfold tryComm
  split_ifs with hset
  · exact h.2 hset
  · exact h.1

theorem transferFailed_error {result : Int × BoltCommunication} (h : Failed result) :
    (transferFailed result.1 result.2).2.error ≠ BOLT_SUCCESS := by
  unfold transferFailed
  split_ifs with hset
  · exact h.2 hset
  · exact h.1

theorem ignoreSigpipe_failed (h : comm.ignoreSigpipe.1 ≠ BOLT_SUCCESS) :
    Failed comm.ignoreSigpipe := report_failed h

theorem restoreSigpipe_failed (h : comm.restoreSigpipe.1 ≠ BOLT_SUCCESS) :
    Failed comm.restoreSigpipe := report_failed h

/-- Restoring the handler without a failure keeps the recorded error. -/
theorem restoreSigpipe_error (h : comm.restoreSigpipe.1 = BOLT_SUCCESS) :
    comm.restoreSigpipe.2.error = comm.error := by
  unfold restoreSigpipe at h ⊢
  rcases hhead : comm.restoreScript.headD none with _ | failure
  · rfl
  · rw [hhead] at h
    exact absurd h (failWith_failed _ failure).1

theorem recv_failed {offered : Nat} (h : (comm.recv offered).1 ≠ BOLT_SUCCESS) :
    Failed ((comm.recv offered).1, (comm.recv offered).2.2) := by
  have hdeliver (comm : BoltCommunication) (n : Nat) (h : (comm.deliver n offered).1 ≠ BOLT_SUCCESS) :
      Failed ((comm.deliver n offered).1, (comm.deliver n offered).2.2) := by
    unfold deliver at h ⊢
    split_ifs at h ⊢
    · exact ⟨(by decide : BOLT_STATUS_SET ≠ BOLT_SUCCESS),
        fun _ => (by decide : BOLT_END_OF_TRANSMISSION ≠ BOLT_SUCCESS)⟩
    · exact absurd rfl h
  unfold recv at h ⊢
  split at h
  · exact hdeliver comm offered h
  · exact hdeliver _ _ h
  · exact failWith_failed _ _

theorem send1_failed {bytes : List UInt8} (h : (comm.send1 bytes).1 ≠ BOLT_SUCCESS) :
    Failed ((comm.send1 bytes).1, (comm.send1 bytes).2.2) := by
  unfold send1 at h ⊢
  dsimp only at h ⊢
  split at h
  · exact absurd rfl h
  · exact absurd rfl h
  · exact failWith_failed _ _

theorem receiveLoop_error (rounds : Nat) :
    ∀ {missing maxRemaining : Nat} {comm : BoltCommunication},
      (receiveLoop rounds missing maxRemaining comm).1 ≠ BOLT_SUCCESS →
      (receiveLoop rounds missing maxRemaining comm).2.2.error ≠ BOLT_SUCCESS := by
  induction rounds with
  | zero => exact fun h => absurd rfl h
  | succ rounds ih =>
    intro missing maxRemaining comm h
    unfold receiveLoop at h ⊢
    dsimp only at h ⊢
    split_ifs at h ⊢ with hmissing hrecv
    · exact absurd rfl h
    · exact ih h
    · exact transferFailed_error (recv_failed hrecv)

theorem sendLoop_error (rounds : Nat) :
    ∀ {bytes : List UInt8} {comm : BoltCommunication},
      (sendLoop rounds bytes comm).1 ≠ BOLT_SUCCESS →
      (sendLoop rounds bytes comm).2.error ≠ BOLT_SUCCESS := by
  induction rounds with
  | zero => exact fun h => absurd rfl h
  | succ rounds ih =>
    intro bytes comm h
    unfold sendLoop at h ⊢
    dsimp only at h ⊢
    split_ifs at h ⊢ with hempty hsend
    · exact absurd rfl h
    · exact ih h
    · exact transferFailed_error (send1_failed hsend)

/-- A receive that fails has recorded an error. -/
theorem receive_error {minSize maxSize : Nat}
    (h : (comm.receive minSize maxSize).1 ≠ BOLT_SUCCESS) :
    (comm.receive minSize maxSize).2.2.error ≠ BOLT_SUCCESS := by
  unfold receive at h ⊢
  dsimp only at h ⊢
  split_ifs at h ⊢ with hzero hignore hrestore
  · exact absurd rfl h
  · exact tryComm_error (ignoreSigpipe_failed hignore)
  · exact tryComm_error (restoreSigpipe_failed hrestore)
  · rw [restoreSigpipe_error (not_not.mp hrestore)]
    exact receiveLoop_error _ h

/-- So has a send that fails. -/
theorem send_error {bytes : List UInt8} (h : (comm.send bytes).1 ≠ BOLT_SUCCESS) :
    (comm.send bytes).2.error ≠ BOLT_SUCCESS := by
  unfold send at h ⊢
  dsimp only at h ⊢
  split_ifs at h ⊢ with hempty hignore hrestore
  · exact absurd rfl h
  · exact tryComm_error (ignoreSigpipe_failed hignore)
  · exact tryComm_error (restoreSigpipe_failed hrestore)
  · rw [restoreSigpipe_error (not_not.mp hrestore)]
    exact sendLoop_error _ h

/-- Opening a host fails with a recorded error. -/
theorem openHost_error (h : comm.openHost.1 ≠ BOLT_SUCCESS) :
    comm.openHost.2.error ≠ BOLT_SUCCESS := by
  unfold openHost at h ⊢
  dsimp only at h ⊢
  split_ifs at h ⊢ with hreport
  · exact tryComm_error (report_failed hreport)
  · exact absurd rfl h

theorem openHosts_cases (hosts : List Bool) :
    ∀ {status : Int} (comm : BoltCommunication), status ≠ BOLT_SUCCESS →
      (openHosts status hosts comm).1 = BOLT_SUCCESS ∧ true ∈ hosts ∨
      (openHosts status hosts comm).1 ≠ BOLT_SUCCESS ∧
        ((openHosts status hosts comm).2.error ≠ BOLT_SUCCESS ↔
          true ∈ hosts ∨ comm.error ≠ BOLT_SUCCESS) := by
  induction hosts with
  | nil => exact fun _ h => .inr ⟨h, by simp [openHosts]⟩
  | cons supported hosts ih =>
    intro status comm h
    cases supported with
    | false =>
      have hunsupported : BOLT_UNSUPPORTED ≠ BOLT_SUCCESS := by decide
      simp only [openHosts, Bool.false_eq_true, if_false, hunsupported, List.mem_cons,
        Bool.true_eq_false, false_or]
      exact ih comm hunsupported
    | true =>
      by_cases hopened : comm.openHost.1 = BOLT_SUCCESS
      · exact .inl ⟨by simp only [openHosts, if_true, hopened], List.mem_cons_self⟩
      · simp only [openHosts, if_true, hopened, if_false, List.mem_cons, true_or, iff_true, and_true]
        rcases ih comm.openHost.2 hopened with ⟨hsuccess, -⟩ | ⟨hfail, herror⟩
        · exact .inl hsuccess
        · exact .inr ⟨hfail, herror.mpr (.inr (openHost_error hopened))⟩

/-- Opening an address either succeeds with one of the hosts; or it fails, and
there is an error recorded exactly if there was one before, or one of the hosts
could be tried. -/
theorem openAddress_cases (comm : BoltCommunication) (hosts : List Bool) :
    (comm.openAddress hosts).1 = BOLT_SUCCESS ∧ true ∈ hosts ∨
    (comm.openAddress hosts).1 ≠ BOLT_SUCCESS ∧
      ((comm.openAddress hosts).2.error ≠ BOLT_SUCCESS ↔
        true ∈ hosts ∨ comm.error ≠ BOLT_SUCCESS) := by
  rcases hosts with _ | ⟨supported, hosts⟩
  · exact .inr ⟨(by decide : BOLT_ADDRESS_NOT_RESOLVED ≠ BOLT_SUCCESS), by simp [openAddress]⟩
  · have hcases := openHosts_cases (supported :: hosts) comm (by decide : (1 : Int) ≠ BOLT_SUCCESS)
    have hstatus : openHosts 1 (supported :: hosts) comm =
        openHosts BOLT_SUCCESS (supported :: hosts) comm := rfl
    rw [hstatus] at hcases
    simpa only [openAddress, List.cons_ne_nil, reduceCtorEq, if_false] using hcases

end BoltCommunication

/-! ## The record of the error callback -/

/-- The error callback is called only if there is one, and what it has been
called with stays recorded. -/
structure Recorded (connection connection' : BoltConnection) : Prop where
  on_error_cb : connection'.on_error_cb = connection.on_error_cb
  grows : connection.on_error_calls <+: connection'.on_error_calls
  quiet : connection.on_error_cb = false →
    connection'.on_error_calls = connection.on_error_calls

namespace Recorded

theorem of_same {connection connection' : BoltConnection}
    (hcallback : connection'.on_error_cb = connection.on_error_cb)
    (hcalls : connection'.on_error_calls = connection.on_error_calls) :
    Recorded connection connection' :=
  ⟨hcallback, by rw [hcalls], fun _ => hcalls⟩

theorem refl (connection : BoltConnection) : Recorded connection connection := of_same rfl rfl

theorem trans {c1 c2 c3 : BoltConnection} (h : Recorded c1 c2) (h' : Recorded c2 c3) :
    Recorded c1 c3 where
  on_error_cb := h'.on_error_cb.trans h.on_error_cb
  grows := h.grows.trans h'.grows
  quiet := by
    intro hnone
    rw [h'.quiet (h.on_error_cb.trans hnone), h.quiet hnone]

theorem setStatus (connection : BoltConnection) (state : BoltConnectionState) (error : Int) :
    Recorded connection (connection.setStatus state error) := by
  rw [BoltConnection.setStatus_eq]
  refine ⟨rfl, ?_, ?_⟩
  · show connection.on_error_calls <+: connection.callsAfter _
    unfold BoltConnection.callsAfter
    split_ifs
    · exact List.prefix_append _ _
    · exact List.prefix_rfl
  · intro hnone
    show connection.callsAfter _ = connection.on_error_calls
    simp [BoltConnection.callsAfter, hnone]

end Recorded

/-! ## Receiving and fetching -/

/-- Receiving changes the transport, the receive buffer and the garbage, and
sets no status but `DEFUNCT`, with an error. -/
structure Steady (connection connection' : BoltConnection) : Prop where
  same : connection' = { connection with
    comm := connection'.comm
    rx_buffer := connection'.rx_buffer
    status := connection'.status
    on_error_calls := connection'.on_error_calls
    garbage := connection'.garbage }
  status : connection'.status = connection.status ∨
    connection'.status.state = .defunct ∧ connection'.status.error ≠ BOLT_SUCCESS

/-- Fetching changes what is received and decoded, and nothing of what is to be
sent. -/
structure Session.Steady (session session' : Session) : Prop where
  connection : Seabolt.Steady session.1 session'.1
  state : session'.2 = { session.2 with
    toSummaryData := session'.2.toSummaryData
    rx_buffer := session'.2.rx_buffer
    response_counter := session'.2.response_counter
    record_counter := session'.2.record_counter
    data_type := session'.2.data_type
    data := session'.2.data }

theorem Steady.refl (connection : BoltConnection) : Steady connection connection :=
  ⟨rfl, .inl rfl⟩

theorem Steady.trans {c1 c2 c3 : BoltConnection} (h : Steady c1 c2) (h' : Steady c2 c3) :
    Steady c1 c3 := by
  refine ⟨?_, ?_⟩
  · rw [h'.same, h.same]
  · rcases h'.status with hsame | hdefunct
    · rw [hsame]
      exact h.status
    · exact .inr hdefunct

theorem Session.Steady.trans {s1 s2 s3 : Session} (h : s1.Steady s2) (h' : s2.Steady s3) :
    s1.Steady s3 := by
  refine ⟨h.connection.trans h'.connection, ?_⟩
  rw [h'.state, h.state]

/-- Recording the error of the transport. -/
theorem steady_setStatusFromComm {connection connection' : BoltConnection}
    (h : Steady connection connection') (herror : connection'.comm.error ≠ BOLT_SUCCESS) :
    Steady connection (connection'.setStatusFromComm .defunct) := by
  rw [BoltConnection.setStatusFromComm, BoltConnection.setStatus_eq]
  refine ⟨?_, .inr ⟨rfl, herror⟩⟩
  rw [h.same]

namespace BoltConnection

theorem receiveLoop_steady (rounds : Nat) :
    ∀ (delta : Nat) (connection : BoltConnection),
      Steady connection (receiveLoop rounds delta connection).2 := by
  induction rounds with
  | zero => exact fun _ connection => .refl connection
  | succ rounds ih =>
    intro delta connection
    unfold receiveLoop
    dsimp only
    split_ifs with hdelta hstatus
    · exact steady_setStatusFromComm ⟨rfl, .inl rfl⟩ (BoltCommunication.receive_error hstatus)
    · refine Steady.trans ?_ (ih _ _)
      exact ⟨rfl, .inl rfl⟩
    · exact .refl connection

theorem receive_steady (connection : BoltConnection) (size : Nat) :
    Steady connection (connection.receive size).2.2 := by
  have hloop := receiveLoop_steady (size - connection.rx_buffer.unloadable)
    (size - connection.rx_buffer.unloadable) connection
  unfold receive
  dsimp only
  split_ifs with hzero hstatus
  · exact .refl connection
  · split
    · exact hloop.trans ⟨rfl, .inl rfl⟩
    · exact hloop
  · exact hloop

end BoltConnection

namespace Session

theorem Steady.refl (session : Session) : session.Steady session := ⟨.refl _, rfl⟩

end Session

variable {session session' : Session}

theorem readChunks_steady (fuel : Nat) :
    ∀ {chunk_size : Nat} {session session' : Session} {status : Int},
      readChunks fuel chunk_size session = some (status, session') → session.Steady session' := by
  induction fuel with
  | zero =>
    intro chunk_size session session' status h
    cases h
  | succ fuel ih =>
    intro chunk_size session session' status h
    obtain ⟨connection, state⟩ := session
    have hchunk := connection.receive_steady chunk_size
    have hheader := (connection.receive chunk_size).2.2.receive_steady 2
    unfold readChunks at h
    dsimp only at h
    split_ifs at h with hmore hreceive hreceive'
    · obtain ⟨-, rfl⟩ := Prod.mk.inj (Option.some.inj h)
      exact ⟨hchunk, rfl⟩
    · obtain ⟨-, rfl⟩ := Prod.mk.inj (Option.some.inj h)
      exact ⟨hchunk.trans hheader, rfl⟩
    · refine Session.Steady.trans ?_ (ih h)
      exact ⟨hchunk.trans hheader, rfl⟩
    · obtain ⟨-, rfl⟩ := Prod.mk.inj (Option.some.inj h)
      exact .refl _

theorem reassemble_steady {status : Int} (h : reassemble session = some (status, session')) :
    session.Steady session' := by
  obtain ⟨connection, state⟩ := session
  have hheader := connection.receive_steady 2
  unfold reassemble at h
  dsimp only at h
  split_ifs at h with hreceive
  · obtain ⟨-, rfl⟩ := Prod.mk.inj (Option.some.inj h)
    exact ⟨hheader, rfl⟩
  · refine Session.Steady.trans ?_ (readChunks_steady _ h)
    exact ⟨hheader, rfl⟩

/-- Decoding a message changes what is decoded only. -/
theorem unloadMessage_same {check : CheckStructSignature} {state state' : BoltProtocolState}
    {garbage garbage' : List UInt8} {status : Int}
    (h : unloadMessage check state garbage = some (status, state', garbage')) :
    state' = { state with
      rx_buffer := state'.rx_buffer
      record_counter := state'.record_counter
      data_type := state'.data_type
      data := state'.data } := by
  unfold unloadMessage at h
  split_ifs at h with hempty
  · obtain ⟨-, rfl, -⟩ := Prod.mk.inj (Option.some.inj h) |>.imp id Prod.mk.inj
    rfl
  · split at h
    · obtain ⟨-, rfl, -⟩ := Prod.mk.inj (Option.some.inj h) |>.imp id Prod.mk.inj
      rfl
    · dsimp only at h
      split_ifs at h
      · obtain ⟨-, rfl, -⟩ := Prod.mk.inj (Option.some.inj h) |>.imp id Prod.mk.inj
        rfl
      · split at h
        · obtain ⟨-, rfl, -⟩ := Prod.mk.inj (Option.some.inj h) |>.imp id Prod.mk.inj
          rfl
        · obtain ⟨⟨status', d, elements⟩, -, hresult⟩ := Option.map_eq_some_iff.mp h
          dsimp only at hresult
          split_ifs at hresult
          · obtain ⟨-, rfl, -⟩ := Prod.mk.inj hresult |>.imp id Prod.mk.inj
            rw [countRecord_eq]
          · obtain ⟨-, rfl, -⟩ := Prod.mk.inj hresult |>.imp id Prod.mk.inj
            rfl

theorem fetchRound_steady {functions : FetchFunctions} (hunload : functions.unload = unloadMessage)
    {check : CheckStructSignature} {request_id : Nat} {round : Round}
    (h : fetchRound functions check request_id session = some round) :
    session.Steady round.outcome.2 := by
  rcases hread : reassemble session with _ | ⟨status, session1⟩
  · simp only [fetchRound, hread] at h
    cases h
  · have hsteady := reassemble_steady hread
    obtain ⟨connection, state⟩ := session1
    simp only [fetchRound, hread, hunload] at h
    split_ifs at h with hstatus
    · obtain rfl := Option.some.inj h
      exact hsteady
    · split at h
      · cases h
      · rename_i decoded state' garbage' hdecode
        have hdecoded := unloadMessage_same hdecode
        have hstep : Session.Steady (connection, state)
            ({ connection with garbage := garbage' }, state') := by
          refine ⟨⟨rfl, .inl rfl⟩, ?_⟩
          rw [hdecoded]
        split_ifs at h
        · obtain rfl := Option.some.inj h
          exact hsteady.trans hstep
        · obtain ⟨hconnection, hstate⟩ := readSummary_same (finishRound_outcome h)
          refine hsteady.trans (hstep.trans ⟨⟨?_, .inl ?_⟩, ?_⟩)
          · rw [hconnection]
          · rw [hconnection]
          · rw [hstate]

theorem fetchLoop_steady {functions : FetchFunctions} (hunload : functions.unload = unloadMessage)
    {check : CheckStructSignature} {request_id : Nat} (fuel : Nat) :
    ∀ {session session' : Session} {fetched : Int},
      fetchLoop functions check request_id fuel session = some (fetched, session') →
      session.Steady session' := by
  induction fuel with
  | zero =>
    intro session session' fetched h
    cases h
  | succ fuel ih =>
    intro session session' fetched h
    rcases hround : fetchRound functions check request_id session with
      _ | ⟨session1⟩ | ⟨fetched1, session1⟩
    · simp only [fetchLoop, hround] at h
      cases h
    · simp only [fetchLoop, hround] at h
      exact (fetchRound_steady hunload hround).trans (ih h)
    · simp only [fetchLoop, hround, Option.some.injEq, Prod.mk.injEq] at h
      obtain ⟨-, rfl⟩ := h
      exact fetchRound_steady hunload hround

theorem ProtocolVersion.fetch_steady {version : ProtocolVersion} {request : Nat} {fetched : Int}
    (h : version.fetch session request = some (fetched, session')) : session.Steady session' := by
  rw [version.fetch_eq] at h
  exact fetchLoop_steady version.unload_eq _ h

/-! ## Callbacks while fetching -/

namespace BoltConnection

theorem receiveLoop_recorded (rounds : Nat) :
    ∀ (delta : Nat) (connection : BoltConnection),
      Recorded connection (receiveLoop rounds delta connection).2 := by
  induction rounds with
  | zero => exact fun _ connection => .refl connection
  | succ rounds ih =>
    intro delta connection
    unfold receiveLoop
    dsimp only
    split_ifs
    · refine Recorded.trans ?_ (Recorded.setStatus _ _ _)
      exact .of_same rfl rfl
    · refine Recorded.trans ?_ (ih _ _)
      exact .of_same rfl rfl
    · exact .refl connection

theorem receive_recorded (connection : BoltConnection) (size : Nat) :
    Recorded connection (connection.receive size).2.2 := by
  have hloop := receiveLoop_recorded (size - connection.rx_buffer.unloadable)
    (size - connection.rx_buffer.unloadable) connection
  unfold receive
  dsimp only
  split_ifs
  · exact .refl connection
  · split
    · exact hloop.trans (.of_same rfl rfl)
    · exact hloop
  · exact hloop

end BoltConnection

theorem readChunks_recorded (fuel : Nat) :
    ∀ {chunk_size : Nat} {session session' : Session} {status : Int},
      readChunks fuel chunk_size session = some (status, session') →
      Recorded session.1 session'.1 := by
  induction fuel with
  | zero =>
    intro chunk_size session session' status h
    cases h
  | succ fuel ih =>
    intro chunk_size session session' status h
    obtain ⟨connection, state⟩ := session
    have hchunk := connection.receive_recorded chunk_size
    have hheader := (connection.receive chunk_size).2.2.receive_recorded 2
    unfold readChunks at h
    dsimp only at h
    split_ifs at h
    · obtain ⟨-, rfl⟩ := Prod.mk.inj (Option.some.inj h)
      exact hchunk
    · obtain ⟨-, rfl⟩ := Prod.mk.inj (Option.some.inj h)
      exact hchunk.trans hheader
    · exact (hchunk.trans hheader).trans (ih h)
    · obtain ⟨-, rfl⟩ := Prod.mk.inj (Option.some.inj h)
      exact .refl _

theorem reassemble_recorded {status : Int} (h : reassemble session = some (status, session')) :
    Recorded session.1 session'.1 := by
  obtain ⟨connection, state⟩ := session
  have hheader := connection.receive_recorded 2
  unfold reassemble at h
  dsimp only at h
  split_ifs at h
  · obtain ⟨-, rfl⟩ := Prod.mk.inj (Option.some.inj h)
    exact hheader
  · exact hheader.trans (readChunks_recorded _ h)

theorem fetchRound_recorded {functions : FetchFunctions} {check : CheckStructSignature}
    {request_id : Nat} {round : Round}
    (h : fetchRound functions check request_id session = some round) :
    Recorded session.1 round.outcome.2.1 := by
  rcases hread : reassemble session with _ | ⟨status, session1⟩
  · simp only [fetchRound, hread] at h
    cases h
  · have hrecorded := reassemble_recorded hread
    obtain ⟨connection, state⟩ := session1
    simp only [fetchRound, hread] at h
    split_ifs at h
    · obtain rfl := Option.some.inj h
      exact hrecorded
    · split at h
      · cases h
      · split_ifs at h
        · obtain rfl := Option.some.inj h
          exact hrecorded.trans (.of_same rfl rfl)
        · obtain ⟨hconnection, -⟩ := readSummary_same (finishRound_outcome h)
          refine hrecorded.trans (.of_same ?_ ?_)
          · rw [hconnection]
          · rw [hconnection]

theorem fetchLoop_recorded {functions : FetchFunctions} {check : CheckStructSignature}
    {request_id : Nat} (fuel : Nat) :
    ∀ {session session' : Session} {fetched : Int},
      fetchLoop functions check request_id fuel session = some (fetched, session') →
      Recorded session.1 session'.1 := by
  induction fuel with
  | zero =>
    intro session session' fetched h
    cases h
  | succ fuel ih =>
    intro session session' fetched h
    rcases hround : fetchRound functions check request_id session with
      _ | ⟨session1⟩ | ⟨fetched1, session1⟩
    · simp only [fetchLoop, hround] at h
      cases h
    · simp only [fetchLoop, hround] at h
      exact (fetchRound_recorded hround).trans (ih h)
    · simp only [fetchLoop, hround, Option.some.injEq, Prod.mk.injEq] at h
      obtain ⟨-, rfl⟩ := h
      exact fetchRound_recorded hround

theorem ProtocolVersion.fetch_recorded {version : ProtocolVersion} {request : Nat} {fetched : Int}
    (h : version.fetch session request = some (fetched, session')) :
    Recorded session.1 session'.1 := by
  rw [version.fetch_eq] at h
  exact fetchLoop_recorded _ h

/-! ## Fetching without a callback -/

/-- No status has been set, and no callback called. -/
structure Quiet (connection connection' : BoltConnection) : Prop where
  status : connection'.status = connection.status
  calls : connection'.on_error_calls = connection.on_error_calls

namespace Quiet

theorem refl (connection : BoltConnection) : Quiet connection connection := ⟨rfl, rfl⟩

theorem trans {c1 c2 c3 : BoltConnection} (h : Quiet c1 c2) (h' : Quiet c2 c3) : Quiet c1 c3 :=
  ⟨h'.status.trans h.status, h'.calls.trans h.calls⟩

end Quiet

namespace BoltConnection

theorem receiveLoop_quiet (rounds : Nat) :
    ∀ {delta : Nat} {connection : BoltConnection},
      (receiveLoop rounds delta connection).1 = BOLT_SUCCESS →
      Quiet connection (receiveLoop rounds delta connection).2 := by
  have hset : BOLT_STATUS_SET ≠ BOLT_SUCCESS := by decide
  induction rounds with
  | zero => exact fun _ => .refl _
  | succ rounds ih =>
    intro delta connection h
    unfold receiveLoop at h ⊢
    dsimp only at h ⊢
    split_ifs at h ⊢
    · exact absurd h hset
    · refine Quiet.trans ?_ (ih h)
      exact ⟨rfl, rfl⟩
    · exact .refl _

theorem receive_quiet {connection : BoltConnection} {size : Nat}
    (h : (connection.receive size).1 = BOLT_SUCCESS) :
    Quiet connection (connection.receive size).2.2 := by
  unfold receive at h ⊢
  dsimp only at h ⊢
  split_ifs at h ⊢ with hzero hstatus
  · exact .refl _
  · have hloop := receiveLoop_quiet _ hstatus
    split
    · exact hloop.trans ⟨rfl, rfl⟩
    · exact hloop
  · exact absurd h hstatus

end BoltConnection

theorem readChunks_quiet (fuel : Nat) :
    ∀ {chunk_size : Nat} {session session' : Session} {status : Int},
      readChunks fuel chunk_size session = some (status, session') →
      status = FETCH_ERROR ∨ status = BOLT_SUCCESS ∧ Quiet session.1 session'.1 := by
  induction fuel with
  | zero =>
    intro chunk_size session session' status h
    cases h
  | succ fuel ih =>
    intro chunk_size session session' status h
    obtain ⟨connection, state⟩ := session
    unfold readChunks at h
    dsimp only at h
    split_ifs at h with hmore hchunk hheader
    · exact .inl (Prod.mk.inj (Option.some.inj h)).1.symm
    · exact .inl (Prod.mk.inj (Option.some.inj h)).1.symm
    · have hreceived := (BoltConnection.receive_quiet (not_not.mp hchunk)).trans
        (BoltConnection.receive_quiet (not_not.mp hheader))
      rcases ih h with herror | ⟨hsuccess, hquiet⟩
      · exact .inl herror
      · exact .inr ⟨hsuccess, hreceived.trans hquiet⟩
    · obtain ⟨rfl, rfl⟩ := Prod.mk.inj (Option.some.inj h)
      exact .inr ⟨rfl, .refl _⟩

theorem reassemble_quiet {session session' : Session} {status : Int}
    (h : reassemble session = some (status, session')) :
    status = FETCH_ERROR ∨ status = BOLT_SUCCESS ∧ Quiet session.1 session'.1 := by
  obtain ⟨connection, state⟩ := session
  unfold reassemble at h
  dsimp only at h
  split_ifs at h with hheader
  · exact .inl (Prod.mk.inj (Option.some.inj h)).1.symm
  · have hreceived := BoltConnection.receive_quiet (not_not.mp hheader)
    rcases readChunks_quiet _ h with herror | ⟨hsuccess, hquiet⟩
    · exact .inl herror
    · exact .inr ⟨hsuccess, hreceived.trans hquiet⟩

/-- Only a round that ends with an error sets a status. -/
theorem fetchRound_quiet {functions : FetchFunctions} {check : CheckStructSignature}
    {request_id : Nat} {session : Session} {round : Round}
    (h : fetchRound functions check request_id session = some round) :
    round.outcome.1 = some FETCH_ERROR ∨ Quiet session.1 round.outcome.2.1 := by
  rcases hread : reassemble session with _ | ⟨status, session1⟩
  · simp only [fetchRound, hread] at h
    cases h
  · obtain ⟨connection, state⟩ := session1
    simp only [fetchRound, hread] at h
    rcases reassemble_quiet hread with rfl | ⟨rfl, hquiet⟩
    · rw [if_pos (by decide)] at h
      obtain rfl := Option.some.inj h
      exact .inl rfl
    · right
      rw [if_neg (not_not.mpr rfl)] at h
      split at h
      · cases h
      · split_ifs at h
        · obtain rfl := Option.some.inj h
          exact hquiet.trans ⟨rfl, rfl⟩
        · obtain ⟨hconnection, -⟩ := readSummary_same (finishRound_outcome h)
          refine hquiet.trans ⟨?_, ?_⟩
          · rw [hconnection]
          · rw [hconnection]

theorem fetchLoop_quiet {functions : FetchFunctions} {check : CheckStructSignature}
    {request_id : Nat} (fuel : Nat) :
    ∀ {session session' : Session} {fetched : Int},
      fetchLoop functions check request_id fuel session = some (fetched, session') →
      fetched = FETCH_ERROR ∨ Quiet session.1 session'.1 := by
  induction fuel with
  | zero =>
    intro session session' fetched h
    cases h
  | succ fuel ih =>
    intro session session' fetched h
    rcases hround : fetchRound functions check request_id session with
      _ | ⟨session1⟩ | ⟨fetched1, session1⟩
    · simp only [fetchLoop, hround] at h
      cases h
    · simp only [fetchLoop, hround] at h
      rcases fetchRound_quiet hround with herror | hquiet
      · cases herror
      · rcases ih h with herror | hrest
        · exact .inl herror
        · exact .inr (hquiet.trans hrest)
    · simp only [fetchLoop, hround, Option.some.injEq, Prod.mk.injEq] at h
      obtain ⟨rfl, rfl⟩ := h
      rcases fetchRound_quiet hround with herror | hquiet
      · exact .inl (Option.some.inj herror)
      · exact .inr hquiet

theorem ProtocolVersion.fetch_quiet {version : ProtocolVersion} {session session' : Session}
    {request : Nat} {fetched : Int}
    (h : version.fetch session request = some (fetched, session')) :
    fetched = FETCH_ERROR ∨ Quiet session.1 session'.1 := by
  rw [version.fetch_eq] at h
  exact fetchLoop_quiet _ h

/-! ## What fetching takes from the stream -/

section Taken

variable {connection : BoltConnection} {state : BoltProtocolState}

/-- A receive keeps the buffer intact, and takes what it returns. -/
theorem BoltConnection.receive_takes (h : connection.rx_buffer.Wf) (size : Nat) :
    (connection.receive size).2.2.rx_buffer.Wf ∧
    ((connection.receive size).1 = BOLT_SUCCESS →
      (connection.receive size).2.2.pending.length + size = connection.pending.length) := by
  rcases BoltConnection.receive_spec h size with
    ⟨bytes, connection', hreceive, hlength, -, hwf, hpending, -⟩ |
      ⟨connection', hreceive, -, hwf, -⟩
  · rw [hreceive, hpending, List.length_append, hlength]
    exact ⟨hwf, fun _ => Nat.add_comm _ _⟩
  · rw [hreceive]
    refine ⟨?_, fun hsuccess => absurd hsuccess (by decide : BOLT_STATUS_SET ≠ BOLT_SUCCESS)⟩
    show (connection'.setStatusFromComm .defunct).rx_buffer.Wf
    rwa [BoltConnection.setStatusFromComm, BoltConnection.setStatus_rx_buffer]

/-- With more fuel than there are bytes, the chunks of a message are read to
their end, or the transport fails. -/
theorem readChunks_takes (fuel : Nat) :
    ∀ {size : Nat} {connection : BoltConnection} {state : BoltProtocolState},
      connection.rx_buffer.Wf → connection.pending.length < fuel →
      ∃ status session', readChunks fuel size (connection, state) = some (status, session') ∧
        session'.1.rx_buffer.Wf ∧
        (status = FETCH_ERROR ∨
          status = BOLT_SUCCESS ∧ session'.1.pending.length ≤ connection.pending.length) := by
  induction fuel with
  | zero => exact fun _ hfuel => absurd hfuel (Nat.not_lt_zero _)
  | succ fuel ih =>
    intro size connection state hwf hfuel
    obtain ⟨hwf1, htakes1⟩ := connection.receive_takes hwf size
    obtain ⟨hwf2, htakes2⟩ := (connection.receive size).2.2.receive_takes hwf1 2
    unfold readChunks
    dsimp only
    split_ifs with hsize hchunk hheader
    · exact ⟨_, _, rfl, hwf1, .inl rfl⟩
    · exact ⟨_, _, rfl, hwf2, .inl rfl⟩
    · have hchunk := htakes1 (not_not.mp hchunk)
      have hheader := htakes2 (not_not.mp hheader)
      obtain ⟨status, session', hread, hwf', hcase⟩ := ih hwf2 (by omega)
      refine ⟨status, session', hread, hwf', ?_⟩
      rcases hcase with hfailed | ⟨hsuccess, hle⟩
      · exact .inl hfailed
      · exact .inr ⟨hsuccess, by omega⟩
    · exact ⟨_, _, rfl, hwf, .inr ⟨rfl, le_rfl⟩⟩

/-- A message takes at least one byte of the stream. -/
theorem reassemble_takes (state : BoltProtocolState) (h : connection.rx_buffer.Wf) :
    ∃ status session', reassemble (connection, state) = some (status, session') ∧
      session'.1.rx_buffer.Wf ∧
      (status = FETCH_ERROR ∨
        status = BOLT_SUCCESS ∧ session'.1.pending.length < connection.pending.length) := by
  obtain ⟨hwf, htakes⟩ := connection.receive_takes h 2
  unfold reassemble
  dsimp only
  split_ifs with hheader
  · exact ⟨_, _, rfl, hwf, .inl rfl⟩
  · have hheader := htakes (not_not.mp hheader)
    obtain ⟨status, session', hread, hwf', hcase⟩ := readChunks_takes _ hwf (Nat.lt_succ_self _)
    refine ⟨status, session', hread, hwf', ?_⟩
    rcases hcase with hfailed | ⟨hsuccess, hle⟩
    · exact .inl hfailed
    · exact .inr ⟨hsuccess, by omega⟩

/-- So does every round that does not fail. -/
theorem fetchRound_takes {functions : FetchFunctions} {check : CheckStructSignature}
    {request_id : Nat} {round : Round} (h : session.1.rx_buffer.Wf)
    (hround : fetchRound functions check request_id session = some round) :
    round.outcome.2.1.rx_buffer.Wf ∧
    (round.outcome.1 = some FETCH_ERROR ∨
      round.outcome.2.1.pending.length < session.1.pending.length) := by
  obtain ⟨connection, state⟩ := session
  obtain ⟨status, ⟨connection1, state1⟩, hread, hwf, hcase⟩ := reassemble_takes state h
  simp only [fetchRound, hread] at hround
  rcases hcase with hfailed | ⟨hsuccess, hlt⟩
  · have hne : FETCH_ERROR ≠ BOLT_SUCCESS := by decide
    simp only [hfailed, hne, ne_eq, not_false_eq_true, if_true] at hround
    obtain rfl := Option.some.inj hround
    exact ⟨hwf, .inl rfl⟩
  · simp only [hsuccess, ne_eq, not_true_eq_false, if_false] at hround
    split at hround
    · cases hround
    · split_ifs at hround
      · obtain ⟨hconnection, -⟩ := readSummary_same (finishRound_outcome hround)
        rw [hconnection]
        exact ⟨hwf, .inr hlt⟩
      · obtain rfl := Option.some.inj hround
        exact ⟨hwf, .inr hlt⟩

/-- A call that does not fail takes at least one byte. -/
theorem fetchLoop_takes {functions : FetchFunctions} {check : CheckStructSignature}
    {request_id : Nat} (fuel : Nat) :
    ∀ {session session' : Session} {fetched : Int}, session.1.rx_buffer.Wf →
      fetchLoop functions check request_id fuel session = some (fetched, session') →
      session'.1.rx_buffer.Wf ∧
      (fetched = FETCH_ERROR ∨ session'.1.pending.length < session.1.pending.length) := by
  induction fuel with
  | zero =>
    intro session session' fetched _ h
    cases h
  | succ fuel ih =>
    intro session session' fetched hwf h
    rcases hround : fetchRound functions check request_id session with
      _ | ⟨session1⟩ | ⟨fetched1, session1⟩
    · simp only [fetchLoop, hround] at h
      cases h
    · simp only [fetchLoop, hround] at h
      obtain ⟨hwf1, hfailed | hlt⟩ := fetchRound_takes hwf hround
      · cases hfailed
      · obtain ⟨hwf', hcase⟩ := ih hwf1 h
        exact ⟨hwf', hcase.imp id hlt.trans'⟩
    · simp only [fetchLoop, hround, Option.some.injEq, Prod.mk.injEq] at h
      obtain ⟨rfl, rfl⟩ := h
      obtain ⟨hwf1, hcase⟩ := fetchRound_takes hwf hround
      exact ⟨hwf1, hcase.imp Option.some.inj id⟩

/-- The loop has enough fuel: it has no result only if one of its rounds has
none. -/
theorem fetchLoop_isSome {version : ProtocolVersion} {request_id : Nat} (fuel : Nat) :
    ∀ {session : Session}, session.1.rx_buffer.Wf → session.1.pending.length < fuel →
      (∀ n session', Runs.run version.roundStep (List.replicate n request_id) session =
          some (List.replicate n none, session') →
        (fetchRound version.fetchFunctions version.checkReadableStruct request_id
          session').isSome) →
      (fetchLoop version.fetchFunctions version.checkReadableStruct request_id fuel
        session).isSome := by
  induction fuel with
  | zero => exact fun _ hfuel => absurd hfuel (Nat.not_lt_zero _)
  | succ fuel ih =>
    intro session hwf hfuel hrounds
    obtain ⟨round, hround⟩ := Option.isSome_iff_exists.mp (hrounds 0 session rfl)
    cases round with
    | done fetched session1 => simp only [fetchLoop, hround, Option.isSome_some]
    | again session1 =>
      obtain ⟨hwf1, hfailed | hlt⟩ := fetchRound_takes hwf hround
      · cases hfailed
      · have hlt : session1.1.pending.length < session.1.pending.length := hlt
        simp only [fetchLoop, hround]
        refine ih hwf1 (by omega) fun n session' hrun => hrounds (n + 1) session' ?_
        have hstep : version.roundStep request_id session = some (none, session1) := by
          rw [ProtocolVersion.roundStep, hround]
          rfl
        exact Runs.run_cons hstep hrun

end Taken

end Seabolt
