import Seabolt.Recycling

/-!
# The outbound stream

What the peer gets of the messages that a connection loads.  The transport
accepts the bytes of a send in pieces, or fails behind some of them, and
messages are loaded between the sends.

`Delivered` ties what the transport has accepted to all messages loaded so far.
It holds in every state of every run of request and send calls up to the first
send that fails.
-/

namespace Seabolt

open PackStream Chunking

/-! ## The transport -/

namespace BoltCommunication

/-- The transport has accepted bytes from the front of those it was offered,
and received nothing. -/
structure Sends (comm : BoltCommunication) (bytes sent : List UInt8) (comm' : BoltCommunication) :
    Prop where
  outgoing : comm'.outgoing = comm.outgoing ++ sent
  front : sent <+: bytes
  incoming : comm'.incoming = comm.incoming

variable {comm comm' comm'' : BoltCommunication} {bytes rest sent sent' : List UInt8}

theorem Sends.nothing (bytes : List UInt8) (hout : comm'.outgoing = comm.outgoing)
    (hin : comm'.incoming = comm.incoming) : Sends comm bytes [] comm' :=
  ⟨by rw [hout, List.append_nil], List.nil_prefix, hin⟩

/-- Recording an error sends nothing. -/
theorem Sends.failWith (h : Sends comm bytes sent comm') (failure : Failure) :
    Sends comm bytes sent (comm'.failWith failure).2 := by
  cases failure <;> exact ⟨h.outgoing, h.front, h.incoming⟩

theorem Sends.report (h : Sends comm bytes sent comm') (failure : Option Failure) :
    Sends comm bytes sent (comm'.report failure).2 := by
  cases failure with
  | none => exact h
  | some failure => exact h.failWith failure

theorem Sends.tryComm (h : Sends comm bytes sent comm') (status : Int) :
    Sends comm bytes sent (BoltCommunication.tryComm status comm').2 := by
  unfold BoltCommunication.tryComm
  split_ifs <;> exact ⟨h.outgoing, h.front, h.incoming⟩

theorem Sends.transferFailed (h : Sends comm bytes sent comm') (status : Int) :
    Sends comm bytes sent (BoltCommunication.transferFailed status comm').2 := by
  unfold BoltCommunication.transferFailed
  split_ifs <;> exact ⟨h.outgoing, h.front, h.incoming⟩

/-- A call of `comm->send` accepts at least one byte, or it fails and accepts
none. -/
theorem send1_sends (comm : BoltCommunication) (bytes : List UInt8) :
    ∃ sent, Sends comm bytes sent (comm.send1 bytes).2.2 ∧ sent = bytes.take (comm.send1 bytes).2.1 ∧
      ((comm.send1 bytes).1 = BOLT_SUCCESS ∧ 0 < (comm.send1 bytes).2.1 ∨
        (comm.send1 bytes).1 ≠ BOLT_SUCCESS ∧ sent = []) := by
  unfold send1
  split
  · exact ⟨_, ⟨rfl, List.take_prefix _ _, rfl⟩, rfl, .inl ⟨rfl, by simp⟩⟩
  · exact ⟨_, ⟨rfl, List.take_prefix _ _, rfl⟩, rfl, .inl ⟨rfl, by simp⟩⟩
  · rename_i failure script hscript
    have hsends : Sends comm bytes [] { comm with sendScript := script } := .nothing bytes rfl rfl
    exact ⟨[], hsends.failWith failure, by simp, .inr ⟨failWith_ne_success _ _, rfl⟩⟩

/-- What the send loop accepts: everything when it succeeds. -/
theorem sendLoop_sends (rounds : Nat) : ∀ {bytes : List UInt8} {comm : BoltCommunication},
    bytes.length ≤ rounds → ∃ sent, Sends comm bytes sent (sendLoop rounds bytes comm).2 ∧
      ((sendLoop rounds bytes comm).1 = BOLT_SUCCESS → sent = bytes) := by
  induction rounds with
  | zero =>
    intro bytes comm hrounds
    obtain rfl := List.eq_nil_of_length_eq_zero (Nat.le_zero.mp hrounds)
    exact ⟨[], .nothing [] rfl rfl, fun _ => rfl⟩
  | succ rounds ih =>
    intro bytes comm hrounds
    by_cases hbytes : bytes = []
    · simp only [sendLoop, hbytes, if_true]
      exact ⟨[], .nothing [] rfl rfl, fun _ => rfl⟩
    obtain ⟨sent, hsends, hsent, hcase⟩ := send1_sends comm bytes
    rcases hsend : comm.send1 bytes with ⟨status, count, comm1⟩
    rw [hsend] at hsends hsent hcase
    dsimp only at hsends hsent hcase
    rcases hcase with ⟨rfl, hcount⟩ | ⟨hstatus, rfl⟩
    · have hdrop : (bytes.drop count).length ≤ rounds := by
        rw [List.length_drop]
        omega
      obtain ⟨sent', hsends', hall⟩ := @ih (bytes.drop count) comm1 hdrop
      simp only [sendLoop, hbytes, if_false, hsend, if_true]
      refine ⟨sent ++ sent', ⟨?_, ?_, hsends'.incoming.trans hsends.incoming⟩, fun hsuccess => ?_⟩
      · rw [hsends'.outgoing, hsends.outgoing, List.append_assoc]
      · obtain ⟨rest, hrest⟩ := hsends'.front
        refine ⟨rest, ?_⟩
        rw [hsent, List.append_assoc, hrest, List.take_append_drop]
      · rw [hall hsuccess, hsent, List.take_append_drop]
    · simp only [sendLoop, hbytes, if_false, hsend, hstatus]
      exact ⟨[], hsends.transferFailed status, fun h => absurd h (transferFailed_ne_success _ _)⟩

/-- What a send accepts. -/
theorem send_sends (comm : BoltCommunication) (bytes : List UInt8) :
    ∃ sent, Sends comm bytes sent (comm.send bytes).2 ∧
      ((comm.send bytes).1 = BOLT_SUCCESS → sent = bytes) := by
  by_cases hbytes : bytes = []
  · simp only [send, hbytes, if_true]
    exact ⟨[], .nothing [] rfl rfl, fun _ => rfl⟩
  have hignore : Sends comm bytes [] comm.ignoreSigpipe.2 :=
    (Sends.nothing bytes rfl rfl :
      Sends comm bytes [] { comm with ignoreScript := comm.ignoreScript.tail }).report _
  rcases hi : comm.ignoreSigpipe with ⟨ignored, comm1⟩
  rw [hi] at hignore
  by_cases hignored : ignored = BOLT_SUCCESS
  · obtain ⟨sent, hsends, hall⟩ := @sendLoop_sends bytes.length bytes comm1 (Nat.le_refl _)
    rcases hloop : sendLoop bytes.length bytes comm1 with ⟨status, comm2⟩
    rw [hloop] at hsends hall
    have hboth : Sends comm bytes sent comm2 := by
      refine ⟨?_, hsends.front, hsends.incoming.trans hignore.incoming⟩
      rw [hsends.outgoing, hignore.outgoing, List.append_nil]
    have hrestore : Sends comm bytes sent comm2.restoreSigpipe.2 :=
      (⟨hboth.outgoing, hboth.front, hboth.incoming⟩ :
        Sends comm bytes sent { comm2 with restoreScript := comm2.restoreScript.tail }).report _
    rcases hr : comm2.restoreSigpipe with ⟨restored, comm3⟩
    rw [hr] at hrestore
    by_cases hrestored : restored = BOLT_SUCCESS
    · simp only [send, hbytes, if_false, hi, hignored, ne_eq, not_true_eq_false, hloop, hr,
        hrestored]
      exact ⟨sent, hrestore, hall⟩
    · simp only [send, hbytes, if_false, hi, hignored, ne_eq, not_true_eq_false, hloop, hr,
        hrestored, not_false_eq_true, if_true]
      exact ⟨sent, hrestore.tryComm restored, fun h => absurd h (tryComm_ne_success hrestored _)⟩
  · simp only [send, hbytes, if_false, hi, ne_eq, hignored, not_false_eq_true, if_true]
    exact ⟨[], hignore.tryComm ignored, fun h => absurd h (tryComm_ne_success hignored _)⟩

/-- Sending does not change what receiving will meet, and uses up the steps for
SIGPIPE from the front. -/
structure KeepsScripts (comm comm' : BoltCommunication) : Prop where
  recv : comm'.recvScript = comm.recvScript
  ignore : comm'.ignoreScript <:+ comm.ignoreScript
  restore : comm'.restoreScript <:+ comm.restoreScript

theorem KeepsScripts.refl (comm : BoltCommunication) : KeepsScripts comm comm :=
  ⟨rfl, List.suffix_rfl, List.suffix_rfl⟩

theorem KeepsScripts.trans (h : KeepsScripts comm comm') (h' : KeepsScripts comm' comm'') :
    KeepsScripts comm comm'' :=
  ⟨h'.recv.trans h.recv, h'.ignore.trans h.ignore, h'.restore.trans h.restore⟩

theorem KeepsScripts.reliable (h : KeepsScripts comm comm') (hreliable : comm.Reliable) :
    comm'.Reliable where
  recv := by
    rw [h.recv]
    exact hreliable.recv
  ignore failure hmem := hreliable.ignore failure (h.ignore.subset hmem)
  restore failure hmem := hreliable.restore failure (h.restore.subset hmem)

theorem keepsScripts_tryComm (status : Int) (comm : BoltCommunication) :
    KeepsScripts comm (tryComm status comm).2 := by
  unfold tryComm
  split_ifs
  · exact .refl _
  · exact ⟨rfl, List.suffix_rfl, List.suffix_rfl⟩

theorem keepsScripts_failWith (comm : BoltCommunication) (failure : Failure) :
    KeepsScripts comm (comm.failWith failure).2 := by
  cases failure with
  | code error => exact .refl _
  | statusSet error => exact ⟨rfl, List.suffix_rfl, List.suffix_rfl⟩

theorem keepsScripts_report (comm : BoltCommunication) (failure : Option Failure) :
    KeepsScripts comm (comm.report failure).2 := by
  cases failure with
  | none => exact .refl _
  | some failure => exact keepsScripts_failWith comm failure

theorem keepsScripts_sendLoop (rounds : Nat) : ∀ (bytes : List UInt8) (comm : BoltCommunication),
    KeepsScripts comm (sendLoop rounds bytes comm).2 := by
  induction rounds with
  | zero => exact fun _ comm => .refl comm
  | succ rounds ih =>
    intro bytes comm
    have hsend : KeepsScripts comm (comm.send1 bytes).2.2 := by
      unfold send1
      split
      · exact ⟨rfl, List.suffix_rfl, List.suffix_rfl⟩
      · exact ⟨rfl, List.suffix_rfl, List.suffix_rfl⟩
      · next failure script _ =>
        have hscript : KeepsScripts comm { comm with sendScript := script } :=
          ⟨rfl, List.suffix_rfl, List.suffix_rfl⟩
        exact hscript.trans (keepsScripts_failWith _ failure)
    unfold sendLoop
    dsimp only
    split_ifs
    · exact .refl _
    · exact hsend.trans (ih _ _)
    · unfold transferFailed
      split_ifs
      · exact hsend
      · exact ⟨hsend.recv, hsend.ignore, hsend.restore⟩

theorem keepsScripts_send (comm : BoltCommunication) (bytes : List UInt8) :
    KeepsScripts comm (comm.send bytes).2 := by
  have hignore : KeepsScripts comm comm.ignoreSigpipe.2 := by
    have htail : KeepsScripts comm { comm with ignoreScript := comm.ignoreScript.tail } :=
      ⟨rfl, List.tail_suffix _, List.suffix_rfl⟩
    exact htail.trans (keepsScripts_report _ _)
  have hrestore : ∀ comm : BoltCommunication, KeepsScripts comm comm.restoreSigpipe.2 := by
    intro comm
    have htail : KeepsScripts comm { comm with restoreScript := comm.restoreScript.tail } :=
      ⟨rfl, List.suffix_rfl, List.tail_suffix _⟩
    exact htail.trans (keepsScripts_report _ _)
  have hloop := hignore.trans (keepsScripts_sendLoop bytes.length bytes comm.ignoreSigpipe.2)
  unfold send
  dsimp only
  split_ifs
  · exact .refl _
  · exact hignore.trans (keepsScripts_tryComm _ _)
  · exact (hloop.trans (hrestore _)).trans (keepsScripts_tryComm _ _)
  · exact hloop.trans (hrestore _)

end BoltCommunication

/-! ## Sending -/

namespace BoltConnection

variable {connection connection' : BoltConnection} {result : Int}

/-- A send offers all that is in the transmit buffer, and leaves nothing of it
there. -/
theorem send_outgoing (h : connection.tx_buffer.Wf) :
    ∃ sent, connection.send.2.comm.outgoing = connection.comm.outgoing ++ sent ∧
      sent <+: connection.tx_buffer.content ∧
      connection.send.2.comm.incoming = connection.comm.incoming ∧
      (connection.send.1 = BOLT_SUCCESS → sent = connection.tx_buffer.content) := by
  have hbytes : (connection.tx_buffer.data.drop connection.tx_buffer.cursor).take
      connection.tx_buffer.unloadable = connection.tx_buffer.content := by
    have hread := h.take_drop_of_content (List.append_nil connection.tx_buffer.content).symm
    rwa [h.length_content] at hread
  obtain ⟨sent, hsends, hall⟩ :=
    BoltCommunication.send_sends connection.comm connection.tx_buffer.content
  refine ⟨sent, ?_, hsends.front, ?_, ?_⟩
  · rw [← hsends.outgoing]
    unfold send
    simp only [hbytes]
    split_ifs
    · rw [setStatusFromComm, setStatus_eq]
    · rfl
  · rw [← hsends.incoming]
    unfold send
    simp only [hbytes]
    split_ifs
    · rw [setStatusFromComm, setStatus_eq]
    · rfl
  · intro hsuccess
    refine hall ?_
    unfold send at hsuccess
    simp only [hbytes] at hsuccess
    split_ifs at hsuccess with hstatus
    · exact absurd hsuccess (show BOLT_STATUS_SET ≠ BOLT_SUCCESS by decide)
    · exact not_not.mp hstatus

/-- Sending keeps a reliable transport reliable. -/
theorem send_reliable (h : connection.comm.Reliable) : connection.send.2.comm.Reliable := by
  have hsent := (BoltCommunication.keepsScripts_send connection.comm ((connection.tx_buffer.data.drop
    connection.tx_buffer.cursor).take connection.tx_buffer.unloadable)).reliable h
  unfold send
  dsimp only
  split_ifs
  · rw [setStatusFromComm, setStatus_eq]
    exact hsent
  · exact hsent

end BoltConnection

/-! ## Loading -/

variable {check : CheckStructSignature} {message : BoltMessage} {session session' : Session}
  {status : Int}

/-- The bytes that the encoder writes for the message. -/
def BoltMessage.payload (check : CheckStructSignature) (message : BoltMessage) : List UInt8 :=
  match writeMessage message check (.create 0) with
  | some (_, buffer) => buffer.content
  | none => []

/-- The frame in which the message is transmitted. -/
def BoltMessage.framed (check : CheckStructSignature) (message : BoltMessage) : List UInt8 :=
  frame chunkLength (chunksOf (message.payload check))

/-- Loading a message appends its frame, or nothing. -/
theorem loadMessage_framed (h : session.TxReady)
    (hload : loadMessage check message session = some (status, session')) :
    session'.TxReady ∧
      (status = BOLT_SUCCESS → Appended [message.payload check] session session') ∧
      (status ≠ BOLT_SUCCESS → Unchanged session session') := by
  obtain ⟨connection, state⟩ := session
  obtain ⟨emission, hemits⟩ := @uniform_load check (.struct message.code message.fields)
  have hempty := hemits (.create 0) (BoltBuffer.wf_create 0)
  have hwritten := hemits state.tx_buffer h.state
  rcases emission with _ | ⟨status', bytes⟩
  · simp only [loadMessage, writeMessage_eq_load, hwritten] at hload
    cases hload
  obtain ⟨alone, halone, -, hbytes⟩ := hempty
  obtain ⟨written, hwrite, hgrows, hcontent⟩ := hwritten
  have hdrained : state.tx_buffer.content = [] := h.drained
  have hpayload : message.payload check = written.content := by
    simp only [BoltMessage.payload, writeMessage_eq_load, halone, hbytes, hcontent, hdrained,
      BoltBuffer.content_create]
  by_cases hsuccess : status' = BOLT_SUCCESS
  · obtain ⟨msg_buffer, tx_buffer, hpush, hmsg, htx, hleft, hframe⟩ :=
      pushToTransmission_spec hgrows.wf h.connection
    simp only [loadMessage, writeMessage_eq_load, hwrite, hsuccess, if_true, hpush,
      Option.map_some] at hload
    obtain ⟨rfl, rfl⟩ := Prod.mk.inj (Option.some.inj hload)
    refine ⟨⟨htx, hmsg, hleft⟩, fun _ => ⟨?_, rfl⟩, fun hne => absurd rfl hne⟩
    rw [hframe, hpayload]
    simp [frames]
  · obtain ⟨hwf, hrestored⟩ := hgrows.restore h.state
    simp only [loadMessage, writeMessage_eq_load, hwrite, hsuccess, if_false] at hload
    obtain ⟨rfl, rfl⟩ := Prod.mk.inj (Option.some.inj hload)
    exact ⟨⟨h.connection, hwf, hrestored.trans hdrained⟩, fun heq => absurd heq hsuccess,
      fun _ => ⟨hrestored, rfl, rfl⟩⟩

/-- Loading messages one after the other appends the frames of those in front
of the first that is refused. -/
theorem loadMessages_framed (messages : List BoltMessage) :
    ∀ {session session' : Session} {status : Int}, session.TxReady →
      loadMessages check messages session = some (status, session') →
      session'.TxReady ∧ ∃ n ≤ messages.length, (status = BOLT_SUCCESS → n = messages.length) ∧
        Appended ((messages.take n).map (BoltMessage.payload check)) session session' := by
  induction messages with
  | nil =>
    intro session session' status h hload
    obtain ⟨-, rfl⟩ := Prod.mk.inj (Option.some.inj hload)
    exact ⟨h, 0, Nat.le_refl 0, fun _ => rfl, .refl _⟩
  | cons message messages ih =>
    intro session session' status h hload
    rcases hfirst : loadMessage check message session with _ | ⟨loaded, session1⟩
    · simp only [loadMessages, hfirst, Outcome.TRY_none] at hload
      cases hload
    obtain ⟨hready, happended, hunchanged⟩ := loadMessage_framed h hfirst
    by_cases hsuccess : loaded = BOLT_SUCCESS
    · subst hsuccess
      simp only [loadMessages, hfirst, Outcome.TRY_success] at hload
      obtain ⟨hready', n, hn, hall, happended'⟩ := ih hready hload
      refine ⟨hready', n + 1, Nat.succ_le_succ hn, fun hs => congrArg (· + 1) (hall hs), ?_⟩
      exact (happended rfl).trans happended'
    · simp only [loadMessages, hfirst, Outcome.TRY_error hsuccess] at hload
      obtain ⟨rfl, rfl⟩ := Prod.mk.inj (Option.some.inj hload)
      refine ⟨hready, 0, Nat.zero_le _, fun hs => absurd hs hsuccess, ?_⟩
      obtain ⟨-, htransmit, hid⟩ := hunchanged hsuccess
      exact ⟨by simpa [frames] using htransmit, hid⟩

/-- A request loads messages of its own, in their order, and all of them when
it succeeds.  Nothing is sent. -/
theorem BoltConnection.request_framed {version : ProtocolVersion} {state : BoltProtocolState}
    {request : Request} {connection connection' : BoltConnection} {result : Int}
    (hprotocol : connection.protocol = some ⟨version, state⟩)
    (h : Session.TxReady (connection, state))
    (hrequest : connection.request request = some (result, connection')) :
    connection'.comm = connection.comm ∧ ∃ state', connection'.protocol = some ⟨version, state'⟩ ∧
      Session.TxReady (connection', state') ∧
      ∃ n ≤ (request.messages version connection.access_mode state).length,
        (result = BOLT_SUCCESS →
          n = (request.messages version connection.access_mode state).length) ∧
        Appended (((request.messages version connection.access_mode state).take n).map
          (BoltMessage.payload version.checkWritableStruct)) (connection, state)
          (connection', state') := by
  obtain ⟨version', state', status, session', hprotocol', hhandles, htry⟩ :=
    request_cases hrequest
  rw [hprotocol] at hprotocol'
  obtain ⟨rfl, rfl⟩ := BoltProtocol.mk.inj (Option.some.inj hprotocol')
  have hdone : session'.1.comm = connection.comm ∧ session'.TxReady ∧
      ∃ n ≤ (request.messages version connection.access_mode state).length,
        (status = BOLT_SUCCESS →
          n = (request.messages version connection.access_mode state).length) ∧
        Appended (((request.messages version connection.access_mode state).take n).map
          (BoltMessage.payload version.checkWritableStruct)) (connection, state) session' := by
    cases hhandles with
    | set run_request begin_request hmessages =>
      refine ⟨rfl, ⟨h.connection, h.state, h.drained⟩, 0, Nat.zero_le _, fun _ => ?_,
        by simp [frames, Session.prepare], rfl⟩
      exact (congrArg List.length hmessages).symm
    | @load run_request begin_request loaded hload =>
      have hsame := (loadMessages_same _ hload).connection
      have hready0 : Session.TxReady (Session.prepare run_request begin_request
          ({ connection with protocol := none }, state)) := ⟨h.connection, h.state, h.drained⟩
      obtain ⟨hready, n, hn, hall, happended⟩ := loadMessages_framed _ hready0 hload
      refine ⟨?_, ⟨hready.connection, hready.state, hready.drained⟩, n, hn, hall, happended.transmit,
        happended.id⟩
      show loaded.1.comm = connection.comm
      rw [hsame]
      rfl
  obtain ⟨hcomm, hready, n, hn, hall, happended⟩ := hdone
  obtain ⟨connection1, state1⟩ := session'
  have hresult : (result = BOLT_SUCCESS → status = BOLT_SUCCESS) ∧
      connection'.protocol = some ⟨version, state1⟩ ∧ connection'.comm = connection1.comm ∧
      connection'.tx_buffer = connection1.tx_buffer := by
    rcases tryStatus_cases status { connection1 with protocol := some ⟨version, state1⟩ } with
      ⟨hstatus, heq⟩ | ⟨hstatus, -, heq⟩ | ⟨hstatus, -, heq⟩
    · obtain ⟨rfl, rfl⟩ := Prod.mk.inj (htry.trans heq)
      exact ⟨fun _ => hstatus, rfl, rfl, rfl⟩
    · obtain ⟨rfl, rfl⟩ := Prod.mk.inj (htry.trans heq)
      exact ⟨fun hs => absurd hs (by decide), rfl, rfl, rfl⟩
    · obtain ⟨rfl, rfl⟩ := Prod.mk.inj (htry.trans heq)
      exact ⟨fun hs => hs, setStatus_protocol _ _ _, by rw [setStatus_eq], setStatus_tx_buffer _ _ _⟩
  obtain ⟨hsuccess, hprotocol', hcomm', htx⟩ := hresult
  refine ⟨hcomm'.trans hcomm, state1, hprotocol', ⟨?_, hready.state, hready.drained⟩, n, hn,
    fun hs => hall (hsuccess hs), ?_, happended.id⟩
  · show connection'.tx_buffer.Wf
    rw [htx]
    exact hready.connection
  · exact (congrArg BoltBuffer.content htx).trans happended.transmit

/-! ## Runs -/

/-- A connection with the messages that were loaded so far, and whether a send
has failed. -/
structure Outbound where
  connection : BoltConnection
  loaded : List BoltMessage
  failed : Bool

/-- A call of the user. -/
inductive Outbound.Call where
  | load (request : Request)
  | send

namespace Outbound

/-- The messages that a request has loaded: it has taken an id for each. -/
def loadedBy (request : Request) (connection connection' : BoltConnection) : List BoltMessage :=
  match connection.protocol, connection'.protocol with
  | some protocol, some protocol' =>
    (request.messages protocol.version connection.access_mode protocol.state).take
      (protocol'.state.next_request_id - protocol.state.next_request_id)
  | _, _ => []

/-- A call.  There is none after a send that has failed. -/
def step : Runs.Step Call Outbound Int := fun call outbound =>
  if outbound.failed then none
  else
    match call with
    | .load request =>
      (outbound.connection.request request).map fun (result, connection) =>
        (result, { outbound with
          connection := connection
          loaded := outbound.loaded ++ loadedBy request outbound.connection connection })
    | .send =>
      let (result, connection) := outbound.connection.send
      some (result, { outbound with
        connection := connection, failed := decide (result ≠ BOLT_SUCCESS) })

/-- The frames of the messages, one after the other. -/
def stream (version : ProtocolVersion) (loaded : List BoltMessage) : List UInt8 :=
  (loaded.map (BoltMessage.framed version.checkWritableStruct)).flatten

theorem stream_append (version : ProtocolVersion) (first second : List BoltMessage) :
    stream version (first ++ second) = stream version first ++ stream version second := by
  simp [stream]

theorem frames_payloads (version : ProtocolVersion) (loaded : List BoltMessage) :
    frames ((loaded.map (BoltMessage.payload version.checkWritableStruct)).map chunksOf) =
      stream version loaded := by
  simp only [frames, stream, List.map_map]
  rfl

/-- All that was loaded has been accepted by the transport or waits in the
transmit buffer; after a failure what has been accepted is still the front of
it.  The loaded messages have taken one id after the other. -/
structure Delivered (version : ProtocolVersion) (start : BoltConnection) (next_request_id : Nat)
    (outbound : Outbound) : Prop where
  ready : ∃ state, outbound.connection.protocol = some ⟨version, state⟩ ∧
    Session.TxReady (outbound.connection, state) ∧
    state.next_request_id = next_request_id + outbound.loaded.length
  accepted : ∃ sent, outbound.connection.comm.outgoing = start.comm.outgoing ++ sent ∧
    sent <+: start.tx_buffer.content ++ stream version outbound.loaded ∧
    (outbound.failed = false → sent ++ outbound.connection.tx_buffer.content =
      start.tx_buffer.content ++ stream version outbound.loaded)

variable {version : ProtocolVersion} {start : BoltConnection} {next_request_id : Nat}
  {outbound outbound' : Outbound} {result : Int}

/-- A request puts the messages that it loads behind what waits. -/
theorem Delivered.load (h : Delivered version start next_request_id outbound) {request : Request}
    (hstep : step (.load request) outbound = some (result, outbound')) :
    Delivered version start next_request_id outbound' := by
  unfold step at hstep
  split_ifs at hstep with hfailed
  obtain ⟨⟨result', connection'⟩, hrequest, heq⟩ := Option.map_eq_some_iff.mp hstep
  obtain ⟨rfl, rfl⟩ := Prod.mk.inj heq
  obtain ⟨⟨state, hprotocol, hready, hid⟩, sent, houtgoing, -, hwhole⟩ := h
  obtain ⟨hcomm, state', hprotocol', hready', n, hn, -, happended⟩ :=
    BoltConnection.request_framed hprotocol hready hrequest
  have hcount := happended.id
  rw [List.length_map, List.length_take, Nat.min_eq_left hn] at hcount
  dsimp only at hcount
  have hloaded : loadedBy request outbound.connection connection' =
      (request.messages version outbound.connection.access_mode state).take n := by
    rw [loadedBy, hprotocol, hprotocol']
    dsimp only
    rw [hcount, Nat.add_sub_cancel_left]
  have hwhole' := hwhole (by simpa using hfailed)
  have htransmit := happended.transmit
  rw [frames_payloads] at htransmit
  refine ⟨⟨state', hprotocol', hready', ?_⟩, sent, ?_, ?_, fun _ => ?_⟩
  · rw [hcount, hid, hloaded, List.length_append, List.length_take, Nat.min_eq_left hn,
      Nat.add_assoc]
  · rw [← houtgoing]
    exact congrArg BoltCommunication.outgoing hcomm
  · rw [stream_append, ← List.append_assoc, ← hwhole', List.append_assoc]
    exact List.prefix_append _ _
  · rw [stream_append, ← List.append_assoc, ← hwhole', hloaded, List.append_assoc]
    exact congrArg (sent ++ ·) htransmit

/-- A send moves all that waits, or the front of it. -/
theorem Delivered.send (h : Delivered version start next_request_id outbound)
    (hstep : step .send outbound = some (result, outbound')) :
    Delivered version start next_request_id outbound' ∧ outbound'.loaded = outbound.loaded ∧
      (result = BOLT_SUCCESS →
        outbound'.connection.comm.outgoing =
          start.comm.outgoing ++ (start.tx_buffer.content ++ stream version outbound.loaded) ∧
        outbound'.connection.tx_buffer.unloadable = 0) := by
  obtain ⟨⟨state, hprotocol, hready, hid⟩, sent, houtgoing, -, hwhole⟩ := h
  obtain ⟨more, hmore, ⟨left, hleft⟩, -, hall⟩ := BoltConnection.send_outgoing hready.connection
  obtain ⟨hwf, hempty⟩ := BoltConnection.send_tx hready.connection
  have hprotocol' : outbound.connection.send.2.protocol = some ⟨version, state⟩ := by
    rw [BoltConnection.send_same]
    exact hprotocol
  unfold step at hstep
  rcases hsend : outbound.connection.send with ⟨status, connection'⟩
  simp only [hsend] at hstep hmore hall hwf hempty hprotocol'
  split_ifs at hstep with hfailed
  obtain ⟨rfl, rfl⟩ := Prod.mk.inj (Option.some.inj hstep)
  have hwhole' := hwhole (by simpa using hfailed)
  have houtgoing' : connection'.comm.outgoing = start.comm.outgoing ++ (sent ++ more) := by
    rw [hmore, houtgoing, List.append_assoc]
  have hdone : status = BOLT_SUCCESS →
      sent ++ more = start.tx_buffer.content ++ stream version outbound.loaded := by
    intro hsuccess
    rw [hall hsuccess, hwhole']
  refine ⟨⟨⟨state, hprotocol', ⟨hwf, hready.state, hready.drained⟩, hid⟩, sent ++ more, houtgoing',
    ⟨left, ?_⟩, fun hfailed' => ?_⟩, rfl, fun hsuccess => ⟨?_, ?_⟩⟩
  · rw [List.append_assoc, hleft, hwhole']
  · rw [hempty, List.append_nil]
    exact hdone (not_not.mp (of_decide_eq_false hfailed'))
  · rw [← hdone hsuccess]
    exact houtgoing'
  · rw [← hwf.length_content, hempty, List.length_nil]

theorem Delivered.step (h : Delivered version start next_request_id outbound) {call : Call}
    (hstep : step call outbound = some (result, outbound')) :
    Delivered version start next_request_id outbound' := by
  cases call with
  | load request => exact h.load hstep
  | send => exact (h.send hstep).1

/-- The outbound stream is intact.  In every run of request and send calls up to
the first send that fails, the transport has accepted a front of the frames of
the loaded messages, in the order of their ids and each byte once; a send that
succeeds completes it. -/
theorem delivered {state : BoltProtocolState} (hprotocol : start.protocol = some ⟨version, state⟩)
    (hready : Session.TxReady (start, state)) (calls : List Call) {results : List Int}
    {final : Outbound} (hrun : Runs.run step calls ⟨start, [], false⟩ = some (results, final)) :
    Delivered version start state.next_request_id final ∧
      ∀ last, step .send final = some (BOLT_SUCCESS, last) →
        last.connection.comm.outgoing =
          start.comm.outgoing ++ (start.tx_buffer.content ++ stream version final.loaded) ∧
        last.connection.tx_buffer.unloadable = 0 := by
  have hstart : Delivered version start state.next_request_id ⟨start, [], false⟩ := by
    refine ⟨⟨state, hprotocol, hready, rfl⟩, [], (List.append_nil _).symm, List.nil_prefix,
      fun _ => ?_⟩
    simp [stream]
  have hfinal := Runs.keeps_of_run (fun _ _ _ _ h hstep => Delivered.step h hstep) calls hstart hrun
  exact ⟨hfinal, fun last hsend => (hfinal.send hsend).2.2 rfl⟩

/-- A connection whose transport accepts the first bytes in pieces. -/
def slow : BoltConnection :=
  { idle .v1 with comm := { BoltCommunication.create with sendScript := [.move 1, .move 3, .move 2] } }

/-- A BEGIN that is sent in pieces, and a RESET behind it.  All loads and the send succeed, and
the BEGIN is the RUN of a statement with a DISCARD_ALL. -/
theorem delivered_begin :
    ∃ final, Runs.run step [.load .loadBeginRequest, .send, .load .loadResetRequest]
        ⟨slow, [], false⟩ = some ([BOLT_SUCCESS, BOLT_SUCCESS, BOLT_SUCCESS], final) ∧
      final.loaded.map BoltMessage.code = [BOLT_V1_RUN, BOLT_V1_DISCARD_ALL, BOLT_V1_RESET] ∧
      Delivered .v1 slow 0 final ∧
      ∀ last, step .send final = some (BOLT_SUCCESS, last) →
        last.connection.comm.outgoing =
          slow.comm.outgoing ++ (slow.tx_buffer.content ++ stream .v1 final.loaded) ∧
        last.connection.tx_buffer.unloadable = 0 := by
  have hrun : (Runs.run step [.load .loadBeginRequest, .send, .load .loadResetRequest]
      ⟨slow, [], false⟩).map (fun (results, final) => (results, final.loaded.map BoltMessage.code)) =
        some ([BOLT_SUCCESS, BOLT_SUCCESS, BOLT_SUCCESS],
          [BOLT_V1_RUN, BOLT_V1_DISCARD_ALL, BOLT_V1_RESET]) := by
    decide +kernel
  obtain ⟨⟨results, final⟩, hrun, hresult⟩ := Option.map_eq_some_iff.mp hrun
  obtain ⟨rfl, hloaded⟩ := Prod.mk.inj hresult
  have hready : Session.TxReady (slow, BoltProtocolV1.createState) :=
    ⟨BoltBuffer.wf_create _, BoltBuffer.wf_create _, BoltBuffer.content_create _⟩
  exact ⟨final, hrun, hloaded, delivered rfl hready _ hrun⟩

end Outbound

end Seabolt
