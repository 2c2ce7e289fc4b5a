import Seabolt.Conversation
import Seabolt.PoolCalls

/-!
# Where conversations begin

A conversation starts with a connection that owes nothing.  `BoltConnection_open` and
`BoltConnection_init` make such a connection: when a server has accepted it, and has sent
nothing but the handshake and the response to the first request, everything is read and
both counters agree.  So what holds of conversations holds from the opening on
(`opened_coherent`).
-/

namespace Seabolt

namespace BoltConnection

variable {connection connection' opened ready : BoltConnection} {target : Target}
  {version : ProtocolVersion} {state : BoltProtocolState} {status : Int}
  {user_agent : List UInt8} {auth_token : BoltValue}

/-! ## Opening -/

theorem negotiated_protocol {protocol_version : Int}
    (h : connection.negotiated protocol_version = some (BOLT_SUCCESS, connection')) :
    ∃ version, connection' = { connection with
      protocol_version := protocol_version, protocol := some (.create version) } := by
  unfold negotiated at h
  dsimp only at h
  split at h
  · rename_i protocol hprotocol
    obtain ⟨-, rfl⟩ := Prod.mk.inj (Option.some.inj h)
    unfold protocolOf at hprotocol
    split_ifs at hprotocol
    · exact ⟨.v1, by rw [← Option.some.inj hprotocol]⟩
    · exact ⟨.v2, by rw [← Option.some.inj hprotocol]⟩
    · exact ⟨.v3, by rw [← Option.some.inj hprotocol]⟩
  · obtain ⟨closed, -, hresult⟩ := Option.map_eq_some_iff.mp h
    exact absurd (congrArg Prod.fst hresult)
      (show BOLT_PROTOCOL_UNSUPPORTED ≠ BOLT_SUCCESS by decide)

/-- The handshake leaves the buffers alone, and there is a new protocol. -/
theorem handshakeB_protocol {v1 v2 v3 v4 : Nat}
    (h : connection.handshakeB v1 v2 v3 v4 = some (BOLT_SUCCESS, connection')) :
    ∃ version, connection'.protocol = some (.create version) ∧
      connection'.tx_buffer = connection.tx_buffer ∧
      connection'.rx_buffer = connection.rx_buffer := by
  unfold handshakeB at h
  dsimp only at h
  split_ifs at h
  · exact absurd (congrArg Prod.fst (Option.some.inj h))
      (show BOLT_STATUS_SET ≠ BOLT_SUCCESS by decide)
  · exact absurd (congrArg Prod.fst (Option.some.inj h))
      (show BOLT_STATUS_SET ≠ BOLT_SUCCESS by decide)
  · obtain ⟨version, rfl⟩ := negotiated_protocol h
    exact ⟨version, rfl, rfl, rfl⟩

theorem openDisconnected_protocol
    (h : connection.openDisconnected target = some (BOLT_SUCCESS, opened)) :
    ∃ version, opened.protocol = some (.create version) ∧
      opened.tx_buffer = .create INITIAL_TX_BUFFER_SIZE ∧
      opened.rx_buffer = .create INITIAL_RX_BUFFER_SIZE := by
  unfold openDisconnected at h
  dsimp only at h
  split_ifs at h
  · obtain ⟨⟨status, connection1⟩, hhandshake, hresult⟩ := Option.map_eq_some_iff.mp h
    dsimp only at hresult
    rcases tryStatus_cases status connection1 with
      ⟨rfl, heq⟩ | ⟨-, -, heq⟩ | ⟨hfail, -, heq⟩
    · simp only [heq, ne_eq, not_true_eq_false, if_false] at hresult
      obtain ⟨-, rfl⟩ := Prod.mk.inj hresult
      obtain ⟨version, hprotocol, htx, hrx⟩ := handshakeB_protocol hhandshake
      exact ⟨version, by rw [setStatus_protocol, hprotocol], by rw [setStatus_tx_buffer, htx],
        by rw [setStatus_rx_buffer, hrx]⟩
    · have hne : (-1 : Int) ≠ BOLT_SUCCESS := by decide
      simp only [heq, hne, ne_eq, not_false_eq_true, if_true] at hresult
      exact absurd (congrArg Prod.fst hresult) hne
    · simp only [heq, hfail, ne_eq, not_false_eq_true, if_true] at hresult
      exact absurd (congrArg Prod.fst hresult) hfail
  · exact absurd (congrArg Prod.fst (Option.some.inj h))
      (show BOLT_STATUS_SET ≠ BOLT_SUCCESS by decide)

/-- A connection that was opened, and to which nothing has been sent behind the handshake,
owes nothing. -/
theorem opened_rested (hopen : connection.openAt target = some (BOLT_SUCCESS, opened))
    (hquiet : opened.comm.incoming = []) : opened.Rested := by
  obtain ⟨version, hprotocol, htx, hrx⟩ : ∃ version, opened.protocol = some (.create version) ∧
      opened.tx_buffer = .create INITIAL_TX_BUFFER_SIZE ∧
      opened.rx_buffer = .create INITIAL_RX_BUFFER_SIZE := by
    unfold openAt at hopen
    split_ifs at hopen
    · obtain ⟨closed, -, hopen⟩ := Option.bind_eq_some_iff.mp hopen
      exact openDisconnected_protocol hopen
    · exact openDisconnected_protocol hopen
  have hstate : (BoltProtocol.create version).state.tx_buffer.Wf ∧
      (BoltProtocol.create version).state.tx_buffer.content = [] ∧
      (BoltProtocol.create version).state.rx_buffer.Wf ∧
      (BoltProtocol.create version).state.rx_buffer.content = [] := by
    cases version <;> exact ⟨BoltBuffer.wf_create _, BoltBuffer.content_create _,
      BoltBuffer.wf_create _, BoltBuffer.content_create _⟩
  obtain ⟨htx', hcontent, hrx', hcontent'⟩ := hstate
  refine ⟨version, (BoltProtocol.create version).state, ?_, ⟨?_, htx', hcontent⟩, ?_, ⟨?_, hrx'⟩,
    ?_, hcontent', ?_⟩
  · rw [hprotocol]
    cases version <;> rfl
  · show opened.tx_buffer.Wf
    rw [htx]
    exact BoltBuffer.wf_create _
  · cases version <;> rfl
  · rw [hrx]
    exact BoltBuffer.wf_create _
  · rw [pending, hrx, hquiet, BoltBuffer.content_create]
    rfl
  · cases version <;> rfl

/-! ## Initialising -/

/-- What an initialisation that succeeds has done: its message was loaded and sent, and
the summary of the response was fetched. -/
theorem init_fetches (hprotocol : connection.protocol = some ⟨version, state⟩)
    (h : connection.init user_agent auth_token = some (0, ready)) :
    ∃ message loaded records fetched,
      connection.loadMessage message = some (BOLT_SUCCESS, loaded) ∧
      (∃ request, loaded.lastRequest = some request ∧
        loaded.send.2.fetchSummary request = some (records, fetched)) ∧
      0 ≤ records ∧ ready = fetched.setStatus .ready BOLT_SUCCESS := by
  unfold init at h
  split_ifs at h
  · simp only [hprotocol] at h
    obtain ⟨⟨code, final⟩, hinit, hresult⟩ := Option.map_eq_some_iff.mp h
    have hcode : code = BOLT_V1_SUCCESS.toInt ∧ ready = final.setStatus .ready BOLT_SUCCESS := by
      dsimp only at hresult
      unfold initialised at hresult
      split_ifs at hresult with hsuccess
      · exact ⟨hsuccess, (Prod.mk.inj hresult).2.symm⟩
      · exact absurd (congrArg Prod.fst hresult) (show (-1 : Int) ≠ 0 by decide)
      · exact absurd (congrArg Prod.fst hresult) (show (-1 : Int) ≠ 0 by decide)
    obtain ⟨rfl, rfl⟩ := hcode
    obtain ⟨message, -, hinit⟩ := Option.bind_eq_some_iff.mp hinit
    rcases Outcome.TRY_cases hinit with ⟨-, hload⟩ | ⟨loaded, hload, hinit⟩
    · rcases loadMessage_status hload with hstatus | hstatus | hstatus <;>
        exact absurd hstatus (by decide)
    obtain ⟨request, hlast, hinit⟩ := Option.bind_eq_some_iff.mp hinit
    rcases Outcome.TRY_cases hinit with ⟨-, hsend⟩ | ⟨sent, hsend, hinit⟩
    · have hstatus : loaded.send.1 = BOLT_V1_SUCCESS.toInt :=
        congrArg Prod.fst (Option.some.inj hsend)
      rcases loaded.send_status with hsent | hsent <;>
        exact absurd (hsent.symm.trans hstatus) (by decide)
    have hsame : loaded.send.2 = sent := congrArg Prod.snd (Option.some.inj hsend)
    rcases Outcome.TRY_cases hinit with ⟨-, hfetch⟩ | ⟨fetched, hfetch, hinit⟩
    · exact ⟨message, loaded, _, final, hload, ⟨request, hlast, by rw [hsame, hfetch]⟩, by decide,
        rfl⟩
    · obtain ⟨protocol, -, hresult⟩ := Option.map_eq_some_iff.mp hinit
      obtain ⟨-, rfl⟩ := Prod.mk.inj hresult
      exact ⟨message, loaded, _, fetched, hload, ⟨request, hlast, by rw [hsame, hfetch]⟩, by decide,
        rfl⟩
  · exact absurd (congrArg Prod.fst (Option.some.inj h)) (show (-1 : Int) ≠ 0 by decide)

/-- A connection that owes nothing owes nothing when the server has accepted it. -/
theorem init_rested {response : Response} {bytes : List UInt8} (hrested : connection.Rested)
    (hcarries : ∀ version state, connection.protocol = some ⟨version, state⟩ →
      Carries version.checkReadableStruct (response.messages.map some) bytes [])
    (haccepted : response.summary.code = BOLT_V1_SUCCESS)
    (h : (connection.hears bytes).init user_agent auth_token = some (0, ready)) : ready.Rested := by
  have hcoherent := Conversation.coherent_start hrested
  obtain ⟨version, state, hprotocol, hready, hcounter, -, -, -, hfailure⟩ := hrested
  have hheard : (connection.hears bytes).protocol = some ⟨version, state⟩ := hprotocol
  have hready0 : Session.TxReady (connection.hears bytes, state) :=
    ⟨hready.connection, hready.state, hready.drained⟩
  have hnext : connection.nextRequest = state.next_request_id := by
    rw [nextRequest, hprotocol]
    rfl
  obtain ⟨message, loaded, records, fetched, hload, ⟨request, hlast, hfetch⟩, hrecords, rfl⟩ :=
    init_fetches hheard h
  obtain ⟨hloads1, hkept1⟩ := loadMessage_loads hheard hready0 hload
  obtain ⟨version1, state0, state1, hprotocol0, hprotocol1, hready1, hid1, -⟩ := hloads1.protocol
  obtain ⟨rfl, rfl⟩ := BoltProtocol.mk.inj (Option.some.inj (hheard.symm.trans hprotocol0))
  obtain ⟨hloads2, hkept2, hempty⟩ := send_loads hprotocol1 hready1
  have hloads := hloads1.trans hloads2
  have hrequest : request = connection.nextRequest := by
    rw [lastRequest, hprotocol1, Option.map_some, Option.some.injEq, hid1] at hlast
    exact hlast.symm.trans hnext.symm
  subst hrequest
  have hhears : Aligned ⟨connection.nextRequest, [] ++ [response]⟩ (connection.hears bytes) := by
    refine hcoherent.aligned.hears fun version state h => ?_
    rw [List.flatMap_singleton]
    exact hcarries version state h
  have haligned := hhears.loads hloads
  rcases haligned.fetchSummary hfetch with hneg | ⟨responses, -, hadvances, -⟩
  · exact absurd hneg (not_lt.mpr hrecords)
  have hread : connection.nextRequest + 1 - connection.nextRequest = 1 := by omega
  have hunread := hadvances.unread
  have hgleans := hadvances.gleans
  simp only [hread, Position.summaries, List.nil_append, List.map_cons, List.map_nil,
    List.drop_succ_cons, List.drop_nil, List.map_eq_nil_iff, List.take_succ_cons,
    List.take_zero] at hunread hgleans
  subst hunread
  obtain ⟨middle, hcollects, hnothing⟩ := hgleans
  have hnone : fetched.failure = none := by
    have hkept : connection.failure = none := by
      rw [failure, hprotocol, Option.bind_some, hfailure]
    calc fetched.failure
      _ = middle := hnothing
      _ = loaded.send.2.failure := hcollects.other (by rw [haccepted]; decide)
      _ = loaded.failure := hkept2
      _ = (connection.hears bytes).failure := hkept1
      _ = none := hkept
  obtain ⟨version2, state2, state3, hprotocol2, hprotocol3, hready3, hid3, -⟩ := hloads.protocol
  obtain ⟨rfl, rfl⟩ := BoltProtocol.mk.inj (Option.some.inj (hheard.symm.trans hprotocol2))
  obtain ⟨hwf, protocol, hprotocol', hcounter', hbuffer, hcontent, hpending⟩ := hadvances.aligned
  obtain ⟨htx, version4, state4, state5, hprotocol4, hprotocol5, hbuffer5, hid5⟩ := hadvances.keeps
  obtain ⟨rfl, rfl⟩ := BoltProtocol.mk.inj (Option.some.inj (hprotocol3.symm.trans hprotocol4))
  obtain rfl := Option.some.inj (hprotocol5.symm.trans hprotocol')
  refine ⟨version, state5, ?_, ⟨?_, ?_, ?_⟩, ?_, ⟨?_, hbuffer⟩, ?_, hcontent, ?_⟩
  · rw [setStatus_protocol, hprotocol5]
  · show (fetched.setStatus .ready BOLT_SUCCESS).tx_buffer.Wf
    rw [setStatus_tx_buffer, htx]
    exact hready3.connection
  · show state5.tx_buffer.Wf
    rw [hbuffer5]
    exact hready3.state
  · show state5.tx_buffer.content = []
    rw [hbuffer5]
    exact hready3.drained
  · rw [hid5, hid3, ← hnext]
    exact hcounter'
  · rw [setStatus_rx_buffer]
    exact hwf
  · have hdone : fetched.pending = [] := carries_nil hpending
    rw [pending, setStatus_rx_buffer, setStatus_eq]
    exact hdone
  · rw [failure, hprotocol5] at hnone
    exact hnone

end BoltConnection

/-! ## Conversations from the opening on -/

namespace Conversation

variable {conversation conversation' : Conversation}

/-- A release that leaves the connection ready has read everything. -/
theorem Coherent.released (h : conversation.Coherent) {turn : Turn} {result : Int}
    (hrelease : turn.isRelease = true) (hturn : turn.Conforms conversation)
    (hstep : Conversation.step turn conversation = some (result, conversation')) :
    conversation'.connection.Drained := by
  have hcoherent := h.step hturn hstep
  cases turn with
  | release pool index responses bytes =>
    obtain ⟨sent, -, -, -, -, -, hempty, hresponses, hrequests, -, hadvances, -⟩ :=
      h.release hturn hstep
    refine hcoherent.drained hresponses hrequests ?_
    rw [hadvances.keeps.tx_buffer, hempty]
  | _ => cases hrelease

/-- What is known of a turn: the connection stays where the server is, a summary that is
fetched is that of the request, and a release leaves nothing of the user. -/
structure Faithful (turn : Turn) (conversation : Conversation) (result : Int)
    (conversation' : Conversation) : Prop where
  coherent : conversation'.Coherent
  fetched : ∀ request, turn = .fetch request → result = FETCH_SUMMARY →
    Concludes conversation.position (conversation.position.fetched request)
      conversation.connection conversation'.connection
  released : turn.isRelease = true → conversation'.connection.Drained

theorem Coherent.faithful (h : conversation.Coherent) {turn : Turn} {result : Int}
    (hturn : turn.Conforms conversation)
    (hstep : Conversation.step turn conversation = some (result, conversation')) :
    Faithful turn conversation result conversation' := by
  refine ⟨h.step hturn hstep, ?_, fun hrelease => h.released hrelease hturn hstep⟩
  rintro request rfl rfl
  obtain ⟨-, -, ⟨hrecord, -⟩ | ⟨-, hconcludes⟩⟩ := h.fetch hstep
  · exact absurd hrecord (by decide)
  · exact hconcludes

/-- A conversation with a connection that was opened, and that the server has accepted, is
faithful from the first turn on, whatever the turns are, up to the first failure of the
transport. -/
theorem opened_faithful {connection opened ready : BoltConnection} {target : BoltConnection.Target}
    {user_agent : List UInt8} {auth_token : BoltValue} {response : Response} {bytes : List UInt8}
    (hopen : connection.openAt target = some (BOLT_SUCCESS, opened))
    (hquiet : opened.comm.incoming = [])
    (hcarries : ∀ version state, opened.protocol = some ⟨version, state⟩ →
      Seabolt.Carries version.checkReadableStruct (response.messages.map some) bytes [])
    (haccepted : response.summary.code = BOLT_V1_SUCCESS)
    (hinit : (opened.hears bytes).init user_agent auth_token = some (0, ready))
    (turns : List Turn) (results : List Int) (final : Conversation)
    (hrun : Runs.run step turns (start ready) = some (results, final))
    (hconforms : Runs.Admissible step Turn.Conforms turns (start ready)) :
    Runs.Meets step Faithful turns (start ready) := by
  have hrested := BoltConnection.init_rested (BoltConnection.opened_rested hopen hquiet) hcarries
    haccepted hinit
  refine Runs.meets_of_run ?_ turns (coherent_start hrested) hconforms hrun
  intro turn conversation result conversation' h hturn hstep
  have hfaithful := h.faithful hturn hstep
  exact ⟨hfaithful, hfaithful.coherent⟩

/-- Two requests under way, after a HELLO, and a release that reads what is left. -/
def firstTurns : List Turn :=
  [.request .loadRunRequest, .request (.loadPullRequest (-1)), .send,
    .answer (emptyRecords 0) (emptyRecordBytes 0), .answer (emptyRecords 2) (emptyRecordBytes 2),
    .fetch 1, .fetch 2, .release (.create [] 0 0 .null 1) 0 [emptyRecords 0] (emptyRecordBytes 0)]

/-- A server of the third version accepts the connection. -/
theorem opened_faithful_hello :
    let comm : BoltCommunication := { BoltCommunication.create with incoming := [0, 0, 0, 3] }
    ∃ opened ready, BoltConnection.create.openAt ⟨comm, [true], [0x61]⟩ =
        some (BOLT_SUCCESS, opened) ∧
      (opened.hears (emptyRecordBytes 0)).init [] (.dictionary []) = some (0, ready) ∧
      Runs.Meets step Faithful firstTurns (start ready) := by
  intro comm
  have hruns : (BoltConnection.create.openAt ⟨comm, [true], [0x61]⟩).bind (fun opened =>
      ((opened.2.hears (emptyRecordBytes 0)).init [] (.dictionary [])).map fun ready =>
        ((opened.1, opened.2.comm.incoming, ready.1),
          (Runs.run step firstTurns (start ready.2)).isSome,
          decide (Runs.Admissible step Turn.InOrder firstTurns (start ready.2)))) =
      some ((BOLT_SUCCESS, [], 0), true, true) := by
    decide +kernel
  obtain ⟨⟨status, opened⟩, hopen, hruns⟩ := Option.bind_eq_some_iff.mp hruns
  obtain ⟨⟨result, ready⟩, hinit, hruns⟩ := Option.map_eq_some_iff.mp hruns
  simp only [Prod.mk.injEq, decide_eq_true_eq] at hruns
  obtain ⟨⟨rfl, hquiet, rfl⟩, hrun, horder⟩ := hruns
  obtain ⟨⟨results, final⟩, hrun⟩ := Option.isSome_iff_exists.mp hrun
  have hframed : ∀ turn ∈ firstTurns, ∀ conversation, turn.Framed conversation := by
    rw [firstTurns]
    simp only [List.forall_mem_cons]
    exact ⟨fun _ => trivial, fun _ => trivial, fun _ => trivial, carries_one 0, carries_one 2,
      fun _ => trivial, fun _ => trivial, carries_one 0, by simp⟩
  refine ⟨opened, ready, hopen, hinit, ?_⟩
  exact opened_faithful hopen hquiet
    (fun version _ _ => carries_emptyRecords version.checkReadableStruct 0) rfl hinit firstTurns
    results final hrun (horder.and _ (Runs.admissible_of_mem firstTurns hframed _))

end Conversation

end Seabolt
