import Seabolt.Framing
import Seabolt.Lib.Runs
import Seabolt.PackStream.Acceptance
import Seabolt.Requests

/-!
# Loading requests

A request is written to the message buffer of the protocol and then pushed to
the transmit buffer of the connection.  When the encoder fails half way, the
indexes of the message buffer are put back.

`loadMessage_allOrNothing` says of one message when loading it is all or
nothing, and `meets_allOrNothing` is the guarantee for every run of requests:
the messages that they load take consecutive ids.
-/

namespace Seabolt

open PackStream Chunking

/-! ## One message -/

/-- The structure that a message is written as. -/
def BoltMessage.value (message : BoltMessage) : BoltValue :=
  .struct message.code message.fields

/-- The transmit buffers are intact, and no message is waiting to be pushed. -/
structure Session.TxReady (session : Session) : Prop where
  connection : session.1.tx_buffer.Wf
  state : session.2.tx_buffer.Wf
  drained : session.2.tx_buffer.content = []

/-- The sessions differ in what loading a message changes. -/
structure SameApartFromTx (session session' : Session) : Prop where
  connection : session'.1 = { session.1 with tx_buffer := session'.1.tx_buffer }
  state : session'.2 = { session.2 with
    tx_buffer := session'.2.tx_buffer
    next_request_id := session'.2.next_request_id }

/-- Nothing is loaded and no id is taken. -/
structure Unchanged (session session' : Session) : Prop where
  message : session'.2.tx_buffer.content = session.2.tx_buffer.content
  transmit : session'.1.tx_buffer.content = session.1.tx_buffer.content
  id : session'.2.next_request_id = session.2.next_request_id

/-- The payloads are framed and loaded one after the other, and each takes the
next id. -/
structure Appended (payloads : List (List UInt8)) (session session' : Session) : Prop where
  transmit : session'.1.tx_buffer.content =
    session.1.tx_buffer.content ++ frames (payloads.map chunksOf)
  id : session'.2.next_request_id = session.2.next_request_id + payloads.length

/-- Loading the message changes nothing when it fails.  When it succeeds, one
frame is loaded, and its payload encodes the message. -/
def AllOrNothing (check : CheckStructSignature) (message : BoltMessage) (session : Session) :
    Prop :=
  ∃ status session', loadMessage check message session = some (status, session') ∧
    (status ≠ BOLT_SUCCESS ∧ Unchanged session session' ∨
      status = BOLT_SUCCESS ∧ ∃ payload, Encodes check message.value.canon payload ∧
        Appended [payload] session session')

variable {check : CheckStructSignature} {message : BoltMessage} {session session' : Session}

theorem SameApartFromTx.refl (session : Session) : SameApartFromTx session session := ⟨rfl, rfl⟩

theorem SameApartFromTx.trans {s1 s2 s3 : Session} (h : SameApartFromTx s1 s2)
    (h' : SameApartFromTx s2 s3) : SameApartFromTx s1 s3 := by
  constructor
  · rw [h'.connection, h.connection]
  · rw [h'.state, h.state]

theorem Appended.refl (session : Session) : Appended [] session session :=
  ⟨by simp [frames], rfl⟩

theorem frames_append (first second : List (List (List UInt8))) :
    frames (first ++ second) = frames first ++ frames second := by
  simp [frames]

theorem Appended.trans {s1 s2 s3 : Session} {first second : List (List UInt8)}
    (h : Appended first s1 s2) (h' : Appended second s2 s3) : Appended (first ++ second) s1 s3 := by
  constructor
  · rw [h'.transmit, h.transmit, List.map_append, frames_append, List.append_assoc]
  · rw [h'.id, h.id, List.length_append, Nat.add_assoc]

/-- Loading a message succeeds exactly if the encoder accepts it. -/
theorem loadMessage_spec
    (hrange : ∀ code, check code → 0 ≤ code.toInt ∧ code.toInt < 0x80) (h : session.TxReady)
    (hregular : Regular message.value) :
    ∃ status session', loadMessage check message session = some (status, session') ∧
      session'.TxReady ∧ SameApartFromTx session session' ∧
      (status = BOLT_SUCCESS ↔ Loadable check message.value) ∧
      (status ≠ BOLT_SUCCESS → Unchanged session session') ∧
      (status = BOLT_SUCCESS → ∃ payload, Appended [payload] session session' ∧
        (WithinLimit message.value → Encodes check message.value.canon payload)) := by
  obtain ⟨connection, state⟩ := session
  obtain ⟨status, written, hload, hgrows, hstatus⟩ :=
    settles_load hrange message.value hregular state.tx_buffer h.state
  have hwrite : writeMessage message check state.tx_buffer = some (status, written) := by
    rw [writeMessage_eq_load]
    exact hload
  by_cases hsuccess : status = BOLT_SUCCESS
  · subst hsuccess
    obtain ⟨msg_buffer, tx_buffer, hpush, hmsg, htx, hempty, hframe⟩ :=
      pushToTransmission_spec hgrows.wf h.connection
    refine ⟨BOLT_SUCCESS, ({ connection with tx_buffer := tx_buffer },
      { state with tx_buffer := msg_buffer, next_request_id := state.next_request_id + 1 }),
      ?_, ⟨htx, hmsg, hempty⟩, ⟨rfl, rfl⟩, hstatus, fun hne => absurd rfl hne, fun _ => ?_⟩
    · simp only [loadMessage, hwrite, if_true, hpush, Option.map_some]
    · refine ⟨written.content, ⟨?_, rfl⟩, fun hlimit => ?_⟩
      · rw [hframe]
        simp [frames]
      · have hencodable := encodable_of_loadable hrange hregular (hstatus.mp rfl) hlimit
        obtain ⟨bytes, hencodes, hloads⟩ := loads_of_encodable hencodable
        obtain ⟨written', hload', -, hcontent⟩ := hloads state.tx_buffer h.state
        rw [hload] at hload'
        obtain ⟨-, rfl⟩ := Prod.mk.inj (Option.some.inj hload')
        have hdrained : state.tx_buffer.content = [] := h.drained
        rwa [hcontent, hdrained, List.nil_append]
  · obtain ⟨hwf, hcontent⟩ := hgrows.restore h.state
    refine ⟨status, (connection, { state with
      tx_buffer := { written with
        cursor := state.tx_buffer.cursor, extent := state.tx_buffer.extent } }),
      ?_, ⟨h.connection, hwf, hcontent.trans h.drained⟩, ⟨rfl, rfl⟩, hstatus,
      fun _ => ⟨hcontent, rfl, rfl⟩, fun hsuccess' => absurd hsuccess' hsuccess⟩
    simp only [loadMessage, hwrite, hsuccess, if_false]

/-- Loading a message is all or nothing exactly if the encoder refuses it, or
all of its structures are within the limit. -/
theorem loadMessage_allOrNothing
    (hrange : ∀ code, check code → 0 ≤ code.toInt ∧ code.toInt < 0x80) (h : session.TxReady)
    (hregular : Regular message.value) :
    AllOrNothing check message session ↔
      (Loadable check message.value → WithinLimit message.value) := by
  obtain ⟨status, session', hload, -, -, hstatus, hfail, hsuccess⟩ :=
    loadMessage_spec hrange h hregular
  constructor
  · rintro ⟨status', session'', hload', hcase⟩ hloadable
    rw [hload] at hload'
    obtain ⟨rfl, rfl⟩ := Prod.mk.inj (Option.some.inj hload')
    rcases hcase with ⟨hne, -⟩ | ⟨-, payload, hencodes, -⟩
    · exact absurd (hstatus.mpr hloadable) hne
    · exact withinLimit_of_canon _ (withinLimit_of_encodes hencodes)
  · intro hlimit
    refine ⟨status, session', hload, ?_⟩
    by_cases hstatus' : status = BOLT_SUCCESS
    · obtain ⟨payload, happended, hencodes⟩ := hsuccess hstatus'
      exact .inr ⟨hstatus', payload, hencodes (hlimit (hstatus.mp hstatus')), happended⟩
    · exact .inl ⟨hstatus', hfail hstatus'⟩

/-! ## What a request does -/

/-- Load one message after the other. -/
def loadMessages (check : CheckStructSignature) : List BoltMessage → Session → Outcome Session
  | [], session => some (BOLT_SUCCESS, session)
  | message :: messages, session =>
    Outcome.TRY (loadMessage check message session) (loadMessages check messages)

/-- The message with the access mode in its metadata. -/
def BoltMessage.withAccessMode (message : BoltMessage) (index : Nat)
    (access_mode : BoltAccessMode) : BoltMessage :=
  ((message.update index (setAccessMode access_mode)).map Prod.snd).getD message

/-- The messages that a request loads. -/
def Request.messages (version : ProtocolVersion) (access_mode : BoltAccessMode)
    (state : BoltProtocolState) : Request → List BoltMessage
  | .loadBeginRequest =>
    match version with
    | .v1 | .v2 => [state.begin_request, state.discard_request]
    | .v3 => [state.begin_request.withAccessMode 0 access_mode]
  | .loadCommitRequest =>
    match version with
    | .v1 | .v2 => [state.commit_request, state.discard_request]
    | .v3 => [state.commit_request]
  | .loadRollbackRequest =>
    match version with
    | .v1 | .v2 => [state.rollback_request, state.discard_request]
    | .v3 => [state.rollback_request]
  | .loadRunRequest =>
    match version with
    | .v1 | .v2 => [state.run_request]
    | .v3 => [state.run_request.withAccessMode 2 access_mode]
  | .loadDiscardRequest n => if n ≥ 0 then [] else [state.discard_request]
  | .loadPullRequest n => if n ≥ 0 then [] else [state.pull_request]
  | .loadResetRequest => [state.reset_request]
  | _ => []

/-- Whether the request is a RESET. -/
def Request.isReset : Request → Bool
  | .loadResetRequest => true
  | _ => false

/-- The session with other prepared messages. -/
def Session.prepare (run_request begin_request : BoltMessage) : Session → Session
  | (connection, state) =>
    (connection, { state with run_request := run_request, begin_request := begin_request })

/-- What loading a RESET does to the failure data when it has succeeded. -/
def Session.afterLoad (request : Request) (status : Int) : Session → Session
  | (connection, state) => (connection, { state with
      failure_data :=
        if request.isReset ∧ status = BOLT_SUCCESS then none else state.failure_data })

/-- Loading a message changes the transmit buffers and the next id only. -/
theorem loadMessage_same {status : Int}
    (h : loadMessage check message session = some (status, session')) :
    SameApartFromTx session session' := by
  obtain ⟨connection, state⟩ := session
  rcases hwrite : writeMessage message check state.tx_buffer with _ | ⟨written, tx_buffer⟩
  · simp only [loadMessage, hwrite] at h
    cases h
  · simp only [loadMessage, hwrite] at h
    split_ifs at h with hstatus
    · obtain ⟨buffers, -, hresult⟩ := Option.map_eq_some_iff.mp h
      obtain ⟨-, rfl⟩ := Prod.mk.inj hresult
      exact ⟨rfl, rfl⟩
    · obtain ⟨-, rfl⟩ := Prod.mk.inj (Option.some.inj h)
      exact ⟨rfl, rfl⟩

theorem loadMessages_same (messages : List BoltMessage) :
    ∀ {session session' : Session} {status : Int},
      loadMessages check messages session = some (status, session') →
      SameApartFromTx session session' := by
  induction messages with
  | nil =>
    intro session session' status h
    obtain ⟨-, rfl⟩ := Prod.mk.inj (Option.some.inj h)
    exact .refl _
  | cons message messages ih =>
    intro session session' status h
    rcases hload : loadMessage check message session with _ | ⟨loaded, session1⟩
    · simp only [loadMessages, hload, Outcome.TRY_none] at h
      cases h
    · by_cases hsuccess : loaded = BOLT_SUCCESS
      · subst hsuccess
        simp only [loadMessages, hload, Outcome.TRY_success] at h
        exact (loadMessage_same hload).trans (ih h)
      · simp only [loadMessages, hload, Outcome.TRY_error hsuccess] at h
        obtain ⟨-, rfl⟩ := Prod.mk.inj (Option.some.inj h)
        exact loadMessage_same hload

theorem loadMessages_one (message : BoltMessage) (session : Session) :
    loadMessages check [message] session = loadMessage check message session := by
  rcases hload : loadMessage check message session with _ | ⟨status, session'⟩
  · simp only [loadMessages, hload, Outcome.TRY_none]
  · by_cases hsuccess : status = BOLT_SUCCESS
    · subst hsuccess
      simp only [loadMessages, hload, Outcome.TRY_success]
    · simp only [loadMessages, hload, Outcome.TRY_error hsuccess]

/-- A function of the protocol either sets prepared messages, or it loads the
messages of its request, with the access mode set first. -/
inductive Handles (version : ProtocolVersion) (request : Request) (session : Session) (status : Int) :
    Session → Prop where
  | set (run_request begin_request : BoltMessage)
      (hmessages : request.messages version session.1.access_mode session.2 = []) :
      Handles version request session status (session.prepare run_request begin_request)
  | load (run_request begin_request : BoltMessage) {loaded : Session}
      (hload : loadMessages version.checkWritableStruct
        (request.messages version session.1.access_mode session.2)
        (session.prepare run_request begin_request) = some (status, loaded)) :
      Handles version request session status (loaded.afterLoad request status)

variable {version : ProtocolVersion} {request : Request} {status : Int}

theorem onRunRequest_eq {change : BoltMessage → Outcome BoltMessage}
    (h : onRunRequest change session = some (status, session')) :
    ∃ message, change session.2.run_request = some (status, message) ∧
      session' = session.prepare message session.2.begin_request := by
  obtain ⟨⟨_, message⟩, hchange, hresult⟩ := Option.map_eq_some_iff.mp h
  obtain ⟨rfl, rfl⟩ := Prod.mk.inj hresult
  exact ⟨message, hchange, rfl⟩

theorem onBeginRequest_eq {change : BoltMessage → Outcome BoltMessage}
    (h : onBeginRequest change session = some (status, session')) :
    ∃ message, change session.2.begin_request = some (status, message) ∧
      session' = session.prepare session.2.run_request message := by
  obtain ⟨⟨_, message⟩, hchange, hresult⟩ := Option.map_eq_some_iff.mp h
  obtain ⟨rfl, rfl⟩ := Prod.mk.inj hresult
  exact ⟨message, hchange, rfl⟩

/-- A request that leaves everything alone sets nothing. -/
theorem Handles.same (hmessages : request.messages version session.1.access_mode session.2 = []) :
    Handles version request session status session :=
  .set session.2.run_request session.2.begin_request hmessages

/-- A request that loads its messages as they are. -/
theorem Handles.loads {messages : List BoltMessage}
    (hmessages : request.messages version session.1.access_mode session.2 = messages)
    (hreset : request.isReset = false)
    (h : loadMessages version.checkWritableStruct messages session = some (status, session')) :
    Handles version request session status session' := by
  rw [← hmessages] at h
  have hhandles : Handles version request session status (session'.afterLoad request status) :=
    .load session.2.run_request session.2.begin_request h
  simpa only [Session.afterLoad, hreset, Bool.false_eq_true, false_and, if_false] using hhandles

theorem handles_setRun (change : BoltMessage → Outcome BoltMessage)
    (hmessages : request.messages version session.1.access_mode session.2 = [])
    (h : onRunRequest change session = some (status, session')) :
    Handles version request session status session' := by
  obtain ⟨message, -, rfl⟩ := onRunRequest_eq h
  exact .set _ _ hmessages

theorem handles_setBegin (change : BoltMessage → Outcome BoltMessage)
    (hmessages : request.messages version session.1.access_mode session.2 = [])
    (h : onBeginRequest change session = some (status, session')) :
    Handles version request session status session' := by
  obtain ⟨message, -, rfl⟩ := onBeginRequest_eq h
  exact .set _ _ hmessages

theorem handles_setRunCypher {cypher : List UInt8} {n_parameter : Nat}
    (h : setRunCypher cypher n_parameter session = some (status, session')) :
    Handles version (.setRunCypher cypher n_parameter) session status session' := by
  unfold setRunCypher at h
  split_ifs at h with hsize
  · exact handles_setRun _ rfl h
  · obtain ⟨-, rfl⟩ := Prod.mk.inj (Option.some.inj h)
    exact .same rfl

/-- Loading all of a result: only a negative number is handled. -/
theorem handles_loadAll {message : BoltProtocolState → BoltMessage} {n : Int}
    (hmessages : request.messages version session.1.access_mode session.2 =
      if n ≥ 0 then [] else [message session.2])
    (hreset : request.isReset = false)
    (h : loadAll version.checkWritableStruct message n session = some (status, session')) :
    Handles version request session status session' := by
  unfold loadAll at h
  split_ifs at h hmessages with hn
  · obtain ⟨-, rfl⟩ := Prod.mk.inj (Option.some.inj h)
    exact .same hmessages
  · exact .loads hmessages hreset (by rwa [loadMessages_one])

theorem handles_loadReset
    (h : loadReset version.checkWritableStruct session = some (status, session')) :
    Handles version .loadResetRequest session status session' := by
  unfold loadReset at h
  rcases hload : loadMessage version.checkWritableStruct session.2.reset_request session with
    _ | ⟨loaded, session1⟩
  · simp only [hload, Outcome.TRY_none] at h
    cases h
  · have hloads : loadMessages version.checkWritableStruct
        (Request.messages version session.1.access_mode session.2 .loadResetRequest)
        (session.prepare session.2.run_request session.2.begin_request) =
          some (loaded, session1) := by
      rw [show Request.messages version session.1.access_mode session.2 .loadResetRequest =
        [session.2.reset_request] from rfl, loadMessages_one]
      exact hload
    have hhandles : Handles version .loadResetRequest session loaded
        (session1.afterLoad .loadResetRequest loaded) := .load _ _ hloads
    by_cases hsuccess : loaded = BOLT_SUCCESS
    · subst hsuccess
      simp only [hload, Outcome.TRY_success] at h
      obtain ⟨rfl, rfl⟩ := Prod.mk.inj (Option.some.inj h)
      simpa only [Session.afterLoad, Request.isReset, and_self, if_true] using hhandles
    · simp only [hload, Outcome.TRY_error hsuccess] at h
      obtain ⟨rfl, rfl⟩ := Prod.mk.inj (Option.some.inj h)
      simpa only [Session.afterLoad, hsuccess, and_false, if_false] using hhandles

/-- A transaction message with the DISCARD_ALL behind it. -/
theorem handles_loadAndDiscard {message : BoltProtocolState → BoltMessage}
    (hmessages : request.messages version session.1.access_mode session.2 =
      [message session.2, session.2.discard_request])
    (hreset : request.isReset = false)
    (h : BoltProtocolV1.loadAndDiscard version.checkWritableStruct message session =
      some (status, session')) :
    Handles version request session status session' := by
  refine .loads hmessages hreset ?_
  unfold BoltProtocolV1.loadAndDiscard BoltProtocolV1.loadMessage at h
  rcases hload : loadMessage version.checkWritableStruct (message session.2) session with
    _ | ⟨loaded, session1⟩
  · simp only [hload, Outcome.TRY_none] at h
    cases h
  · by_cases hsuccess : loaded = BOLT_SUCCESS
    · subst hsuccess
      have hdiscard : session1.2.discard_request = session.2.discard_request := by
        rw [(loadMessage_same hload).state]
      simp only [hload, Outcome.TRY_success, hdiscard] at h
      rw [loadMessages, hload, Outcome.TRY_success, loadMessages_one]
      exact h
    · simp only [hload, Outcome.TRY_error hsuccess] at h
      simpa only [loadMessages, hload, Outcome.TRY_error hsuccess] using h

/-- `_set_access_mode` does not fail, and its message is the one that is
loaded. -/
theorem update_setAccessMode {message message' : BoltMessage} {index : Nat}
    {access_mode : BoltAccessMode}
    (h : message.update index (setAccessMode access_mode) = some (status, message')) :
    status = BOLT_SUCCESS ∧ message.withAccessMode index access_mode = message' := by
  refine ⟨?_, by rw [BoltMessage.withAccessMode, h]; rfl⟩
  unfold BoltMessage.update at h
  split at h
  · cases h
  · obtain ⟨⟨status', value⟩, hchange, hresult⟩ := Option.map_eq_some_iff.mp h
    obtain ⟨rfl, -⟩ := Prod.mk.inj hresult
    unfold setAccessMode onEntries at hchange
    split at hchange
    · obtain ⟨⟨status'', entries⟩, hentries, hresult⟩ := Option.map_eq_some_iff.mp hchange
      obtain ⟨rfl, -⟩ := Prod.mk.inj hresult
      cases access_mode with
      | write => exact (Prod.mk.inj (Option.some.inj hentries)).1.symm
      | read => exact (Prod.mk.inj (Option.some.inj hentries)).1.symm
    · cases hchange

theorem handles_loadRun
    (h : BoltProtocolV3.loadRun ProtocolVersion.v3.checkWritableStruct session =
      some (status, session')) :
    Handles .v3 .loadRunRequest session status session' := by
  unfold BoltProtocolV3.loadRun BoltProtocolV3.loadMessage at h
  rcases hset : onRunRequest (·.update 2 (setAccessMode session.1.access_mode)) session with
    _ | ⟨set, session1⟩
  · simp only [hset, Outcome.TRY_none] at h
    cases h
  · obtain ⟨message, hmessage, rfl⟩ := onRunRequest_eq hset
    obtain ⟨rfl, hmode⟩ := update_setAccessMode hmessage
    simp only [hset, Outcome.TRY_success] at h
    refine @Handles.load .v3 .loadRunRequest _ _ message session.2.begin_request session' ?_
    rw [Request.messages, hmode, loadMessages_one]
    exact h

theorem handles_loadBegin
    (h : BoltProtocolV3.loadBeginTx ProtocolVersion.v3.checkWritableStruct session =
      some (status, session')) :
    Handles .v3 .loadBeginRequest session status session' := by
  unfold BoltProtocolV3.loadBeginTx BoltProtocolV3.loadMessage at h
  rcases hset : onBeginRequest (·.update 0 (setAccessMode session.1.access_mode)) session with
    _ | ⟨set, session1⟩
  · simp only [hset, Outcome.TRY_none] at h
    cases h
  · obtain ⟨message, hmessage, rfl⟩ := onBeginRequest_eq hset
    obtain ⟨rfl, hmode⟩ := update_setAccessMode hmessage
    simp only [hset, Outcome.TRY_success] at h
    refine @Handles.load .v3 .loadBeginRequest _ _ session.2.run_request message session' ?_
    rw [Request.messages, hmode, loadMessages_one]
    exact h

/-- What the functions of the first version do. -/
theorem BoltProtocolV1.request_handles (hversion : version ≠ .v3)
    (h : BoltProtocolV1.request version.checkWritableStruct request session =
      some (status, session')) :
    Handles version request session status session' := by
  cases version with
  | v1 | v2 =>
    cases request with
    | clearBegin =>
      simp only [BoltProtocolV1.request, clearLoadBeginTxRequest] at h
      exact handles_setBegin _ rfl h
    | setBeginBookmarks bookmark_list =>
      rcases bookmark_list with _ | bookmark_list
      · simp only [BoltProtocolV1.request, setBeginTxBookmark] at h
        exact handles_setBegin _ rfl h
      · simp only [BoltProtocolV1.request, setBeginTxBookmark] at h
        split_ifs at h
        · exact handles_setBegin _ rfl h
        · obtain ⟨-, rfl⟩ := Prod.mk.inj (Option.some.inj h)
          exact .same rfl
    | setBeginTxTimeout timeout | setBeginTxMetadata metadata | setRunBookmarks bookmark_list
    | setRunTxTimeout timeout | setRunTxMetadata metadata =>
      obtain ⟨-, rfl⟩ := Prod.mk.inj (Option.some.inj h)
      exact .same rfl
    | loadBeginRequest => exact handles_loadAndDiscard rfl rfl h
    | loadCommitRequest => exact handles_loadAndDiscard rfl rfl h
    | loadRollbackRequest => exact handles_loadAndDiscard rfl rfl h
    | clearRun =>
      simp only [BoltProtocolV1.request, clearLoadRunRequest] at h
      exact handles_setRun _ rfl h
    | setRunCypher cypher n_parameter => exact handles_setRunCypher h
    | setRunCypherParameter index name write =>
      simp only [BoltProtocolV1.request, setRunCypherParameter, Seabolt.setRunCypherParameter] at h
      exact handles_setRun _ rfl h
    | loadRunRequest => exact .loads rfl rfl ((loadMessages_one _ _).trans h)
    | loadDiscardRequest n => exact handles_loadAll rfl rfl h
    | loadPullRequest n => exact handles_loadAll rfl rfl h
    | loadResetRequest => exact handles_loadReset h
  | v3 => exact absurd rfl hversion

/-- What the functions of the third version do. -/
theorem BoltProtocolV3.request_handles
    (h : BoltProtocolV3.request ProtocolVersion.v3.checkWritableStruct request session =
      some (status, session')) :
    Handles .v3 request session status session' := by
  cases request with
  | clearBegin =>
    simp only [BoltProtocolV3.request, clearBeginTx] at h
    exact handles_setBegin _ rfl h
  | setBeginBookmarks bookmark_list =>
    simp only [BoltProtocolV3.request, setBeginTxBookmark] at h
    exact handles_setBegin _ rfl h
  | setBeginTxTimeout timeout =>
    simp only [BoltProtocolV3.request, setBeginTxTimeout] at h
    exact handles_setBegin _ rfl h
  | setBeginTxMetadata metadata =>
    simp only [BoltProtocolV3.request, setBeginTxMetadata] at h
    exact handles_setBegin _ rfl h
  | loadBeginRequest => exact handles_loadBegin h
  | loadCommitRequest => exact .loads rfl rfl ((loadMessages_one _ _).trans h)
  | loadRollbackRequest => exact .loads rfl rfl ((loadMessages_one _ _).trans h)
  | clearRun =>
    simp only [BoltProtocolV3.request, clearRun] at h
    exact handles_setRun _ rfl h
  | setRunCypher cypher n_parameter => exact handles_setRunCypher h
  | setRunCypherParameter index name write =>
    simp only [BoltProtocolV3.request, setRunCypherParameter, Seabolt.setRunCypherParameter] at h
    exact handles_setRun _ rfl h
  | setRunBookmarks bookmark_list =>
    simp only [BoltProtocolV3.request, setRunBookmark] at h
    exact handles_setRun _ rfl h
  | setRunTxTimeout timeout =>
    simp only [BoltProtocolV3.request, setRunTxTimeout] at h
    exact handles_setRun _ rfl h
  | setRunTxMetadata metadata =>
    simp only [BoltProtocolV3.request, setRunTxMetadata] at h
    exact handles_setRun _ rfl h
  | loadRunRequest => exact handles_loadRun h
  | loadDiscardRequest n => exact handles_loadAll rfl rfl h
  | loadPullRequest n => exact handles_loadAll rfl rfl h
  | loadResetRequest => exact handles_loadReset h

theorem ProtocolVersion.request_handles
    (h : version.request request session = some (status, session')) :
    Handles version request session status session' := by
  cases version with
  | v1 => exact BoltProtocolV1.request_handles nofun h
  | v2 => exact BoltProtocolV1.request_handles nofun h
  | v3 => exact BoltProtocolV3.request_handles h

/-! ## Runs of requests -/

namespace BoltConnection

variable {connection connection' : BoltConnection} {result : Int}

/-- What a `TRY` of `connection.c` does with the status of a protocol function:
only the result tells whether it was a success. -/
theorem tryStatus_cases (status : Int) (connection : BoltConnection) :
    (status = BOLT_SUCCESS ∧ tryStatus status connection = (BOLT_SUCCESS, connection)) ∨
    (status ≠ BOLT_SUCCESS ∧ status = BOLT_STATUS_SET ∧
      tryStatus status connection = (-1, connection)) ∨
    (status ≠ BOLT_SUCCESS ∧ status ≠ BOLT_STATUS_SET ∧
      tryStatus status connection = (status, connection.setStatus .defunct status)) := by
  unfold tryStatus
  split_ifs with hsuccess hset
  · exact .inl ⟨hsuccess, rfl⟩
  · exact .inr (.inl ⟨hsuccess, hset, rfl⟩)
  · exact .inr (.inr ⟨hsuccess, hset, rfl⟩)

/-- The connection at the end of a call of a request function: the protocol
function has handled the request, and a failure may have set the status. -/
theorem request_cases (h : connection.request request = some (result, connection')) :
    ∃ version state status session',
      connection.protocol = some ⟨version, state⟩ ∧
      Handles version request ({ connection with protocol := none }, state) status session' ∧
      (result, connection') =
        tryStatus status { session'.1 with protocol := some ⟨version, session'.2⟩ } := by
  rcases hprotocol : connection.protocol with _ | ⟨version, state⟩
  · simp only [BoltConnection.request, hprotocol] at h
    cases h
  · simp only [BoltConnection.request, hprotocol] at h
    obtain ⟨⟨status, session'⟩, hrequest, hresult⟩ := Option.map_eq_some_iff.mp h
    exact ⟨version, state, status, session', rfl, version.request_handles hrequest, hresult.symm⟩

/-- A request, as a step of a run. -/
def requestStep : Runs.Step Request BoltConnection Int :=
  fun request connection => connection.request request

/-- The connection is open, its transmit buffers are intact, and the message
that is loaded behind those of a transaction is what it was from the start. -/
def Prepared (connection : BoltConnection) : Prop :=
  ∃ version state, connection.protocol = some ⟨version, state⟩ ∧
    Session.TxReady (connection, state) ∧ state.discard_request = .create BOLT_V1_DISCARD_ALL 0

/-- The messages of the request have Strings for dictionary keys.  Those that
the encoder accepts have structures within the limit only. -/
def WithinLimits (request : Request) (connection : BoltConnection) : Prop :=
  ∀ version state, connection.protocol = some ⟨version, state⟩ →
    ∀ m ∈ request.messages version connection.access_mode state, Regular m.value ∧
      (Loadable version.checkWritableStruct m.value → WithinLimit m.value)

/-- A request is all or nothing: it fails and loads nothing, or it succeeds and
loads an encoding of every one of its messages. -/
def LoadsAll (request : Request) (connection : BoltConnection) (result : Int)
    (connection' : BoltConnection) : Prop :=
  ∃ version state state', connection.protocol = some ⟨version, state⟩ ∧
    connection'.protocol = some ⟨version, state'⟩ ∧
    (result ≠ BOLT_SUCCESS ∧ Unchanged (connection, state) (connection', state') ∨
      result = BOLT_SUCCESS ∧ ∃ payloads,
        List.Forall₂ (fun message => Encodes version.checkWritableStruct message.value.canon)
          (request.messages version connection.access_mode state) payloads ∧
        Appended payloads (connection, state) (connection', state'))

/-- All that the run has loaded are frames of messages, and each has taken the
next id. -/
def Counted (connection connection' : BoltConnection) : Prop :=
  ∀ version state, connection.protocol = some ⟨version, state⟩ →
    ∃ state' payloads, connection'.protocol = some ⟨version, state'⟩ ∧
      Appended payloads (connection, state) (connection', state')

end BoltConnection

/-- Messages that the encoder accepts, within the limit. -/
theorem loadMessages_sure
    (hrange : ∀ code, check code → 0 ≤ code.toInt ∧ code.toInt < 0x80)
    (messages : List BoltMessage) (hsure : ∀ m ∈ messages, Regular m.value ∧
      Loadable check m.value ∧ WithinLimit m.value) :
    ∀ {session : Session}, session.TxReady →
      ∃ session' payloads, loadMessages check messages session = some (BOLT_SUCCESS, session') ∧
        session'.TxReady ∧ List.Forall₂ (fun message => Encodes check message.value.canon)
          messages payloads ∧ Appended payloads session session' := by
  induction messages with
  | nil => exact fun h => ⟨_, [], rfl, h, .nil, .refl _⟩
  | cons message messages ih =>
    intro session h
    obtain ⟨hregular, hloadable, hlimit⟩ := hsure message List.mem_cons_self
    obtain ⟨status, session1, hload, hready, -, hstatus, -, hsuccess⟩ :=
      loadMessage_spec hrange h hregular
    obtain rfl := hstatus.mpr hloadable
    obtain ⟨payload, happended, hencodes⟩ := hsuccess rfl
    obtain ⟨session', payloads, hloads, hready', hall, happended'⟩ :=
      ih (fun m hm => hsure m (List.mem_cons_of_mem _ hm)) hready
    refine ⟨session', payload :: payloads, ?_, hready', .cons (hencodes hlimit) hall,
      happended.trans happended'⟩
    rw [loadMessages, hload, Outcome.TRY_success, hloads]

/-- Messages of which only the first may be refused are loaded all or none. -/
theorem loadMessages_allOrNothing
    (hrange : ∀ code, check code → 0 ≤ code.toInt ∧ code.toInt < 0x80)
    {message : BoltMessage} {messages : List BoltMessage} (hregular : Regular message.value)
    (hlimit : Loadable check message.value → WithinLimit message.value)
    (hsure : ∀ m ∈ messages, Regular m.value ∧ Loadable check m.value ∧ WithinLimit m.value)
    (h : session.TxReady)
    (hloads : loadMessages check (message :: messages) session = some (status, session')) :
    session'.TxReady ∧ (status ≠ BOLT_SUCCESS ∧ Unchanged session session' ∨
      status = BOLT_SUCCESS ∧ ∃ payloads,
        List.Forall₂ (fun message => Encodes check message.value.canon) (message :: messages)
          payloads ∧ Appended payloads session session') := by
  obtain ⟨first, session1, hload, hready, -, hfirst, hfail, hsuccess⟩ :=
    loadMessage_spec hrange h hregular
  by_cases hsuccess' : first = BOLT_SUCCESS
  · subst hsuccess'
    obtain ⟨payload, happended, hencodes⟩ := hsuccess rfl
    obtain ⟨session2, payloads, hrest, hready', hall, happended'⟩ :=
      loadMessages_sure hrange messages hsure hready
    rw [loadMessages, hload, Outcome.TRY_success, hrest] at hloads
    obtain ⟨rfl, rfl⟩ := Prod.mk.inj (Option.some.inj hloads)
    exact ⟨hready', .inr ⟨rfl, _, .cons (hencodes (hlimit (hfirst.mp rfl))) hall,
      happended.trans happended'⟩⟩
  · rw [loadMessages, hload, Outcome.TRY_error hsuccess'] at hloads
    obtain ⟨rfl, rfl⟩ := Prod.mk.inj (Option.some.inj hloads)
    exact ⟨hready, .inl ⟨hsuccess', hfail hsuccess'⟩⟩

/-- A message without fields is always loaded, if the protocol knows its code. -/
theorem bare_sure {version : ProtocolVersion} {code : Int16}
    (hcheck : version.checkWritableStruct code) :
    let value := (BoltMessage.create code 0).value
    Regular value ∧ Loadable version.checkWritableStruct value ∧ WithinLimit value := by
  have hsize : TinySize ([] : List BoltValue).length := by
    unfold TinySize
    decide
  refine ⟨.struct _ _ (by simp [BoltMessage.create]) (by simp [BoltMessage.create]), ?_, ?_⟩
  · exact .struct _ _ hcheck hsize (by simp [BoltMessage.create])
  · exact .struct _ _ (by simp [BoltMessage.create]) (by simp [BoltMessage.create])

/-- Every protocol knows a DISCARD_ALL. -/
theorem discard_sure (version : ProtocolVersion) :
    let value := (BoltMessage.create BOLT_V1_DISCARD_ALL 0).value
    Regular value ∧ Loadable version.checkWritableStruct value ∧ WithinLimit value :=
  bare_sure (by cases version <;> decide)

/-- Only a DISCARD_ALL follows the first message of a request. -/
theorem Request.messages_tail (version : ProtocolVersion) (access_mode : BoltAccessMode)
    (state : BoltProtocolState) (request : Request) :
    ∀ m ∈ (request.messages version access_mode state).tail, m = state.discard_request := by
  cases request with
  | loadDiscardRequest n | loadPullRequest n =>
    simp only [Request.messages]
    split_ifs <;> simp
  | loadBeginRequest | loadCommitRequest | loadRollbackRequest | loadRunRequest =>
    cases version <;> simp [Request.messages]
  | _ => simp [Request.messages]

/-- A request that is handled is all or nothing. -/
theorem Handles.allOrNothing (h : session.TxReady)
    (hdiscard : session.2.discard_request = .create BOLT_V1_DISCARD_ALL 0)
    (hlimits : ∀ m ∈ request.messages version session.1.access_mode session.2,
      Regular m.value ∧ (Loadable version.checkWritableStruct m.value → WithinLimit m.value))
    (hhandles : Handles version request session status session') :
    session'.TxReady ∧ session'.2.discard_request = session.2.discard_request ∧
    (status ≠ BOLT_SUCCESS ∧ Unchanged session session' ∨
      status = BOLT_SUCCESS ∧ ∃ payloads,
        List.Forall₂ (fun message => Encodes version.checkWritableStruct message.value.canon)
          (request.messages version session.1.access_mode session.2) payloads ∧
        Appended payloads session session') := by
  obtain ⟨connection, state⟩ := session
  cases hhandles with
  | set run_request begin_request hmessages =>
    refine ⟨⟨h.connection, h.state, h.drained⟩, rfl, ?_⟩
    by_cases hstatus : status = BOLT_SUCCESS
    · exact .inr ⟨hstatus, [], by rw [hmessages]; exact .nil, by simp [frames, Session.prepare], rfl⟩
    · exact .inl ⟨hstatus, rfl, rfl, rfl⟩
  | @load run_request begin_request loaded hload =>
    have hsame := loadMessages_same _ hload
    have hkept : loaded.2.discard_request = state.discard_request := by rw [hsame.state]; rfl
    have hready : Session.TxReady (Session.prepare run_request begin_request (connection, state)) :=
      ⟨h.connection, h.state, h.drained⟩
    have htail := Request.messages_tail version connection.access_mode state request
    rcases hmessages : request.messages version connection.access_mode state with _ | ⟨m, ms⟩
    · simp only [hmessages] at hload
      obtain ⟨rfl, rfl⟩ := Prod.mk.inj (Option.some.inj hload)
      exact ⟨⟨h.connection, h.state, h.drained⟩, rfl, .inr ⟨rfl, [], .nil,
        by simp [frames, Session.prepare, Session.afterLoad], rfl⟩⟩
    · simp only [hmessages, List.tail_cons] at hload htail hlimits
      obtain ⟨hregular, hlimit⟩ := hlimits m List.mem_cons_self
      have hsure : ∀ m ∈ ms, Regular m.value ∧ Loadable version.checkWritableStruct m.value ∧
          WithinLimit m.value := by
        intro m hm
        rw [htail m hm, hdiscard]
        exact discard_sure version
      obtain ⟨hready', hcase⟩ := loadMessages_allOrNothing (fun _ => version.checkWritableStruct_range)
        hregular hlimit hsure hready hload
      refine ⟨⟨hready'.connection, hready'.state, hready'.drained⟩, hkept, ?_⟩
      rcases hcase with ⟨hstatus, hunchanged⟩ | ⟨hstatus, payloads, hall, happended⟩
      · exact .inl ⟨hstatus, hunchanged.message, hunchanged.transmit, hunchanged.id⟩
      · exact .inr ⟨hstatus, payloads, hall, happended.transmit, happended.id⟩

namespace BoltConnection

variable {connection connection' : BoltConnection} {result : Int}

/-- A request of which the messages are within the limit is all or nothing. -/
theorem request_loadsAll (h : connection.Prepared) (hlimits : WithinLimits request connection)
    (hrequest : connection.request request = some (result, connection')) :
    LoadsAll request connection result connection' ∧ connection'.Prepared := by
  obtain ⟨version, state, hprotocol, hready, hdiscard⟩ := h
  obtain ⟨version', state', status, session', hprotocol', hhandles, htry⟩ := request_cases hrequest
  rw [hprotocol] at hprotocol'
  obtain ⟨rfl, rfl⟩ := BoltProtocol.mk.inj (Option.some.inj hprotocol')
  have htaken : Session.TxReady ({ connection with protocol := none }, state) :=
    ⟨hready.connection, hready.state, hready.drained⟩
  obtain ⟨hready', hdiscard', hcase⟩ :=
    hhandles.allOrNothing htaken hdiscard (hlimits version state hprotocol)
  rw [hdiscard] at hdiscard'
  obtain ⟨connection1, state1⟩ := session'
  have hresult : (result = BOLT_SUCCESS ↔ status = BOLT_SUCCESS) ∧
      connection'.protocol = some ⟨version, state1⟩ ∧
      connection'.tx_buffer = connection1.tx_buffer := by
    rcases tryStatus_cases status { connection1 with protocol := some ⟨version, state1⟩ } with
      ⟨hstatus, heq⟩ | ⟨hstatus, -, heq⟩ | ⟨hstatus, -, heq⟩
    · obtain ⟨rfl, rfl⟩ := Prod.mk.inj (htry.trans heq)
      exact ⟨iff_of_true rfl hstatus, rfl, rfl⟩
    · obtain ⟨rfl, rfl⟩ := Prod.mk.inj (htry.trans heq)
      exact ⟨iff_of_false (by decide) hstatus, rfl, rfl⟩
    · obtain ⟨rfl, rfl⟩ := Prod.mk.inj (htry.trans heq)
      exact ⟨Iff.rfl, setStatus_protocol _ _ _, setStatus_tx_buffer _ _ _⟩
  obtain ⟨hsuccess, hprotocol', htx⟩ := hresult
  refine ⟨⟨version, state, state1, hprotocol, hprotocol', ?_⟩, version, state1, hprotocol',
    ⟨?_, hready'.state, hready'.drained⟩, hdiscard'⟩
  · rcases hcase with ⟨hstatus, hunchanged⟩ | ⟨hstatus, payloads, hall, happended⟩
    · refine .inl ⟨fun hr => hstatus (hsuccess.mp hr), hunchanged.message, ?_, hunchanged.id⟩
      exact (congrArg BoltBuffer.content htx).trans hunchanged.transmit
    · refine .inr ⟨hsuccess.mpr hstatus, payloads, hall, ?_, happended.id⟩
      exact (congrArg BoltBuffer.content htx).trans happended.transmit
  · show connection'.tx_buffer.Wf
    rw [htx]
    exact hready'.connection

/-- A request that is all or nothing takes an id for every message. -/
theorem LoadsAll.counted (h : LoadsAll request connection result connection') :
    Counted connection connection' := by
  obtain ⟨version, state, state', hprotocol, hprotocol', hcase⟩ := h
  intro version1 state1 hprotocol1
  rw [hprotocol] at hprotocol1
  obtain ⟨rfl, rfl⟩ := BoltProtocol.mk.inj (Option.some.inj hprotocol1)
  rcases hcase with ⟨-, hunchanged⟩ | ⟨-, payloads, -, happended⟩
  · exact ⟨state', [], hprotocol', by simpa [frames] using hunchanged.transmit, hunchanged.id⟩
  · exact ⟨state', payloads, hprotocol', happended⟩

theorem Counted.refl (connection : BoltConnection) : Counted connection connection :=
  fun _ state hprotocol => ⟨state, [], hprotocol, .refl _⟩

theorem Counted.trans {c1 c2 c3 : BoltConnection} (h : Counted c1 c2) (h' : Counted c2 c3) :
    Counted c1 c3 := by
  intro version state hprotocol
  obtain ⟨state2, first, hprotocol2, happended⟩ := h version state hprotocol
  obtain ⟨state3, second, hprotocol3, happended'⟩ := h' version state2 hprotocol2
  exact ⟨state3, first ++ second, hprotocol3, happended.trans happended'⟩

end BoltConnection

/-- Loading is all or nothing.  Of one message it is so exactly if the encoder
refuses the message or all of its structures are within the limit.  In every
run of requests with such messages, every request loads all of its messages or
none, and the messages take one id after the other. -/
theorem loading_allOrNothing (version : ProtocolVersion) (message : BoltMessage) (session : Session)
    (h : session.TxReady) (hregular : Regular message.value) :
    (AllOrNothing version.checkWritableStruct message session ↔
      (Loadable version.checkWritableStruct message.value → WithinLimit message.value)) ∧
    ∀ (requests : List Request) (connection final : BoltConnection) (results : List Int),
      connection.Prepared →
      Runs.Admissible BoltConnection.requestStep BoltConnection.WithinLimits requests connection →
      Runs.run BoltConnection.requestStep requests connection = some (results, final) →
      Runs.Meets BoltConnection.requestStep BoltConnection.LoadsAll requests connection ∧
        BoltConnection.Counted connection final := by
  refine ⟨loadMessage_allOrNothing (fun _ => version.checkWritableStruct_range) h hregular, ?_⟩
  intro requests connection final results h hlimits hrun
  have hmeets : Runs.Meets BoltConnection.requestStep BoltConnection.LoadsAll requests
      connection := by
    refine Runs.meets_of_run ?_ requests h hlimits hrun
    intro request connection result connection' h hlimits hrequest
    exact BoltConnection.request_loadsAll h hlimits hrequest
  refine ⟨hmeets, Runs.related_of_meets BoltConnection.Counted.refl
    (fun _ _ _ h h' => h.trans h') ?_ requests hmeets hrun⟩
  exact fun request connection result connection' h => h.counted

/-- A connection that has exchanged nothing but the handshake. -/
def idle (version : ProtocolVersion) : BoltConnection :=
  { BoltConnection.create with
    protocol := some (.create version)
    tx_buffer := .create INITIAL_TX_BUFFER_SIZE
    rx_buffer := .create INITIAL_RX_BUFFER_SIZE
    status := { state := .connected, error := BOLT_SUCCESS } }

/-- The BEGIN of the first version and the DISCARD_ALL behind it. -/
theorem loading_allOrNothing_begin :
    Runs.Meets BoltConnection.requestStep BoltConnection.LoadsAll [.loadBeginRequest]
      (idle .v1) := by
  have hrun : (Runs.run BoltConnection.requestStep [.loadBeginRequest] (idle .v1)).isSome := by
    decide +kernel
  obtain ⟨⟨results, final⟩, hrun⟩ := Option.isSome_iff_exists.mp hrun
  have hready : Session.TxReady (idle .v1, BoltProtocolV1.createState) :=
    ⟨BoltBuffer.wf_create _, BoltBuffer.wf_create _, BoltBuffer.content_create _⟩
  refine ((loading_allOrNothing .v1 (.create BOLT_V1_DISCARD_ALL 0)
    (idle .v1, BoltProtocolV1.createState) hready (discard_sure .v1).1).2 [.loadBeginRequest]
    (idle .v1) final results ⟨.v1, BoltProtocolV1.createState, rfl, hready, rfl⟩
    ⟨?_, fun _ _ _ => trivial⟩ hrun).1
  · intro version state hprotocol
    cases hprotocol
    have hbegin : WithinLimit (createRunMessage (ascii "BEGIN") 0).value :=
      .struct _ _ (by decide) (by
        simp only [createRunMessage, List.replicate_zero, List.forall_mem_cons]
        exact ⟨.string _, .dictionary _ (by simp), by simp⟩)
    have hregular : Regular (createRunMessage (ascii "BEGIN") 0).value :=
      .struct _ _ (by decide) (by
        simp only [createRunMessage, List.replicate_zero, List.forall_mem_cons]
        exact ⟨.string _ (by decide), .dictionary _ (by decide) (by simp) (by simp) (by simp),
          by simp⟩)
    have hdiscard := discard_sure .v1
    intro m hm
    rcases List.mem_pair.mp hm with rfl | rfl
    · exact ⟨hregular, fun _ => hbegin⟩
    · exact ⟨hdiscard.1, fun _ => hdiscard.2.2⟩

/-- A RUN message with a point of 256 coordinates for a parameter. -/
def oversized : BoltMessage where
  code := BOLT_V3_RUN
  fields := [.string [], .dictionary [(.string (ascii "p"),
    .struct BOLT_V2_POINT_2D (List.replicate 256 .null))], .dictionary []]

/-- The point is written with the header of a structure without fields, so the
payload is no encoding of the message. -/
theorem loadMessage_oversized :
    ((loadMessage BoltProtocolV3.checkWritableStructSignature oversized
      (idle .v3, BoltProtocolV3.createState)).map fun (status, connection, _) =>
        (status, connection.tx_buffer.content.take 10)) =
      some (BOLT_SUCCESS, [0x01, 0x09, 0xB3, 0x10, 0x80, 0xA1, 0x81, 0x70, 0xB0, 0x58]) ∧
    ¬AllOrNothing BoltProtocolV3.checkWritableStructSignature oversized
      (idle .v3, BoltProtocolV3.createState) := by
  refine ⟨by decide +kernel, ?_⟩
  rintro ⟨status, session', hload, ⟨hstatus, -⟩ | ⟨-, payload, hencodes, -⟩⟩
  · have hsuccess : (loadMessage BoltProtocolV3.checkWritableStructSignature oversized
        (idle .v3, BoltProtocolV3.createState)).map Prod.fst = some BOLT_SUCCESS := by
      decide +kernel
    rw [hload, Option.map_some] at hsuccess
    exact hstatus (Option.some.inj hsuccess)
  · have hlimit := withinLimit_of_canon _ (withinLimit_of_encodes hencodes)
    cases hlimit with
    | struct _ _ _ hfields =>
      have hparameters := hfields _ (List.mem_cons_of_mem _ List.mem_cons_self)
      cases hparameters with
      | dictionary _ hvalues =>
        have hpoint := hvalues _ List.mem_cons_self
        cases hpoint with
        | struct _ _ hsize _ =>
          rw [List.length_replicate] at hsize
          omega

end Seabolt
