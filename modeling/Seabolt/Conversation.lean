import Seabolt.Acquisition
import Seabolt.Outbound
import Seabolt.Summaries

/-!
# Conversations

A connection and a server that answers its requests.  The user loads and sends requests
and fetches responses in any order, with any number of requests under way, and the pool
recycles the connection between two users.

The server answers one request after the other, each with records and a summary.  It
ignores the requests behind one that has failed, up to a RESET, and a RESET succeeds.
What it answers is in the transport before the call that reads it, so an answer may be
there earlier than the real server would give it.  No call looks at it before it receives.

A conversation ends with the first call that the transport fails, and with the first
release that closes the connection.
-/

namespace Seabolt

open PackStream

/-! ## The server -/

/-- How a server may answer a request. -/
def MayAnswer (failed isReset : Bool) (code : Int16) : Prop :=
  if isReset then code = BOLT_V1_SUCCESS
  else if failed then code = BOLT_V1_IGNORED
  else code = BOLT_V1_SUCCESS ∨ code = BOLT_V1_FAILURE

/-- The summaries of a server that answers the requests in order, and that has failed
before or not.  Of every request it is said whether it is a RESET. -/
def Conforming : Bool → List Bool → List BoltMessage → Prop
  | _, _, [] => True
  | _, [], _ :: _ => False
  | failed, isReset :: requests, summary :: summaries =>
    MayAnswer failed isReset summary.code ∧
      Conforming (summary.code != BOLT_V1_SUCCESS) requests summaries

instance (failed isReset : Bool) (code : Int16) : Decidable (MayAnswer failed isReset code) :=
  inferInstanceAs (Decidable (if isReset then _ else if failed then _ else _))

/-- Whether the server conforms can be computed. -/
instance decidableConforming :
    ∀ failed requests summaries, Decidable (Conforming failed requests summaries)
  | _, [], [] => .isTrue trivial
  | _, _ :: _, [] => .isTrue trivial
  | _, [], _ :: _ => .isFalse id
  | _, isReset :: requests, summary :: summaries =>
    haveI := decidableConforming (summary.code != BOLT_V1_SUCCESS) requests summaries
    inferInstanceAs (Decidable (MayAnswer _ isReset summary.code ∧ Conforming _ requests summaries))

/-- A summary of a FAILURE is read whose request a loaded RESET is behind. -/
def Overtaken : List Bool → List BoltMessage → Prop
  | _ :: requests, summary :: summaries =>
    summary.code = BOLT_V1_FAILURE ∧ true ∈ requests ∨ Overtaken requests summaries
  | _, _ => False

instance decidableOvertaken : ∀ requests summaries, Decidable (Overtaken requests summaries)
  | [], _ => .isFalse id
  | _ :: _, [] => .isFalse id
  | _ :: requests, summary :: summaries =>
    haveI := decidableOvertaken requests summaries
    inferInstanceAs
      (Decidable (summary.code = BOLT_V1_FAILURE ∧ true ∈ requests ∨ Overtaken requests summaries))

/-- What the summaries that were read have told: whether the server has failed, the last
FAILURE, and whether a RESET has been loaded since it was read. -/
structure Notes where
  failed : Bool
  failure : Option BoltMessage
  reset : Bool

/-- The notes when another summary has been read. -/
def Notes.after (notes : Notes) (summary : BoltMessage) : Notes where
  failed := summary.code != BOLT_V1_SUCCESS
  failure := if summary.code = BOLT_V1_FAILURE then some summary else notes.failure
  reset := notes.reset && summary.code != BOLT_V1_FAILURE

/-- The notes when more summaries have been read. -/
def Notes.afterAll : Notes → List BoltMessage → Notes := List.foldl Notes.after

/-! ## The turns of a conversation -/

/-- A connection and what it has to do with the server: the responses that it has not
read, and the requests that they are for, as far as they are loaded. -/
structure Conversation extends Notes where
  connection : BoltConnection
  position : Position
  requests : List Bool

/-- What happens next: a call of a user, a response of the server with its bytes, or that
the pool recycles the connection, while the server answers what is left and the RESET, and
hands it out again. -/
inductive Conversation.Turn where
  | request (request : Request)
  | send
  | answer (response : Response) (bytes : List UInt8)
  | fetch (request : Nat)
  | release (pool : BoltDirectPool) (index : Nat) (responses : List Response)
      (bytes : List UInt8)
  | acquire

/-- More bytes have come from the server. -/
def BoltConnection.hears (connection : BoltConnection) (bytes : List UInt8) : BoltConnection :=
  { connection with
    comm := { connection.comm with incoming := connection.comm.incoming ++ bytes } }

/-- The id of the next request. -/
def BoltConnection.nextRequest (connection : BoltConnection) : Nat :=
  connection.protocol.elim 0 fun protocol => protocol.state.next_request_id

/-- Where a fetch of the response leaves the position. -/
def Position.fetched (request : Nat) (position : Position) : Position :=
  (Position.step (.fetch request) position).elim position Prod.snd

/-- The summaries that are read on the way to another position. -/
def Position.passed (position position' : Position) : List BoltMessage :=
  position.summaries.take (position'.counter - position.counter)

namespace Conversation

/-- A conversation with a connection that owes nothing. -/
def start (connection : BoltConnection) : Conversation where
  failed := false
  failure := none
  reset := false
  connection := connection
  position := ⟨connection.nextRequest, []⟩
  requests := []

/-- Every id that was taken is that of a request. -/
def loaded (isReset : Bool) (connection : BoltConnection) (conversation : Conversation) :
    Conversation :=
  let requests := List.replicate (connection.nextRequest - conversation.connection.nextRequest)
    isReset
  { conversation with
    connection := connection
    requests := conversation.requests ++ requests
    reset := conversation.reset || requests.contains true }

/-- The server has sent responses. -/
def answered (responses : List Response) (bytes : List UInt8) (conversation : Conversation) :
    Conversation :=
  { conversation with
    connection := conversation.connection.hears bytes
    position := { conversation.position with
      responses := conversation.position.responses ++ responses } }

/-- The responses up to the position have been read. -/
def read (position : Position) (connection : BoltConnection) (conversation : Conversation) :
    Conversation where
  toNotes := conversation.toNotes.afterAll (conversation.position.passed position)
  connection := connection
  position := position
  requests := conversation.requests.drop (position.counter - conversation.position.counter)

/-- A turn of the conversation. -/
def step : Runs.Step Turn Conversation Int
  | .request request, conversation =>
    (conversation.connection.request request).map fun (result, connection) =>
      (result, conversation.loaded request.isReset connection)
  | .send, conversation =>
    let (result, connection) := conversation.connection.send
    if result = BOLT_SUCCESS then some (result, { conversation with connection := connection })
    else none
  | .answer response bytes, conversation =>
    some (BOLT_SUCCESS, conversation.answered [response] bytes)
  | .fetch request, conversation =>
    (conversation.connection.fetch request).bind fun (result, connection) =>
      if result = FETCH_ERROR then none
      else some (result, conversation.read (conversation.position.fetched request) connection)
  | .release pool index responses bytes, conversation =>
    let conversation := conversation.answered responses bytes
    let pool := { pool with connections := pool.connections.set index conversation.connection }
    (pool.release (some index)).bind fun (result, pool) =>
      pool.connections[index]?.bind fun connection =>
        if connection.status.state = .ready then
          let last := conversation.position.counter + conversation.requests.length
          let conversation := { conversation with
            requests := conversation.requests ++ [true]
            reset := true }
          some (result, conversation.read ⟨last + 1, []⟩ connection)
        else none
  | .acquire, conversation =>
    some (BOLT_SUCCESS, { conversation with
      connection := { conversation.connection with agent := true } })

/-- The bytes are frames of the messages of the responses. -/
def Carries (responses : List Response) (bytes : List UInt8) (conversation : Conversation) :
    Prop :=
  ∀ version state, conversation.connection.protocol = some ⟨version, state⟩ →
    Seabolt.Carries version.checkReadableStruct
      ((responses.flatMap Response.messages).map some) bytes []

/-- The server answers the requests in order. -/
def Turn.InOrder : Turn → Conversation → Prop
  | .answer response _, conversation =>
    Conforming conversation.failed conversation.requests
      (conversation.position.summaries ++ [response.summary])
  | .release _ _ responses _, conversation =>
    Conforming conversation.failed (conversation.requests ++ [true])
      (conversation.position.summaries ++ responses.map Response.summary)
  | _, _ => True

instance (turn : Turn) (conversation : Conversation) : Decidable (turn.InOrder conversation) :=
  match turn with
  | .answer _ _ | .release _ _ _ _ => decidableConforming _ _ _
  | .request _ | .send | .fetch _ | .acquire => .isTrue trivial

/-- The bytes that come from the server are its responses. -/
def Turn.Framed : Turn → Conversation → Prop
  | .answer response bytes, conversation => conversation.Carries [response] bytes
  | .release _ _ responses bytes, conversation => conversation.Carries responses bytes
  | _, _ => True

/-- What the server sends conforms to the protocol. -/
def Turn.Conforms (turn : Turn) (conversation : Conversation) : Prop :=
  turn.InOrder conversation ∧ turn.Framed conversation

/-- The turn is a release. -/
def Turn.isRelease : Turn → Bool
  | .release _ _ _ _ => true
  | _ => false

end Conversation

/-! ## Conforming servers -/

/-- There is no answer without a request. -/
theorem Conforming.length_le {summaries : List BoltMessage} :
    ∀ {failed : Bool} {requests : List Bool}, Conforming failed requests summaries →
      summaries.length ≤ requests.length := by
  induction summaries with
  | nil => exact fun _ => Nat.zero_le _
  | cons summary summaries ih =>
    intro failed requests h
    cases requests with
    | nil => cases h
    | cons isReset requests => exact Nat.succ_le_succ (ih h.2)

/-- What conforms does so with more requests behind it. -/
theorem Conforming.more {summaries : List BoltMessage} (more : List Bool) :
    ∀ {failed : Bool} {requests : List Bool}, Conforming failed requests summaries →
      Conforming failed (requests ++ more) summaries := by
  induction summaries with
  | nil =>
    intro failed requests _
    rw [Conforming]
    trivial
  | cons summary summaries ih =>
    intro failed requests h
    cases requests with
    | nil => cases h
    | cons isReset requests => exact ⟨h.1, ih h.2⟩

/-- What has not been read conforms to what the server has told so far. -/
theorem Conforming.afterAll {unread : List BoltMessage} (read : List BoltMessage) :
    ∀ {notes : Notes} {requests : List Bool}, Conforming notes.failed requests (read ++ unread) →
      Conforming (notes.afterAll read).failed (requests.drop read.length) unread := by
  induction read with
  | nil => exact fun h => h
  | cons summary read ih =>
    intro notes requests h
    cases requests with
    | nil => cases h
    | cons isReset requests =>
      have hrest : Conforming (notes.after summary).failed requests (read ++ unread) := h.2
      exact ih hrest

/-- The last summary says whether the server has failed. -/
theorem Notes.failed_afterAll (notes : Notes) (skipped : List BoltMessage) (summary : BoltMessage) :
    (notes.afterAll (skipped ++ [summary])).failed = (summary.code != BOLT_V1_SUCCESS) := by
  rw [afterAll, List.foldl_append]
  rfl

/-! ## What loading and sending leave alone -/

/-- The connection has loaded `n` messages, and nothing has happened to what it
receives. -/
structure Loads (n : Nat) (connection connection' : BoltConnection) : Prop where
  incoming : connection'.comm.incoming = connection.comm.incoming
  rx_buffer : connection'.rx_buffer = connection.rx_buffer
  protocol : ∃ version state state', connection.protocol = some ⟨version, state⟩ ∧
    connection'.protocol = some ⟨version, state'⟩ ∧ Session.TxReady (connection', state') ∧
    state'.next_request_id = state.next_request_id + n ∧
    state'.response_counter = state.response_counter ∧ state'.rx_buffer = state.rx_buffer

theorem Loads.trans {n m : Nat} {c1 c2 c3 : BoltConnection} (h : Loads n c1 c2)
    (h' : Loads m c2 c3) : Loads (n + m) c1 c3 := by
  obtain ⟨version, state1, state2, hprotocol1, hprotocol2, -, hid, hcounter, hbuffer⟩ := h.protocol
  obtain ⟨version', state2', state3, hprotocol2', hprotocol3, hready, hid', hcounter', hbuffer'⟩ :=
    h'.protocol
  obtain ⟨rfl, rfl⟩ := BoltProtocol.mk.inj (Option.some.inj (hprotocol2.symm.trans hprotocol2'))
  refine ⟨h'.incoming.trans h.incoming, h'.rx_buffer.trans h.rx_buffer, version, state1, state3,
    hprotocol1, hprotocol3, hready, ?_, hcounter'.trans hcounter, hbuffer'.trans hbuffer⟩
  rw [hid', hid, Nat.add_assoc]

/-- A request that is handled takes an id for every message that it loads.  Only a RESET
that is loaded changes the failure data. -/
theorem Handles.counts {version : ProtocolVersion} {request : Request} {session session' : Session}
    {status : Int} (h : Handles version request session status session')
    (hready : session.TxReady) :
    ∃ n ≤ (request.messages version session.1.access_mode session.2).length,
      session'.TxReady ∧ session'.2.next_request_id = session.2.next_request_id + n ∧
      session'.2.response_counter = session.2.response_counter ∧
      session'.2.rx_buffer = session.2.rx_buffer ∧
      session'.2.failure_data = (if request.isReset ∧ status = BOLT_SUCCESS then none
        else session.2.failure_data) ∧
      (request.isReset = true → n = if status = BOLT_SUCCESS then 1 else 0) := by
  obtain ⟨connection, state⟩ := session
  cases h with
  | set run_request begin_request hmessages =>
    have hreset : request.isReset = false := by
      cases request with
      | loadResetRequest => cases hmessages
      | _ => rfl
    refine ⟨0, Nat.zero_le _, ⟨hready.connection, hready.state, hready.drained⟩, rfl, rfl, rfl, ?_,
      fun h => ?_⟩
    · rw [if_neg]
      · rfl
      · rintro ⟨h, -⟩
        rw [hreset] at h
        cases h
    · rw [hreset] at h
      cases h
  | @load run_request begin_request loaded hload =>
    have hstate := (loadMessages_same _ hload).state
    have hready0 :
        Session.TxReady (Session.prepare run_request begin_request (connection, state)) :=
      ⟨hready.connection, hready.state, hready.drained⟩
    obtain ⟨hready', n, hn, hall, happended⟩ := loadMessages_framed _ hready0 hload
    have hid := happended.id
    rw [List.length_map, List.length_take, Nat.min_eq_left hn] at hid
    refine ⟨n, hn, ⟨hready'.connection, hready'.state, hready'.drained⟩, hid, ?_, ?_, ?_, ?_⟩
    · show loaded.2.response_counter = _
      rw [hstate]
      rfl
    · show loaded.2.rx_buffer = _
      rw [hstate]
      rfl
    · show (if request.isReset ∧ status = BOLT_SUCCESS then none else loaded.2.failure_data) = _
      rw [hstate]
      rfl
    · intro hreset
      cases request with
      | loadResetRequest =>
        split_ifs with hstatus
        · exact hall hstatus
        · rw [show Request.messages version connection.access_mode state .loadResetRequest =
            [state.reset_request] from rfl, loadMessages_one] at hload
          have hunchanged := ((loadMessage_framed hready0 hload).2.2 hstatus).id
          rw [hunchanged] at hid
          exact Nat.left_eq_add.mp hid
      | _ => cases hreset

namespace BoltConnection

variable {connection connection' : BoltConnection} {version : ProtocolVersion}
  {state : BoltProtocolState} {request : Request} {result : Int}

theorem request_loads (hprotocol : connection.protocol = some ⟨version, state⟩)
    (hready : Session.TxReady (connection, state))
    (h : connection.request request = some (result, connection')) :
    ∃ n, Loads n connection connection' ∧
      (request.isReset = true → n = if result = BOLT_SUCCESS then 1 else 0) ∧
      connection'.failure =
        if request.isReset ∧ result = BOLT_SUCCESS then none else connection.failure := by
  obtain ⟨version', state', status, session', hprotocol', hhandles, htry⟩ := request_cases h
  obtain ⟨rfl, rfl⟩ := BoltProtocol.mk.inj (Option.some.inj (hprotocol.symm.trans hprotocol'))
  have htaken : Session.TxReady ({ connection with protocol := none }, state) :=
    ⟨hready.connection, hready.state, hready.drained⟩
  obtain ⟨n, -, hready', hid, hcounter, hbuffer, hfailure, hreset⟩ := hhandles.counts htaken
  have hconnection := hhandles.connection
  obtain ⟨connection1, state1⟩ := session'
  dsimp only at hconnection hid hcounter hbuffer hfailure
  have hresult : (result = BOLT_SUCCESS ↔ status = BOLT_SUCCESS) ∧
      connection'.protocol = some ⟨version, state1⟩ ∧
      connection'.tx_buffer = connection1.tx_buffer ∧ connection'.comm = connection.comm ∧
      connection'.rx_buffer = connection.rx_buffer := by
    rcases tryStatus_cases status { connection1 with protocol := some ⟨version, state1⟩ } with
      ⟨hstatus, heq⟩ | ⟨hstatus, -, heq⟩ | ⟨hstatus, -, heq⟩
    · obtain ⟨rfl, rfl⟩ := Prod.mk.inj (htry.trans heq)
      exact ⟨iff_of_true rfl hstatus, rfl, rfl, by rw [hconnection], by rw [hconnection]⟩
    · obtain ⟨rfl, rfl⟩ := Prod.mk.inj (htry.trans heq)
      exact ⟨iff_of_false (by decide) hstatus, rfl, rfl, by rw [hconnection], by rw [hconnection]⟩
    · obtain ⟨rfl, rfl⟩ := Prod.mk.inj (htry.trans heq)
      refine ⟨Iff.rfl, setStatus_protocol _ _ _, setStatus_tx_buffer _ _ _, ?_, ?_⟩
      · rw [setStatus_eq, hconnection]
      · rw [setStatus_rx_buffer, hconnection]
  obtain ⟨hsuccess, hprotocol1, htx, hcomm, hrx⟩ := hresult
  refine ⟨n, ⟨by rw [hcomm], hrx, version, state, state1, hprotocol, hprotocol1, ⟨?_, hready'.state,
    hready'.drained⟩, hid, hcounter, hbuffer⟩, ?_, ?_⟩
  · show connection'.tx_buffer.Wf
    rw [htx]
    exact hready'.connection
  · simp only [hsuccess]
    exact hreset
  · rw [failure, failure, hprotocol, hprotocol1, Option.bind_some, Option.bind_some, hfailure]
    simp only [hsuccess]

theorem loadMessage_loads {message : BoltMessage}
    (hprotocol : connection.protocol = some ⟨version, state⟩)
    (hready : Session.TxReady (connection, state))
    (h : connection.loadMessage message = some (BOLT_SUCCESS, connection')) :
    Loads 1 connection connection' ∧ connection'.failure = connection.failure := by
  simp only [loadMessage, hprotocol] at h
  obtain ⟨⟨status, connection1, state1⟩, hload, hresult⟩ := Option.map_eq_some_iff.mp h
  obtain ⟨rfl, rfl⟩ := Prod.mk.inj hresult
  have htaken : Session.TxReady ({ connection with protocol := none }, state) :=
    ⟨hready.connection, hready.state, hready.drained⟩
  obtain ⟨hready', happended, -⟩ := loadMessage_framed htaken hload
  have hid := (happended rfl).id
  have hsame := Seabolt.loadMessage_same hload
  have hconnection := hsame.connection
  have hstate := hsame.state
  dsimp only at hconnection hstate hid
  refine ⟨⟨by rw [hconnection], by rw [hconnection], version, state, state1, hprotocol, rfl,
    ⟨hready'.connection, hready'.state, hready'.drained⟩, hid, ?_, ?_⟩, ?_⟩
  · rw [hstate]
  · rw [hstate]
  · rw [failure, failure, hprotocol, Option.bind_some, Option.bind_some, hstate]

/-- A call of the protocol that loads no message. -/
theorem callProtocol_loads (hprotocol : connection.protocol = some ⟨version, state⟩)
    (hready : Session.TxReady (connection, state))
    (hnone : request.messages version connection.access_mode state = [])
    (h : connection.callProtocol request = some connection') :
    Loads 0 connection connection' ∧ connection'.failure = connection.failure := by
  simp only [callProtocol, hprotocol] at h
  obtain ⟨⟨status, connection1, state1⟩, hrequest, rfl⟩ := Option.map_eq_some_iff.mp h
  have hhandles := ProtocolVersion.request_handles hrequest
  have htaken : Session.TxReady ({ connection with protocol := none }, state) :=
    ⟨hready.connection, hready.state, hready.drained⟩
  obtain ⟨n, hn, hready', hid, hcounter, hbuffer, hfailure, -⟩ := hhandles.counts htaken
  have hconnection := hhandles.connection
  dsimp only at hconnection hn hid hcounter hbuffer hfailure
  rw [hnone, List.length_nil, Nat.le_zero] at hn
  subst hn
  have hreset : request.isReset = false := by
    cases request with
    | loadResetRequest => cases hnone
    | _ => rfl
  refine ⟨⟨by rw [hconnection], by rw [hconnection], version, state, state1, hprotocol, rfl,
    ⟨hready'.connection, hready'.state, hready'.drained⟩, hid, hcounter, hbuffer⟩, ?_⟩
  rw [failure, failure, hprotocol, Option.bind_some, Option.bind_some, hfailure, if_neg]
  rintro ⟨h, -⟩
  rw [hreset] at h
  cases h

theorem send_loads (hprotocol : connection.protocol = some ⟨version, state⟩)
    (hready : Session.TxReady (connection, state)) :
    Loads 0 connection connection.send.2 ∧ connection.send.2.failure = connection.failure ∧
      connection.send.2.tx_buffer.content = [] := by
  obtain ⟨-, -, -, hincoming, -⟩ := send_outgoing hready.connection
  obtain ⟨hwf, hempty⟩ := send_tx hready.connection
  have hprotocol' : connection.send.2.protocol = some ⟨version, state⟩ := by
    rw [send_same, hprotocol]
  refine ⟨⟨hincoming, by rw [send_same], version, state, state, hprotocol, hprotocol',
    ⟨hwf, hready.state, hready.drained⟩, rfl, rfl, rfl⟩, ?_, hempty⟩
  rw [failure, failure, hprotocol, hprotocol']

end BoltConnection

/-! ## The stream of the server -/

theorem carries_more {check : CheckStructSignature} {items : List (Option BoltMessage)}
    {stream rest : List UInt8} (h : Carries check items stream rest) (more : List UInt8) :
    Carries check items (stream ++ more) (rest ++ more) := by
  induction h with
  | nil rest => exact .nil _
  | @cons item items chunks stream stream' rest hstarts hitem _ ih =>
    have hstarts' : StartsWith chunks (stream ++ more) (stream' ++ more) := by
      refine ⟨hstarts.1, ?_⟩
      rw [hstarts.2, List.append_assoc]
    exact .cons hstarts' hitem ih

theorem carries_append {check : CheckStructSignature} {items items' : List (Option BoltMessage)}
    {stream middle rest : List UInt8} (h : Carries check items stream middle)
    (h' : Carries check items' middle rest) : Carries check (items ++ items') stream rest := by
  induction h with
  | nil rest => exact h'
  | cons hstarts hitem _ ih => exact .cons hstarts hitem (ih h')

variable {connection connection' : BoltConnection} {position : Position}

/-- More responses come behind those that have not been read. -/
theorem Aligned.hears (h : Aligned position connection) {responses : List Response}
    {bytes : List UInt8}
    (hcarries : ∀ version state, connection.protocol = some ⟨version, state⟩ →
      Carries version.checkReadableStruct ((responses.flatMap Response.messages).map some)
        bytes []) :
    Aligned { position with responses := position.responses ++ responses }
      (connection.hears bytes) := by
  obtain ⟨hwf, protocol, hprotocol, hcounter, hbuffer, hempty, hpending⟩ := h
  refine ⟨hwf, protocol, hprotocol, hcounter, hbuffer, hempty, ?_⟩
  have hmore := carries_append (carries_more hpending bytes) (hcarries _ _ hprotocol)
  rw [BoltConnection.pending, List.append_assoc] at hmore
  rw [Position.messages, List.flatMap_append, List.map_append]
  exact hmore

theorem Aligned.loads (h : Aligned position connection) {n : Nat}
    (hloads : Loads n connection connection') : Aligned position connection' := by
  obtain ⟨hwf, protocol, hprotocol, hcounter, hbuffer, hempty, hpending⟩ := h
  obtain ⟨version, state, state', hprotocol1, hprotocol', -, -, hcounter', hbuffer'⟩ :=
    hloads.protocol
  obtain rfl := Option.some.inj (hprotocol.symm.trans hprotocol1)
  refine ⟨hloads.rx_buffer ▸ hwf, ⟨version, state'⟩, hprotocol', hcounter'.trans hcounter,
    hbuffer' ▸ hbuffer, hbuffer' ▸ hempty, ?_⟩
  rw [BoltConnection.pending, hloads.rx_buffer, hloads.incoming]
  exact hpending

/-! ## Releasing the connection -/

theorem release_length {pool pool' : BoltDirectPool} {entry : Option Nat} {result : Int}
    (h : pool.release entry = some (result, pool')) :
    pool'.connections.length = pool.connections.length := by
  unfold BoltDirectPool.release at h
  split at h
  · obtain ⟨pool1, hrecycle, hresult⟩ := Option.map_eq_some_iff.mp h
    obtain ⟨-, rfl⟩ := Prod.mk.inj hresult
    obtain ⟨-, -, -, -, -, c', -, -, -, -, -, rfl⟩ := BoltDirectPool.recycle_cases hrecycle
    exact List.length_set
  · obtain ⟨-, rfl⟩ := Prod.mk.inj (Option.some.inj h)
    rfl

/-- A release that leaves the connection ready has sent a RESET behind everything that was
loaded, and has read the summary of the RESET. -/
theorem release_reads {pool pool' : BoltDirectPool} {index : Nat} {result : Int}
    {version : ProtocolVersion} {state : BoltProtocolState}
    (hprotocol : connection.protocol = some ⟨version, state⟩)
    (hready : Session.TxReady (connection, state))
    (hentry : pool.connections[index]? = some connection)
    (h : pool.release (some index) = some (result, pool'))
    (hentry' : pool'.connections[index]? = some connection')
    (hstate : connection'.status.state = .ready) :
    ∃ sent records, Loads 1 connection sent ∧ sent.failure = none ∧ sent.tx_buffer.content = [] ∧
      sent.fetchSummary state.next_request_id = some (records, connection') ∧ 0 ≤ records ∧
      connection'.lastCode = some BOLT_V1_SUCCESS := by
  obtain ⟨hlt, -⟩ := List.getElem?_eq_some_iff.mp hentry
  have hfound : pool.findConnection (some index) = some index := by
    simp [BoltDirectPool.findConnection, hlt]
  simp only [BoltDirectPool.release, hfound] at h
  obtain ⟨pool1, hrecycle, hresult⟩ := Option.map_eq_some_iff.mp h
  obtain ⟨-, rfl⟩ := Prod.mk.inj hresult
  obtain ⟨c, c1, c2, c3, done, c', hc, hrun, hbegin, hreset, hleft, rfl⟩ :=
    BoltDirectPool.recycle_cases hrecycle
  obtain rfl := Option.some.inj (hentry.symm.trans hc)
  have hkept : (pool.connections.set index c')[index]? = some connection' := hentry'
  rw [List.getElem?_set_self hlt] at hkept
  obtain rfl := Option.some.inj hkept
  have hreset : c2.reset = some (0, c') := by
    rcases hleft with ⟨rfl, rfl⟩ | ⟨-, -, hclose⟩ | ⟨-, hclosed, rfl⟩
    · exact hreset
    · rw [BoltConnection.close_disconnected hclose] at hstate
      cases hstate
    · rw [hclosed] at hstate
      cases hstate
  have hready0 : Session.TxReady ({ connection with agent := false }, state) :=
    ⟨hready.connection, hready.state, hready.drained⟩
  have hfree : Loads 0 connection { connection with agent := false } :=
    ⟨rfl, rfl, version, state, state, hprotocol, hprotocol, hready0, rfl, rfl, rfl⟩
  obtain ⟨hloads1, -⟩ := @BoltConnection.callProtocol_loads { connection with agent := false } c1
    version state .clearRun hprotocol hready0 rfl hrun
  obtain ⟨version1, -, state1, -, hprotocol1, hready1, -⟩ := hloads1.protocol
  obtain ⟨hloads2, -⟩ := BoltConnection.callProtocol_loads hprotocol1 hready1 rfl hbegin
  obtain ⟨version2, -, state2, -, hprotocol2, hready2, -⟩ := hloads2.protocol
  obtain ⟨status, loaded, hload, hcase⟩ := BoltConnection.reset_cases hreset
  obtain ⟨n, hloads3, hone, hfailure⟩ := BoltConnection.request_loads hprotocol2 hready2 hload
  rcases hcase with ⟨-, hfailed, -⟩ | ⟨rfl, request_id, records, hlast, hcase⟩
  · exact absurd hfailed (by decide)
  have hone : n = 1 := hone rfl
  subst hone
  obtain ⟨version3, -, state3, -, hprotocol3, hready3, -⟩ := hloads3.protocol
  obtain ⟨hloads4, hfailure4, hempty⟩ := BoltConnection.send_loads hprotocol3 hready3
  have hloads : Loads 1 connection loaded.send.2 :=
    (((hfree.trans hloads1).trans hloads2).trans hloads3).trans hloads4
  rcases hcase with ⟨-, hfailed, -⟩ | ⟨hfetch, hresult⟩
  · exact absurd hfailed (by decide)
  split_ifs at hresult with hdone
  obtain ⟨hrecords, hsuccess⟩ := hdone
  have hrequest : request_id = state.next_request_id := by
    obtain ⟨version4, state0, state4, hprotocol0, hprotocol4, -, hid, -⟩ := hloads.protocol
    obtain ⟨rfl, rfl⟩ := BoltProtocol.mk.inj (Option.some.inj (hprotocol.symm.trans hprotocol0))
    rw [BoltConnection.send_same] at hprotocol4
    have hprotocol4 : loaded.protocol = some ⟨version, state4⟩ := hprotocol4
    rw [BoltConnection.lastRequest, hprotocol4, Option.map_some, Option.some.injEq, hid] at hlast
    exact hlast.symm
  subst hrequest
  refine ⟨loaded.send.2, records, hloads, ?_, hempty, hfetch, not_lt.mp hrecords,
    BoltConnection.isSummary_iff.mp hsuccess⟩
  rw [hfailure4, hfailure, if_pos ⟨rfl, rfl⟩]

/-! ## The invariant -/

/-- The connection has nothing to send and nothing to receive, and no failure data. -/
def BoltConnection.Rested (connection : BoltConnection) : Prop :=
  ∃ version state, connection.protocol = some ⟨version, state⟩ ∧
    Session.TxReady (connection, state) ∧ state.response_counter = state.next_request_id ∧
    (connection.rx_buffer.Wf ∧ state.rx_buffer.Wf) ∧ connection.pending = [] ∧
    state.rx_buffer.content = [] ∧ state.failure_data = none

namespace Conversation

/-- The connection is where the position says, the ids behind the position are those of
the requests, and what the server has sent for them conforms. -/
structure Coherent (conversation : Conversation) : Prop where
  aligned : Aligned conversation.position conversation.connection
  sending : ∃ version state, conversation.connection.protocol = some ⟨version, state⟩ ∧
    Session.TxReady (conversation.connection, state) ∧
    state.next_request_id = conversation.position.counter + conversation.requests.length
  conforms : Conforming conversation.failed conversation.requests conversation.position.summaries

variable {conversation conversation' : Conversation}

theorem coherent_start (h : connection.Rested) : (start connection).Coherent := by
  obtain ⟨version, state, hprotocol, hready, hcounter, hwf, hpending, hempty, -⟩ := h
  have hnext : connection.nextRequest = state.next_request_id := by
    rw [BoltConnection.nextRequest, hprotocol]
    rfl
  refine ⟨⟨hwf.1, ⟨version, state⟩, hprotocol, ?_, hwf.2, hempty, ?_⟩,
    ⟨version, state, hprotocol, hready, ?_⟩, trivial⟩
  · rw [hcounter, ← hnext]
    rfl
  · show Seabolt.Carries _ [] connection.pending []
    rw [hpending]
    exact .nil []
  · rw [← hnext]
    rfl

/-- Messages are loaded for more requests. -/
theorem Coherent.loads (h : conversation.Coherent) {more : List Bool}
    (hloads : Loads more.length conversation.connection connection) (reset : Bool) :
    Coherent { conversation with
      connection := connection
      requests := conversation.requests ++ more
      reset := reset } := by
  obtain ⟨version, state, hprotocol, -, hnext⟩ := h.sending
  obtain ⟨version', state0, state', hprotocol0, hprotocol', hready, hid, -⟩ := hloads.protocol
  obtain ⟨rfl, rfl⟩ := BoltProtocol.mk.inj (Option.some.inj (hprotocol.symm.trans hprotocol0))
  refine ⟨h.aligned.loads hloads, ⟨version, state', hprotocol', hready, ?_⟩,
    Conforming.more more h.conforms⟩
  rw [hid, hnext, List.length_append, Nat.add_assoc]

/-- The server sends what conforms to the requests. -/
theorem Coherent.answered (h : conversation.Coherent) {responses : List Response}
    {bytes : List UInt8}
    (hconforms : Conforming conversation.failed conversation.requests
      (conversation.position.summaries ++ responses.map Response.summary))
    (hcarries : conversation.Carries responses bytes) :
    (conversation.answered responses bytes).Coherent := by
  obtain ⟨version, state, hprotocol, hready, hnext⟩ := h.sending
  refine ⟨h.aligned.hears hcarries, ⟨version, state, hprotocol, ?_, hnext⟩, ?_⟩
  · exact ⟨hready.connection, hready.state, hready.drained⟩
  · show Conforming _ _ (List.map Response.summary _)
    rw [Conversation.answered, List.map_append]
    exact hconforms

/-- Responses are read. -/
theorem Coherent.read (h : conversation.Coherent)
    (hadvances : Advances conversation.position position conversation.connection connection) :
    (conversation.read position connection).Coherent := by
  obtain ⟨version, state, hprotocol, hready, hnext⟩ := h.sending
  obtain ⟨htx, version', state0, state', hprotocol0, hprotocol', hbuffer, hid⟩ := hadvances.keeps
  obtain ⟨rfl, rfl⟩ := BoltProtocol.mk.inj (Option.some.inj (hprotocol.symm.trans hprotocol0))
  have hlength := h.conforms.length_le
  have hwithin := hadvances.within
  have hahead := hadvances.ahead
  refine ⟨hadvances.aligned, ⟨version, state', hprotocol', ⟨?_, ?_, ?_⟩, ?_⟩, ?_⟩
  · show connection.tx_buffer.Wf
    rw [htx]
    exact hready.connection
  · show state'.tx_buffer.Wf
    rw [hbuffer]
    exact hready.state
  · show state'.tx_buffer.content = []
    rw [hbuffer]
    exact hready.drained
  · show state'.next_request_id = position.counter + (List.drop _ conversation.requests).length
    rw [hid, hnext, List.length_drop]
    omega
  · have hsplit := List.take_append_drop (position.counter - conversation.position.counter)
      conversation.position.summaries
    have hconforms := h.conforms
    rw [← hsplit] at hconforms
    have hrest := Conforming.afterAll _ hconforms
    rw [List.length_take, Nat.min_eq_left hwithin, ← hadvances.unread] at hrest
    exact hrest

/-- What a fetch of the conversation does. -/
theorem Coherent.fetch (h : conversation.Coherent) {request : Nat} {result : Int}
    (hstep : step (.fetch request) conversation = some (result, conversation')) :
    conversation' =
      conversation.read (conversation.position.fetched request) conversation'.connection ∧
    Advances conversation.position (conversation.position.fetched request)
      conversation.connection conversation'.connection ∧
    (result = FETCH_RECORD ∧
        conversation'.connection.status = conversation.connection.status ∨
      result = FETCH_SUMMARY ∧ Concludes conversation.position
        (conversation.position.fetched request) conversation.connection
        conversation'.connection) := by
  obtain ⟨⟨fetched, connection⟩, hfetch, hresult⟩ := Option.bind_eq_some_iff.mp hstep
  dsimp only at hresult
  split_ifs at hresult with herror
  obtain ⟨rfl, rfl⟩ := Prod.mk.inj (Option.some.inj hresult)
  rcases h.aligned.fetch hfetch with hlost | ⟨reply, position', hposition, -, hadvances, hcase⟩
  · exact absurd hlost herror
  have hfetched : conversation.position.fetched request = position' := by
    rw [Position.fetched, hposition]
    rfl
  rw [hfetched]
  exact ⟨rfl, hadvances, hcase⟩

/-- What a release of the conversation does: the RESET is behind all other requests, and
everything is read up to its summary. -/
theorem Coherent.release (h : conversation.Coherent) {pool : BoltDirectPool} {index : Nat}
    {responses : List Response} {bytes : List UInt8} {result : Int}
    (hconforms : Turn.Conforms (.release pool index responses bytes) conversation)
    (hstep : step (.release pool index responses bytes) conversation =
      some (result, conversation')) :
    ∃ sent : Conversation, sent.Coherent ∧
      sent.toNotes = { conversation.toNotes with reset := true } ∧
      sent.requests = conversation.requests ++ [true] ∧
      sent.position.summaries =
        conversation.position.summaries ++ responses.map Response.summary ∧
      sent.connection.failure = none ∧ sent.connection.tx_buffer.content = [] ∧
      conversation'.position.responses = [] ∧ conversation'.requests = [] ∧
      conversation' = sent.read conversation'.position conversation'.connection ∧
      Advances sent.position conversation'.position sent.connection conversation'.connection ∧
      Concludes sent.position conversation'.position sent.connection conversation'.connection ∧
      conversation'.connection.lastCode = some BOLT_V1_SUCCESS := by
  obtain ⟨version, state, hprotocol, hready, hnext⟩ := h.sending
  obtain ⟨⟨released, pool'⟩, hrelease, hkept⟩ := Option.bind_eq_some_iff.mp hstep
  obtain ⟨connection, hentry', hresult⟩ := Option.bind_eq_some_iff.mp hkept
  dsimp only at hresult
  split_ifs at hresult with hstate
  obtain ⟨-, rfl⟩ := Prod.mk.inj (Option.some.inj hresult)
  have hlt : index < pool.connections.length := by
    obtain ⟨hlt, -⟩ := List.getElem?_eq_some_iff.mp hentry'
    rw [release_length hrelease] at hlt
    exact lt_of_lt_of_eq hlt List.length_set
  have hentry : (pool.connections.set index (conversation.connection.hears bytes))[index]? =
      some (conversation.connection.hears bytes) := List.getElem?_set_self hlt
  have hheard : (conversation.connection.hears bytes).protocol = some ⟨version, state⟩ := hprotocol
  have hready0 : Session.TxReady (conversation.connection.hears bytes, state) :=
    ⟨hready.connection, hready.state, hready.drained⟩
  obtain ⟨sent, records, hloads, hfailure, hempty, hfetch, hrecords, hcode⟩ :=
    release_reads hheard hready0 hentry hrelease hentry' hstate
  have haligned := (h.aligned.hears hconforms.2).loads hloads
  obtain ⟨version', state0, state', hprotocol0, hprotocol', hready', hid, -⟩ := hloads.protocol
  obtain ⟨rfl, rfl⟩ := BoltProtocol.mk.inj (Option.some.inj (hprotocol.symm.trans hprotocol0))
  rcases haligned.fetchSummary hfetch with hneg | ⟨responses', -, hadvances, hconcludes⟩
  · exact absurd hneg (not_lt.mpr hrecords)
  have hsummaries : Position.summaries { conversation.position with
      responses := conversation.position.responses ++ responses } =
      conversation.position.summaries ++ responses.map Response.summary := List.map_append
  obtain rfl : responses' = [] := by
    have hlength := hconforms.1.length_le
    have hunread := congrArg List.length hadvances.unread
    rw [hsummaries, hnext] at hunread
    simp only [Position.summaries, List.length_drop, List.length_append, List.length_map,
      List.length_singleton] at hlength hunread
    apply List.eq_nil_of_length_eq_zero
    omega
  rw [hnext] at hadvances hconcludes
  refine ⟨{ conversation with
      connection := sent
      position := { conversation.position with
        responses := conversation.position.responses ++ responses }
      requests := conversation.requests ++ [true]
      reset := true }, ⟨haligned, ⟨version, state', hprotocol', hready', ?_⟩, ?_⟩, rfl, rfl,
    hsummaries, hfailure, hempty, rfl, ?_, rfl, hadvances, hconcludes, hcode⟩
  · rw [hid, hnext, List.length_append, List.length_singleton, Nat.add_assoc]
  · rw [hsummaries]
    exact hconforms.1
  · show List.drop _ (conversation.requests ++ [true]) = []
    apply List.drop_eq_nil_of_le
    rw [List.length_append, List.length_singleton]
    show _ ≤ conversation.position.counter + conversation.requests.length + 1 -
      conversation.position.counter
    omega

/-- The ids that a request takes are those of what it loads. -/
theorem Coherent.request (h : conversation.Coherent) {request : Request} {result : Int}
    (hstep : step (.request request) conversation = some (result, conversation')) :
    ∃ n, Loads n conversation.connection conversation'.connection ∧
      conversation' = { conversation with
        connection := conversation'.connection
        requests := conversation.requests ++ List.replicate n request.isReset
        reset := conversation.reset || (List.replicate n request.isReset).contains true } ∧
      (request.isReset = true → n = if result = BOLT_SUCCESS then 1 else 0) ∧
      conversation'.connection.failure = if request.isReset ∧ result = BOLT_SUCCESS then none
        else conversation.connection.failure := by
  obtain ⟨version, state, hprotocol, hready, -⟩ := h.sending
  obtain ⟨⟨result', connection⟩, hrequest, hresult⟩ := Option.map_eq_some_iff.mp hstep
  obtain ⟨rfl, rfl⟩ := Prod.mk.inj hresult
  obtain ⟨n, hloads, hreset, hfailure⟩ :=
    BoltConnection.request_loads hprotocol hready hrequest
  have hcount : connection.nextRequest - conversation.connection.nextRequest = n := by
    obtain ⟨version', state0, state', hprotocol0, hprotocol', -, hid, -⟩ := hloads.protocol
    rw [BoltConnection.nextRequest, BoltConnection.nextRequest, hprotocol0, hprotocol']
    show state'.next_request_id - state0.next_request_id = n
    omega
  refine ⟨n, hloads, ?_, hreset, hfailure⟩
  rw [loaded, hcount]

/-- Every turn keeps the invariant. -/
theorem Coherent.step (h : conversation.Coherent) {turn : Turn} {result : Int}
    (hconforms : turn.Conforms conversation)
    (hstep : step turn conversation = some (result, conversation')) : conversation'.Coherent := by
  obtain ⟨version, state, hprotocol, hready, -⟩ := h.sending
  cases turn with
  | request request =>
    obtain ⟨n, hloads, heq, -⟩ := h.request hstep
    rw [heq]
    refine h.loads ?_ _
    rwa [List.length_replicate]
  | send =>
    simp only [Conversation.step] at hstep
    split_ifs at hstep
    obtain ⟨-, rfl⟩ := Prod.mk.inj (Option.some.inj hstep)
    have hloads : Loads ([] : List Bool).length conversation.connection
        conversation.connection.send.2 := (BoltConnection.send_loads hprotocol hready).1
    have hsent := h.loads hloads conversation.reset
    rwa [List.append_nil] at hsent
  | answer response bytes =>
    obtain ⟨-, rfl⟩ := Prod.mk.inj (Option.some.inj hstep)
    exact h.answered hconforms.1 hconforms.2
  | fetch request =>
    obtain ⟨heq, hadvances, -⟩ := h.fetch hstep
    rw [heq]
    exact h.read hadvances
  | release pool index responses bytes =>
    obtain ⟨sent, hsent, -, -, -, -, -, -, -, heq, hadvances, -⟩ := h.release hconforms hstep
    rw [heq]
    exact hsent.read hadvances
  | acquire =>
    obtain ⟨-, rfl⟩ := Prod.mk.inj (Option.some.inj hstep)
    have hloads : Loads ([] : List Bool).length conversation.connection
        { conversation.connection with agent := true } :=
      ⟨rfl, rfl, version, state, state, hprotocol, hprotocol,
        ⟨hready.connection, hready.state, hready.drained⟩, rfl, rfl, rfl⟩
    have hheld := h.loads hloads conversation.reset
    rwa [List.append_nil] at hheld

end Conversation

/-! ## Recycled connections -/

/-- Every response has been read, no byte is left in a buffer, and none is on its way. -/
def BoltConnection.Drained (connection : BoltConnection) : Prop :=
  ∃ version state, connection.protocol = some ⟨version, state⟩ ∧
    state.response_counter = state.next_request_id ∧
    connection.tx_buffer.unloadable = 0 ∧ connection.rx_buffer.unloadable = 0 ∧
    state.tx_buffer.unloadable = 0 ∧ state.rx_buffer.unloadable = 0 ∧
    connection.comm.incoming = []

namespace Conversation

variable {conversation conversation' : Conversation}

/-- A conversation in which everything has been sent and read. -/
theorem Coherent.drained (h : conversation.Coherent)
    (hresponses : conversation.position.responses = [])
    (hrequests : conversation.requests = [])
    (hempty : conversation.connection.tx_buffer.content = []) :
    conversation.connection.Drained := by
  obtain ⟨version, state, hprotocol, hready, hnext⟩ := h.sending
  obtain ⟨hwf, protocol, hprotocol', hcounter, hbuffer, hcontent, hcarries⟩ := h.aligned
  obtain rfl := Option.some.inj (hprotocol.symm.trans hprotocol')
  have hpending : conversation.connection.pending = [] := by
    rw [Position.messages, hresponses] at hcarries
    exact carries_nil hcarries
  obtain ⟨hrx, hincoming⟩ := List.append_eq_nil_iff.mp hpending
  have hzero : ∀ {buffer : BoltBuffer}, buffer.Wf → buffer.content = [] →
      buffer.unloadable = 0 := by
    intro buffer hwf hempty
    rw [← hwf.length_content, hempty, List.length_nil]
  refine ⟨version, state, hprotocol, ?_, hzero hready.connection hempty, hzero hwf hrx,
    hzero hready.state hready.drained, hzero hbuffer hcontent, hincoming⟩
  rw [hnext, hrequests]
  exact hcounter

/-- A release that leaves the connection ready leaves nothing of its user in it, whatever
the user has done, and whoever has used the connection before. -/
theorem released_drained (connection : BoltConnection) (turns : List Turn)
    (hrested : connection.Rested) (results : List Int) (final : Conversation)
    (hrun : Runs.run step turns (start connection) = some (results, final))
    (hconforms : Runs.Admissible step Turn.Conforms turns (start connection)) :
    Runs.Meets step (fun turn _ _ conversation' =>
        turn.isRelease = true → conversation'.connection.Drained) turns (start connection) := by
  refine Runs.meets_of_run ?_ turns (coherent_start hrested) hconforms hrun
  intro turn conversation result conversation' h hturn hstep
  have hcoherent := h.step hturn hstep
  refine ⟨fun hrelease => ?_, hcoherent⟩
  cases turn with
  | release pool index responses bytes =>
    obtain ⟨sent, -, -, -, -, -, hempty, hresponses, hrequests, -, hadvances, -⟩ :=
      h.release hturn hstep
    refine hcoherent.drained hresponses hrequests ?_
    rw [hadvances.keeps.tx_buffer, hempty]
  | _ => cases hrelease

end Conversation

/-! ## A connection with two users -/

/-- A connection that has exchanged nothing but the handshake owes nothing. -/
theorem rested_idle (version : ProtocolVersion) : (idle version).Rested := by
  have hready : Session.TxReady (idle version, (BoltProtocol.create version).state) := by
    cases version <;>
      exact ⟨BoltBuffer.wf_create _, BoltBuffer.wf_create _, BoltBuffer.content_create _⟩
  have hrx : (BoltProtocol.create version).state.rx_buffer.Wf ∧
      (BoltProtocol.create version).state.rx_buffer.content = [] := by
    cases version <;> exact ⟨BoltBuffer.wf_create _, BoltBuffer.content_create _⟩
  refine ⟨version, (BoltProtocol.create version).state, ?_, hready, ?_,
    ⟨BoltBuffer.wf_create _, hrx.1⟩, ?_, hrx.2, ?_⟩ <;> cases version <;> rfl

/-- The bytes of a response with empty records. -/
def emptyRecordBytes (n : Nat) : List UInt8 := frames ((emptyRecordPayloads n).map chunksOf)

theorem carries_emptyRecords (check : CheckStructSignature) (n : Nat) :
    Carries check ((emptyRecords n).messages.map some) (emptyRecordBytes n) [] := by
  have hcarries := carries_frames (encodes_emptyRecords check n) []
  rwa [List.append_nil] at hcarries

namespace Conversation

theorem carries_one (n : Nat) (conversation : Conversation) :
    conversation.Carries [emptyRecords n] (emptyRecordBytes n) := by
  intro version state _
  rw [List.flatMap_singleton]
  exact carries_emptyRecords _ n

/-- The first user leaves a result half read and a RUN that is not sent. -/
def handover : List Turn :=
  [.request .loadRunRequest, .request (.loadPullRequest (-1)), .send,
    .answer (emptyRecords 0) (emptyRecordBytes 0), .answer (emptyRecords 2) (emptyRecordBytes 2),
    .fetch 1, .request .loadRunRequest,
    .release (.create [] 0 0 .null 1) 0 [emptyRecords 0, emptyRecords 0]
      (emptyRecordBytes 0 ++ emptyRecordBytes 0),
    .acquire, .request .loadRunRequest, .send, .answer (emptyRecords 0) (emptyRecordBytes 0),
    .fetch 4]

theorem handover_framed : ∀ turn ∈ handover, ∀ conversation, turn.Framed conversation := by
  rw [handover]
  simp only [List.forall_mem_cons]
  refine ⟨fun _ => trivial, fun _ => trivial, fun _ => trivial, carries_one 0, carries_one 2,
    fun _ => trivial, fun _ => trivial, ?_, fun _ => trivial, fun _ => trivial, fun _ => trivial,
    carries_one 0, fun _ => trivial, nofun⟩
  intro conversation version state hprotocol
  have hone := conversation.carries_one 0 version state hprotocol
  exact carries_append (carries_more hone (emptyRecordBytes 0)) hone

theorem released_drained_handover :
    Runs.Meets step (fun turn _ _ conversation' =>
        turn.isRelease = true → conversation'.connection.Drained) handover (start (idle .v1)) := by
  have hrun : (Runs.run step handover (start (idle .v1))).isSome := by decide +kernel
  obtain ⟨⟨results, final⟩, hrun⟩ := Option.isSome_iff_exists.mp hrun
  have horder : Runs.Admissible step Turn.InOrder handover (start (idle .v1)) := by decide +kernel
  exact released_drained (idle .v1) handover (rested_idle .v1) results final hrun
    (horder.and _ (Runs.admissible_of_mem handover handover_framed _))

end Conversation

end Seabolt
