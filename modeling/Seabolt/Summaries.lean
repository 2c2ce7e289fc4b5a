import Seabolt.Correlation
import Seabolt.Failures

/-!
# Reading responses

What a call that reads responses does to the failure data and to the status of the
connection.  Every summary that is read takes part, also those of the responses that
are skipped: the failure data go through all of them, in order (`Gleans`), and the
status is what the last one makes of it.

The transport may fail.  A call over a transport that has failed returns an error,
and what has been received is no longer what the peer has sent.
-/

namespace Seabolt

open BoltValue PackStream

/-! ## The failure data behind a row of messages -/

/-- The failure data go through the messages, one after the other. -/
def Gleans : List BoltMessage → Option BoltValue → Option BoltValue → Prop
  | [], data, data' => data' = data
  | message :: messages, data, data' =>
    ∃ middle, Collects message.code (metadataOf (list message.fields)) data middle ∧
      Gleans messages middle data'

theorem gleans_append (first second : List BoltMessage) :
    ∀ {data data' : Option BoltValue}, Gleans (first ++ second) data data' ↔
      ∃ middle, Gleans first data middle ∧ Gleans second middle data' := by
  induction first with
  | nil =>
    intro data data'
    constructor
    · exact fun h => ⟨data, rfl, h⟩
    · rintro ⟨middle, rfl, h⟩
      exact h
  | cons message first ih =>
    intro data data'
    constructor
    · rintro ⟨middle, hcollects, hrest⟩
      obtain ⟨last, hfirst, hsecond⟩ := ih.mp hrest
      exact ⟨last, ⟨middle, hcollects, hfirst⟩, hsecond⟩
    · rintro ⟨last, ⟨middle, hcollects, hfirst⟩, hsecond⟩
      exact ⟨middle, hcollects, ih.mpr ⟨last, hfirst, hsecond⟩⟩

/-- Messages that are no FAILURE leave the failure data alone. -/
theorem Gleans.same {messages : List BoltMessage}
    (hcodes : ∀ m ∈ messages, m.code ≠ BOLT_V1_FAILURE) :
    ∀ {data data' : Option BoltValue}, Gleans messages data data' → data' = data := by
  induction messages with
  | nil => exact fun h => h
  | cons message messages ih =>
    rintro data data' ⟨middle, hcollects, hrest⟩
    obtain ⟨hmessage, hmessages⟩ := List.forall_mem_cons.mp hcodes
    rw [ih hmessages hrest, hcollects.other hmessage]

/-- The records of a response are none of it. -/
theorem gleans_messages (response : Response) {data data' : Option BoltValue} :
    Gleans response.messages data data' ↔ Gleans [response.summary] data data' := by
  have hrecord : BOLT_V1_RECORD ≠ BOLT_V1_FAILURE := by decide
  rw [Response.messages, gleans_append]
  constructor
  · rintro ⟨middle, hrecords, hsummary⟩
    have hsame := hrecords.same (by
      intro m hm
      obtain ⟨fields, -, rfl⟩ := List.mem_map.mp hm
      exact hrecord)
    rwa [hsame] at hsummary
  · intro hsummary
    refine ⟨data, ?_, hsummary⟩
    induction response.records with
    | nil => rfl
    | cons fields records ih => exact ⟨data, ⟨fun h => absurd h hrecord, fun _ => rfl⟩, ih⟩

/-- The failure data go through the summaries of the responses. -/
theorem gleans_responses (responses : List Response) :
    ∀ {data data' : Option BoltValue}, Gleans (responses.flatMap Response.messages) data data' ↔
      Gleans (responses.map Response.summary) data data' := by
  induction responses with
  | nil => exact Iff.rfl
  | cons response responses ih =>
    intro data data'
    rw [List.flatMap_cons, gleans_append, List.map_cons, ← List.singleton_append, gleans_append]
    exact exists_congr fun middle => and_congr (gleans_messages response) ih

/-- The Strings that a FAILURE has under `code` and `message`. -/
def Conveys (message : BoltMessage) (code text : List UInt8) : Prop :=
  lastString FAILURE_CODE_KEY (metadataOf (list message.fields)) = some code ∧
    lastString FAILURE_MESSAGE_KEY (metadataOf (list message.fields)) = some text

/-- A FAILURE with a code and a message replaces both. -/
theorem Collects.conveys {message : BoltMessage} {code text : List UInt8}
    {data data' : Option BoltValue}
    (h : Collects message.code (metadataOf (list message.fields)) data data')
    (hfailure : message.code = BOLT_V1_FAILURE) (hconveys : Conveys message code text)
    (hexplained : ∃ code message, ensureFailureData data = failureData code message) :
    data' = some (failureData (string code) (string text)) := by
  obtain ⟨code0, text0, hdata⟩ := hexplained
  have hgathers := h.failure hfailure
  have hensured := hgathers.ensured code0 text0 hdata
  have hsome := hgathers.isSome
  rw [hconveys.1, hconveys.2] at hensured hsome
  rw [Option.isSome_some, Bool.or_true, Bool.true_or, Option.isSome_iff_exists] at hsome
  obtain ⟨data1, rfl⟩ := hsome
  exact congrArg some hensured

/-- The loop of `fetch` over messages takes those that it reads from the front, and
changes nothing of the connection but the garbage. -/
theorem fetchItems_gleans {version : ProtocolVersion} {request : Nat}
    (messages : List BoltMessage) :
    ∀ {session session' : Session} {result : Int} {items : List (Option BoltMessage)},
      fetchItems version.fetchFunctions request (messages.map some) session =
        some (some result, session', items) →
      ∃ read, messages.map some = read.map some ++ items ∧
        Gleans read session.2.failure_data session'.2.failure_data ∧
        session'.1 = { session.1 with garbage := session'.1.garbage } := by
  induction messages with
  | nil =>
    intro session session' result items h
    cases h
  | cons message messages ih =>
    intro session session' result items h
    simp only [List.map_cons, fetchItems] at h
    rcases hround : itemRound version.fetchFunctions request (some message) session with _ | round
    · rw [hround] at h
      cases h
    have hread := finishRound_outcome hround
    have hcollects : Collects message.code (metadataOf (list message.fields))
        session.2.failure_data round.outcome.2.2.failure_data := by
      have hcollected := readSummary_collects hread
      simpa only [decoded, countRecord_eq] using hcollected
    have hsame := (readSummary_same hread).1
    rw [hround] at h
    cases round with
    | again session1 =>
      obtain ⟨read, hitems, hgleans, hrest⟩ := ih h
      dsimp only [Round.outcome] at hcollects hsame
      refine ⟨message :: read, ?_, ⟨_, hcollects, hgleans⟩, by rw [hrest, hsame]⟩
      exact congrArg (some message :: ·) hitems
    | done fetched session1 =>
      simp only [Option.some.injEq, Prod.mk.injEq] at h
      obtain ⟨-, rfl, rfl⟩ := h
      exact ⟨[message], rfl, ⟨_, hcollects, rfl⟩, hsame⟩

/-! ## The connection -/

/-- The connection is where the position says. -/
structure Aligned (position : Position) (connection : BoltConnection) : Prop where
  wf : connection.rx_buffer.Wf
  protocol : ∃ protocol, connection.protocol = some protocol ∧
    protocol.state.response_counter = position.counter ∧ protocol.state.rx_buffer.Wf ∧
    protocol.state.rx_buffer.content = [] ∧
    Carries protocol.version.checkReadableStruct (position.messages.map some) connection.pending []

/-- What a call leaves alone that reads responses: the version, the ids and everything
that is to be sent. -/
structure KeepsSending (connection connection' : BoltConnection) : Prop where
  tx_buffer : connection'.tx_buffer = connection.tx_buffer
  protocol : ∃ version state state', connection.protocol = some ⟨version, state⟩ ∧
    connection'.protocol = some ⟨version, state'⟩ ∧ state'.tx_buffer = state.tx_buffer ∧
    state'.next_request_id = state.next_request_id

/-- The status that a summary with this code leaves behind. -/
def statusAfter (code : Int16) (failed : Bool) (status : BoltStatus) : BoltStatus :=
  if code = BOLT_V1_SUCCESS then ⟨.ready, BOLT_SUCCESS⟩
  else if code = BOLT_V1_FAILURE ∨ failed = true then ⟨.failed, BOLT_SERVER_FAILURE⟩
  else status

variable {connection connection' : BoltConnection} {position : Position}

theorem KeepsSending.trans {middle : BoltConnection} (h : KeepsSending connection middle)
    (h' : KeepsSending middle connection') : KeepsSending connection connection' := by
  obtain ⟨htx, version, state, state1, hprotocol, hprotocol1, hbuffer, hid⟩ := h
  obtain ⟨htx', version', state1', state', hprotocol1', hprotocol', hbuffer', hid'⟩ := h'
  obtain ⟨rfl, rfl⟩ := BoltProtocol.mk.inj (Option.some.inj (hprotocol1.symm.trans hprotocol1'))
  exact ⟨htx'.trans htx, version, state, state', hprotocol, hprotocol', hbuffer'.trans hbuffer,
    hid'.trans hid⟩

namespace BoltConnection

theorem fetch_keepsSending {request : Nat} {result : Int}
    (h : connection.fetch request = some (result, connection')) :
    KeepsSending connection connection' := by
  rw [fetch_eq] at h
  obtain ⟨⟨fetched, connection1⟩, hfetch, hreported⟩ := Option.map_eq_some_iff.mp h
  obtain ⟨version, state, state', hprotocol, hprotocol', hsteady⟩ := protocolFetch_steady hfetch
  have hreported : reported fetched connection1 = (result, connection') := hreported
  have htransmit := congrArg BoltConnection.tx_buffer hsteady.connection.same
  have htx : connection1.tx_buffer = connection.tx_buffer := htransmit
  have hbuffers := congrArg BoltProtocolState.tx_buffer hsteady.state
  have hbuffer : state'.tx_buffer = state.tx_buffer := hbuffers
  have hids := congrArg BoltProtocolState.next_request_id hsteady.state
  have hid : state'.next_request_id = state.next_request_id := hids
  rcases reported_cases fetched connection1 with ⟨-, heq⟩ | ⟨-, -, heq⟩ | ⟨status, -, -, heq⟩
  · obtain ⟨-, rfl⟩ := Prod.mk.inj (heq.symm.trans hreported)
    exact ⟨htx, version, state, state', hprotocol, hprotocol', hbuffer, hid⟩
  · obtain ⟨-, rfl⟩ := Prod.mk.inj (heq.symm.trans hreported)
    exact ⟨htx, version, state, state', hprotocol, hprotocol', hbuffer, hid⟩
  · obtain ⟨-, rfl⟩ := Prod.mk.inj (heq.symm.trans hreported)
    rw [← setStatus_tx_buffer connection1 status.state status.error] at htx
    rw [← setStatus_protocol connection1 status.state status.error] at hprotocol'
    exact ⟨htx, version, state, state', hprotocol, hprotocol', hbuffer, hid⟩

/-- The status behind the loop: a record leaves it alone, and a summary of a known kind
does what `statusAfter` says. -/
theorem fetched_status (connection : BoltConnection) (state : BoltProtocolState) (loop : Int) :
    ((fetched loop connection state).1 = FETCH_RECORD →
      (fetched loop connection state).2.status = connection.status) ∧
    ((fetched loop connection state).1 = FETCH_SUMMARY → IsSummaryCode state.data_type →
      (fetched loop connection state).2.status =
        statusAfter state.data_type state.failure_data.isSome connection.status) := by
  have hrecord : FETCH_SUMMARY ≠ FETCH_RECORD := by decide
  have herror : FETCH_ERROR ≠ FETCH_RECORD := by decide
  have hignored : BOLT_V1_IGNORED ≠ BOLT_V1_SUCCESS := by decide
  have hfailure : BOLT_V1_FAILURE ≠ BOLT_V1_SUCCESS := by decide
  have hother : BOLT_V1_FAILURE ≠ BOLT_V1_IGNORED := by decide
  by_cases hloop : loop = FETCH_SUMMARY
  · rw [fetched, if_pos hloop]
    constructor
    · split_ifs <;> intro h
      all_goals first | exact absurd (hloop.symm.trans h) hrecord | exact absurd h herror
    · intro _ hknown
      rcases hknown with hcode | hcode | hcode
      · simp only [hcode, if_true, statusAfter, setStatus_status]
      · by_cases hdata : state.failure_data.isSome = true
        · simp only [hcode, hignored, if_false, if_true, hdata, statusAfter, hother.symm, false_or,
            setStatus_status]
        · simp only [hcode, hignored, if_false, if_true, hdata, statusAfter, hother.symm]
          rfl
      · simp only [hcode, hfailure, hother, if_false, if_true, statusAfter, true_or,
          setStatus_status]
  · rw [fetched, if_neg hloop]
    exact ⟨fun _ => rfl, fun h => absurd h hloop⟩

/-- What `BoltConnection_fetch` makes of the failure data and of the status, over the
messages of the stream. -/
theorem fetchItems_end {version : ProtocolVersion} {state : BoltProtocolState} {request : Nat}
    {messages : List BoltMessage} {items : List (Option BoltMessage)} {result : Int}
    (hprotocol : connection.protocol = some ⟨version, state⟩)
    (h : connection.fetchItems request (messages.map some) =
      some (some result, connection', items)) :
    ∃ read, messages.map some = read.map some ++ items ∧
      Gleans read connection.failure connection'.failure ∧
      (result = FETCH_RECORD → connection'.status = connection.status) ∧
      ∀ code, connection'.lastCode = some code → result = FETCH_SUMMARY → IsSummaryCode code →
        connection'.status = statusAfter code connection'.failure.isSome connection.status := by
  simp only [fetchItems, hprotocol, Option.map_eq_some_iff] at h
  obtain ⟨⟨result1, ⟨connection1, state1⟩, items1⟩, hloop, hresult⟩ := h
  rcases result1 with _ | loop
  · cases hresult
  obtain ⟨read, hread, hgleans, hsame⟩ := fetchItems_gleans messages hloop
  obtain ⟨hrecord, hsummary⟩ := fetched_status
    { connection1 with protocol := some ⟨version, state1⟩ } state1 loop
  have hend := fetched_protocol loop { connection1 with protocol := some ⟨version, state1⟩ } state1
  simp only [Prod.mk.injEq, Option.some.injEq] at hresult
  obtain ⟨rfl, rfl, rfl⟩ := hresult
  have hstatuses := congrArg BoltConnection.status hsame
  have hstatus : connection1.status = connection.status := hstatuses
  refine ⟨read, hread, ?_, fun hfound => (hrecord hfound).trans hstatus, ?_⟩
  · rw [failure, failure, hprotocol, hend]
    exact hgleans
  · intro code hcode hfound hknown
    rw [lastCode, hend, Option.map_some, Option.some.injEq] at hcode
    rw [failure, hend, Option.bind_some, ← hcode, ← hstatus]
    exact hsummary hfound (hcode ▸ hknown)

@[simp] theorem failure_setInput (connection : BoltConnection) (input : Input) :
    (connection.setInput input).failure = connection.failure := by
  rcases hprotocol : connection.protocol with _ | protocol <;>
    simp only [failure, setInput, hprotocol, Option.map_none, Option.map_some, Option.bind_none,
      Option.bind_some]

@[simp] theorem lastCode_setInput (connection : BoltConnection) (input : Input) :
    (connection.setInput input).lastCode = connection.lastCode := by
  rcases hprotocol : connection.protocol with _ | protocol <;>
    simp only [lastCode, setInput, hprotocol, Option.map_none, Option.map_some]

end BoltConnection

/-- A connection that is aligned is ready to read the messages of its position. -/
theorem Aligned.ready (h : Aligned position connection) :
    ∃ version state input, connection.protocol = some ⟨version, state⟩ ∧
      connection.setInput input = connection ∧ state.response_counter = position.counter ∧
      input.Ready version.checkReadableStruct (position.messages.map some) [] ∧
      ∀ m ∈ position.messages, ∀ v ∈ m.fields, v.Copyable := by
  obtain ⟨⟨version, state⟩, hprotocol, hcounter, hwf, hempty, hcarries⟩ := h.protocol
  exact ⟨version, state, _, hprotocol, BoltConnection.exists_setInput hprotocol, hcounter,
    ⟨⟨h.wf, hwf⟩, hempty, hcarries⟩,
    fun m hm => copyable_of_carries hcarries m (List.mem_map_of_mem hm)⟩

theorem aligned_setInput {version : ProtocolVersion} {state : BoltProtocolState} {input : Input}
    (hprotocol : connection.protocol = some ⟨version, state⟩)
    (hcounter : state.response_counter = position.counter)
    (h : input.Ready version.checkReadableStruct (position.messages.map some) []) :
    Aligned position (connection.setInput input) where
  wf := h.wf.connection
  protocol := by
    refine ⟨⟨version, { state with rx_buffer := input.protocol_rx_buffer }⟩, ?_, hcounter,
      h.wf.protocol, h.empty, h.carries⟩
    simp only [BoltConnection.setInput, hprotocol, Option.map_some]

/-- A call that finds a message of the response that it asks for, over the items and
over their bytes. -/
theorem Aligned.fetch_found (h : Aligned position connection) {request : Nat}
    {message : BoltMessage} {unread : List BoltMessage}
    (hseek : seek request position.counter position.messages = (request, message :: unread))
    (hknown : message.code = BOLT_V1_RECORD ∨ IsSummaryCode message.code) (after : Position)
    (hafter : after.counter = nextCounter request message.code)
    (hunread : after.messages = unread) :
    ∃ result connection', connection.fetch request = some (result, connection') ∧
      (result = FETCH_ERROR ∨ result = fetchResult message.code ∧ Aligned after connection' ∧
        connection'.lastCode = some message.code ∧
        (∃ read, position.messages = read ++ unread ∧
          Gleans read connection.failure connection'.failure) ∧
        connection'.status = if message.code = BOLT_V1_RECORD then connection.status
          else statusAfter message.code connection'.failure.isSome connection.status) := by
  obtain ⟨version, state, input, hprotocol, hself, hcounter, hready, hcopyable⟩ := h.ready
  rw [← hcounter] at hseek
  obtain ⟨connection1, state1, hitems, hprotocol1, hcounter1, htype, -, -⟩ :=
    (BoltConnection.fetchItems_messages request hprotocol hcopyable).2 _ _ _ hseek
  have hfollows := BoltConnection.fetch_items hprotocol hready hitems
  rw [hself] at hfollows
  rcases hfollows with ⟨input', -, hready', -, hdone, -⟩ | ⟨view, lost, hlost, -⟩
  · obtain ⟨read, hread, hgleans, hrecord, hsummary⟩ :=
      BoltConnection.fetchItems_end hprotocol hitems
    have hlast : connection1.lastCode = some message.code := by
      rw [BoltConnection.lastCode, hprotocol1, Option.map_some, htype]
    refine ⟨_, _, (hdone _ rfl).2, .inr ⟨rfl, ?_, ?_, ?_, ?_⟩⟩
    · refine aligned_setInput hprotocol1 (hcounter1.trans hafter.symm) ?_
      rw [hunread]
      exact hready'
    · rwa [BoltConnection.lastCode_setInput]
    · refine ⟨read, List.map_injective_iff.mpr (Option.some_injective _) ?_, ?_⟩
      · rwa [List.map_append]
      · rwa [BoltConnection.failure_setInput]
    · show connection1.status = _
      rw [BoltConnection.failure_setInput]
      by_cases hcode : message.code = BOLT_V1_RECORD
      · rw [if_pos hcode]
        exact hrecord (by rw [fetchResult, if_pos hcode])
      · have hsummarised := hknown.resolve_left hcode
        rw [if_neg hcode]
        exact hsummary _ hlast (by rw [fetchResult, if_neg hcode, if_pos hsummarised]) hsummarised
  · exact ⟨_, _, hlost, .inl rfl⟩

/-- The stream ends before the response of a request that was read, or that has no
response yet. -/
theorem seek_over {request : Nat} (responses : List Response) :
    ∀ {counter : Nat}, request < counter ∨ counter + responses.length ≤ request →
      (seek request counter (responses.flatMap Response.messages)).2 = [] := by
  induction responses with
  | nil => exact fun _ => rfl
  | cons response responses ih =>
    intro counter h
    rw [List.length_cons] at h
    rw [List.flatMap_cons, seek_response (by omega)]
    exact ih (by omega)

/-- A call that asks for such a response loses the peer. -/
theorem Aligned.fetch_over (h : Aligned position connection) {request : Nat} {result : Int}
    (hover : request < position.counter ∨ position.counter + position.responses.length ≤ request)
    (hfetch : connection.fetch request = some (result, connection')) : result = FETCH_ERROR := by
  obtain ⟨version, state, input, hprotocol, hself, hcounter, hready, hcopyable⟩ := h.ready
  have hnone : (seek request position.counter position.messages).2 = [] :=
    seek_over position.responses hover
  rw [← hcounter] at hnone
  obtain ⟨connection1, state1, hitems, -⟩ :=
    (BoltConnection.fetchItems_messages request hprotocol hcopyable).1 _ (Prod.ext rfl hnone)
  have hfollows := BoltConnection.fetch_items hprotocol hready hitems
  rw [hself, hfetch] at hfollows
  have hend : ∀ chunks rest, ¬StartsWith chunks [] rest := by
    intro chunks rest hstarts
    have hlength := hstarts.length_le
    simp at hlength
  rcases hfollows with ⟨-, -, -, -, -, hcut⟩ | ⟨view, lost, hlost, -⟩
  · obtain ⟨lost, hlost, -⟩ := hcut rfl hend
    exact (Prod.mk.inj (Option.some.inj hlost)).1
  · exact (Prod.mk.inj (Option.some.inj hlost)).1

/-! ## From one position to another -/

/-- The summaries that have not been read. -/
def Position.summaries (position : Position) : List BoltMessage :=
  position.responses.map Response.summary

/-- A call has taken the connection from one position to another, over the summaries in
between. -/
structure Advances (position position' : Position) (connection connection' : BoltConnection) :
    Prop where
  aligned : Aligned position' connection'
  ahead : position.counter ≤ position'.counter
  within : position'.counter - position.counter ≤ position.summaries.length
  unread : position'.summaries = position.summaries.drop (position'.counter - position.counter)
  gleans : Gleans (position.summaries.take (position'.counter - position.counter))
    connection.failure connection'.failure
  keeps : KeepsSending connection connection'

theorem Advances.trans {position1 position2 : Position} {middle : BoltConnection}
    (h : Advances position position1 connection middle)
    (h' : Advances position1 position2 middle connection') :
    Advances position position2 connection connection' := by
  have hahead := h.ahead
  have hahead' := h'.ahead
  have hcount : position2.counter - position.counter =
      (position1.counter - position.counter) + (position2.counter - position1.counter) := by
    omega
  refine ⟨h'.aligned, hahead.trans hahead', ?_, ?_, ?_, h.keeps.trans h'.keeps⟩
  · have hwithin := h.within
    have hwithin' := h'.within
    rw [h.unread, List.length_drop] at hwithin'
    omega
  · rw [h'.unread, h.unread, List.drop_drop, hcount]
  · rw [hcount, List.take_add, gleans_append]
    refine ⟨_, h.gleans, ?_⟩
    rw [← h.unread]
    exact h'.gleans

section Fetching

variable {request : Nat} {response : Response} {responses : List Response}

/-- The summaries around the response that is asked for. -/
theorem Position.summaries_drop
    (hdrop : position.responses.drop (request - position.counter) = response :: responses) :
    request - position.counter < position.summaries.length ∧
      position.summaries.drop (request - position.counter) =
        response.summary :: responses.map Response.summary ∧
      position.summaries.take (request - position.counter + 1) =
        position.summaries.take (request - position.counter) ++ [response.summary] := by
  have hlength : request - position.counter < position.responses.length := by
    have hdropped := congrArg List.length hdrop
    rw [List.length_drop, List.length_cons] at hdropped
    omega
  have hsummaries : position.summaries.drop (request - position.counter) =
      response.summary :: responses.map Response.summary := by
    rw [summaries, ← List.map_drop, hdrop, List.map_cons]
  refine ⟨by rwa [summaries, List.length_map], hsummaries, ?_⟩
  rw [List.take_add, hsummaries, List.take_succ_cons, List.take_zero]

/-- The messages in front of what is left of a response are those of the responses in
front of it, and the beginning of its own. -/
theorem Position.read_eq {read begun unread : List BoltMessage}
    (hdrop : position.responses.drop (request - position.counter) = response :: responses)
    (hbegun : response.messages = begun ++ unread)
    (hread : position.messages = read ++ (unread ++ responses.flatMap Response.messages)) :
    read = (position.responses.take (request - position.counter)).flatMap Response.messages ++
      begun := by
  have hsplit : position.responses = position.responses.take (request - position.counter) ++
      response :: responses := by
    rw [← hdrop, List.take_append_drop]
  have hmessages : position.messages =
      ((position.responses.take (request - position.counter)).flatMap Response.messages ++ begun) ++
        (unread ++ responses.flatMap Response.messages) := by
    rw [messages, congrArg (List.flatMap Response.messages) hsplit, List.flatMap_append,
      List.flatMap_cons, hbegun]
    simp only [List.append_assoc]
  exact List.append_cancel_right (hread.symm.trans hmessages)

theorem Position.step_record (hahead : position.counter ≤ request)
    (hdrop : position.responses.drop (request - position.counter) = response :: responses)
    {record : List BoltValue} {records : List (List BoltValue)}
    (hrecords : response.records = record :: records) :
    Position.step (.fetch request) position = some (⟨FETCH_RECORD, record.head?⟩,
      ⟨request, { response with records := records } :: responses⟩) := by
  obtain ⟨_, summary, known⟩ := response
  obtain rfl : _ = record :: records := hrecords
  unfold step
  rw [show Call.request (.fetch request) = request from rfl, if_neg (Nat.not_lt.mpr hahead), hdrop]

theorem Position.step_summary (hahead : position.counter ≤ request)
    (hdrop : position.responses.drop (request - position.counter) = response :: responses)
    (hrecords : response.records = []) :
    Position.step (.fetch request) position =
      some (⟨FETCH_SUMMARY, none⟩, ⟨request + 1, responses⟩) := by
  obtain ⟨_, summary, known⟩ := response
  obtain rfl : _ = [] := hrecords
  unfold step
  rw [show Call.request (.fetch request) = request from rfl, if_neg (Nat.not_lt.mpr hahead), hdrop]

end Fetching

/-- What a summary leaves behind that a call returns with. -/
def Concludes (position position' : Position) (connection connection' : BoltConnection) : Prop :=
  ∃ skipped summary,
    position.summaries.take (position'.counter - position.counter) = skipped ++ [summary] ∧
      IsSummaryCode summary.code ∧ connection'.lastCode = some summary.code ∧
      connection'.status =
        statusAfter summary.code connection'.failure.isSome connection.status

/-- A fetch takes a step of the position, unless it loses the peer. -/
theorem Aligned.fetch (h : Aligned position connection) {request : Nat} {result : Int}
    (hfetch : connection.fetch request = some (result, connection')) :
    result = FETCH_ERROR ∨ ∃ reply position',
      Position.step (.fetch request) position = some (reply, position') ∧ reply.result = result ∧
        Advances position position' connection connection' ∧
        (result = FETCH_RECORD ∧ connection'.status = connection.status ∨
          result = FETCH_SUMMARY ∧ Concludes position position' connection connection') := by
  by_cases hover : request < position.counter ∨
    position.counter + position.responses.length ≤ request
  · exact .inl (h.fetch_over hover hfetch)
  obtain ⟨hahead, hthere⟩ := not_or.mp hover
  have hahead := Nat.not_lt.mp hahead
  obtain ⟨response, responses, hdrop⟩ := List.exists_cons_of_length_pos
    (l := position.responses.drop (request - position.counter)) (by rw [List.length_drop]; omega)
  have hseek := seek_position (.fetch request) hahead hdrop
  obtain ⟨hwithin, hunread, hpassed⟩ := Position.summaries_drop hdrop
  have hkeeps := BoltConnection.fetch_keepsSending hfetch
  rcases hrecords : response.records with _ | ⟨record, records⟩
  · have hmessages : response.messages = [response.summary] := by
      rw [Response.messages, hrecords]
      rfl
    rw [hmessages] at hseek
    obtain ⟨result', connection1, hfetch', hcase⟩ := h.fetch_found hseek (.inr response.known)
      ⟨request + 1, responses⟩ (by rw [nextCounter, if_neg response.known.ne_record]; rfl) rfl
    obtain ⟨rfl, rfl⟩ := Prod.mk.inj (Option.some.inj (hfetch.symm.trans hfetch'))
    rcases hcase with hfailed | ⟨hresult, haligned, hcode, ⟨read, hread, hgleans⟩, hstatus⟩
    · exact .inl hfailed
    rw [fetchResult, if_neg response.known.ne_record, if_pos response.known] at hresult
    rw [if_neg response.known.ne_record] at hstatus
    have hcount : request + 1 - position.counter = request - position.counter + 1 := by omega
    refine .inr ⟨_, _, Position.step_summary hahead hdrop hrecords, hresult.symm, ?_,
      .inr ⟨hresult, position.summaries.take (request - position.counter), response.summary, ?_,
        response.known, hcode, hstatus⟩⟩
    · refine ⟨haligned, Nat.le_succ_of_le hahead, ?_, ?_, ?_, hkeeps⟩
      · show request + 1 - position.counter ≤ _
        omega
      · show responses.map Response.summary =
          position.summaries.drop (request + 1 - position.counter)
        rw [hcount, ← List.drop_drop, hunread, List.drop_succ_cons, List.drop_zero]
      · show Gleans (position.summaries.take (request + 1 - position.counter)) _ _
        have hbegun : response.messages = [response.summary] ++ [] := by
          rw [hmessages]
          rfl
        rw [Position.read_eq hdrop hbegun hread, gleans_append] at hgleans
        obtain ⟨middle, hskipped, hsummary⟩ := hgleans
        rw [hcount, hpassed, gleans_append, Position.summaries, ← List.map_take]
        exact ⟨middle, (gleans_responses _).mp hskipped, hsummary⟩
    · show position.summaries.take (request + 1 - position.counter) = _
      rw [hcount, hpassed]
  · have hmessages : response.messages = [⟨BOLT_V1_RECORD, record⟩] ++
        ({ response with records := records } : Response).messages := by
      simp [Response.messages, hrecords]
    rw [hmessages] at hseek
    obtain ⟨result', connection1, hfetch', hcase⟩ := h.fetch_found hseek (.inl rfl)
      ⟨request, { response with records := records } :: responses⟩ rfl (by simp [Position.messages])
    obtain ⟨rfl, rfl⟩ := Prod.mk.inj (Option.some.inj (hfetch.symm.trans hfetch'))
    rcases hcase with hfailed | ⟨hresult, haligned, hcode, ⟨read, hread, hgleans⟩, hstatus⟩
    · exact .inl hfailed
    have hresult : result = FETCH_RECORD := hresult
    refine .inr ⟨_, _, Position.step_record hahead hdrop hrecords, hresult.symm, ?_,
      .inl ⟨hresult, hstatus⟩⟩
    refine ⟨haligned, hahead, Nat.le_of_lt hwithin, hunread.symm, ?_, hkeeps⟩
    show Gleans (position.summaries.take (request - position.counter)) _ _
    rw [Position.read_eq hdrop hmessages hread, gleans_append] at hgleans
    obtain ⟨middle, hskipped, hrecord⟩ := hgleans
    have hcodes : ∀ m ∈ [(⟨BOLT_V1_RECORD, record⟩ : BoltMessage)], m.code ≠ BOLT_V1_FAILURE := by
      intro m hm
      rw [List.mem_singleton.mp hm]
      exact show BOLT_V1_RECORD ≠ BOLT_V1_FAILURE by decide
    rw [hrecord.same hcodes, Position.summaries, ← List.map_take]
    exact (gleans_responses _).mp hskipped

/-- A call that only reads records comes before one that reads the summary. -/
theorem Concludes.after {position1 position2 : Position} {middle : BoltConnection}
    (hfirst : Advances position position1 connection middle)
    (hsecond : Advances position1 position2 middle connection')
    (hstatus : middle.status = connection.status)
    (h : Concludes position1 position2 middle connection') :
    Concludes position position2 connection connection' := by
  obtain ⟨skipped, summary, hpassed, hknown, hcode, hend⟩ := h
  have hahead := hfirst.ahead
  have hahead' := hsecond.ahead
  have hcount : position2.counter - position.counter =
      (position1.counter - position.counter) + (position2.counter - position1.counter) := by
    omega
  refine ⟨position.summaries.take (position1.counter - position.counter) ++ skipped, summary, ?_,
    hknown, hcode, ?_⟩
  · rw [hcount, List.take_add, ← hfirst.unread, hpassed, List.append_assoc]
  · rw [hend, hstatus]

/-- Fetching a summary takes steps of the position up to the summary, unless it loses the
peer or the count of the records leaves the range of an `int`. -/
theorem Aligned.fetchSummaryLoop {request : Nat} (fuel : Nat) :
    ∀ {position : Position} {connection connection' : BoltConnection} {total records : Int},
      Aligned position connection →
      BoltConnection.fetchSummaryLoop request fuel total connection = some (records, connection') →
      records < 0 ∨ ∃ responses, position.counter ≤ request ∧
        Advances position ⟨request + 1, responses⟩ connection connection' ∧
        Concludes position ⟨request + 1, responses⟩ connection connection' := by
  induction fuel with
  | zero =>
    intro position connection connection' total records _ h
    cases h
  | succ fuel ih =>
    intro position connection connection' total records haligned h
    rw [BoltConnection.fetchSummaryLoop] at h
    rcases hfetch : connection.fetch request with _ | ⟨data, connection1⟩
    · simp only [hfetch] at h
      cases h
    simp only [hfetch] at h
    by_cases hneg : data < 0
    · rw [if_pos hneg] at h
      obtain ⟨rfl, -⟩ := Prod.mk.inj (Option.some.inj h)
      exact .inl hneg
    rw [if_neg hneg] at h
    rcases haligned.fetch hfetch with rfl | ⟨reply, position1, hstep, hreply, hadvances, hcase⟩
    · exact absurd (by decide) hneg
    obtain ⟨hahead, response, responses, -, hsteps⟩ := Position.step_cases hstep
    rcases hcase with ⟨rfl, hstatus⟩ | ⟨rfl, hconcludes⟩
    · rw [if_pos (by decide)] at h
      rcases ih hadvances.aligned h with hfew | ⟨responses', -, hadvances', hconcludes⟩
      · exact .inl hfew
      · exact .inr ⟨responses', hahead, hadvances.trans hadvances',
          hconcludes.after hadvances hadvances' hstatus⟩
    · rw [if_neg (by decide)] at h
      obtain ⟨-, rfl⟩ := Prod.mk.inj (Option.some.inj h)
      rcases hsteps with ⟨record, records, -, -, rfl, -⟩ | ⟨-, -, -, rfl⟩ | ⟨hother, -⟩
      · exact absurd hreply (show FETCH_RECORD ≠ FETCH_SUMMARY by decide)
      · exact .inr ⟨responses, hahead, hadvances, hconcludes⟩
      · cases hother

/-- The same from the first call on. -/
theorem Aligned.fetchSummary (h : Aligned position connection) {request : Nat} {records : Int}
    (hfetch : connection.fetchSummary request = some (records, connection')) :
    records < 0 ∨ ∃ responses, position.counter ≤ request ∧
      Advances position ⟨request + 1, responses⟩ connection connection' ∧
      Concludes position ⟨request + 1, responses⟩ connection connection' :=
  Aligned.fetchSummaryLoop _ h hfetch

end Seabolt
