import Seabolt.Lib.Runs
import Seabolt.Responses

/-!
# Correlation of responses

A server answers the requests in order, and a client asks for the responses
by the ids of the requests.  `Position` is what a client should see: which
response comes next, and what of the responses has not been read.
`BoltConnection_fetch` and `BoltConnection_fetch_summary` follow its steps,
in every run whose ids do not go back.

`BoltConnection_fetch_summary` counts in an `int`, and what it returns is not
the number of records when there are `2 ^ 31` of them or more.
-/

namespace Seabolt

open PackStream Chunking

/-! ## The client's view -/

/-- A response, or what is left of one: its records and its summary. -/
structure Response where
  records : List (List BoltValue)
  summary : BoltMessage
  known : IsSummaryCode summary.code

theorem IsSummaryCode.ne_record {code : Int16} (h : IsSummaryCode code) :
    code ≠ BOLT_V1_RECORD := by
  rcases h with rfl | rfl | rfl <;> decide

/-- The messages of the response. -/
def Response.messages (response : Response) : List BoltMessage :=
  response.records.map (fun fields => ⟨BOLT_V1_RECORD, fields⟩) ++ [response.summary]

/-- What has not been read: the responses from the one with the id `counter`
on, of which the first may have been read in part. -/
structure Position where
  counter : Nat
  responses : List Response

/-- The messages that have not been read. -/
def Position.messages (position : Position) : List BoltMessage :=
  position.responses.flatMap Response.messages

/-- The calls of a client. -/
inductive Call where
  | fetch (request : Nat)
  | fetchSummary (request : Nat)

/-- The id that a call asks for. -/
def Call.request : Call → Nat
  | .fetch request => request
  | .fetchSummary request => request

/-- What a client gets to see from a call: the result, and then the first
field of the record. -/
structure Reply where
  result : Int
  values : Option BoltValue

/-- What a call should do: skip to the response that is asked for, and read
one message or all.  There is no such step to a response that is behind the
position, or that the stream does not have. -/
def Position.step (call : Call) (position : Position) : Option (Reply × Position) :=
  if call.request < position.counter then none
  else
    match call, position.responses.drop (call.request - position.counter) with
    | _, [] => none
    | .fetch request, ⟨record :: records, summary, known⟩ :: responses =>
      some (⟨FETCH_RECORD, record.head?⟩, ⟨request, ⟨records, summary, known⟩ :: responses⟩)
    | .fetch request, ⟨[], _, _⟩ :: responses =>
      some (⟨FETCH_SUMMARY, none⟩, ⟨request + 1, responses⟩)
    | .fetchSummary request, response :: responses =>
      some (⟨response.records.length, none⟩, ⟨request + 1, responses⟩)

/-- Everything that a step of the position can be. -/
theorem Position.step_cases {call : Call} {position position' : Position} {reply : Reply}
    (h : Position.step call position = some (reply, position')) :
    position.counter ≤ call.request ∧ ∃ response responses,
      position.responses.drop (call.request - position.counter) = response :: responses ∧
      ((∃ record records, call = .fetch call.request ∧ response.records = record :: records ∧
          reply = ⟨FETCH_RECORD, record.head?⟩ ∧
          position' = ⟨call.request, { response with records := records } :: responses⟩) ∨
        (call = .fetch call.request ∧ response.records = [] ∧ reply = ⟨FETCH_SUMMARY, none⟩ ∧
          position' = ⟨call.request + 1, responses⟩) ∨
        (call = .fetchSummary call.request ∧ reply = ⟨response.records.length, none⟩ ∧
          position' = ⟨call.request + 1, responses⟩)) := by
  unfold Position.step at h
  by_cases hback : call.request < position.counter
  · simp [hback] at h
  rw [if_neg hback] at h
  refine ⟨Nat.not_lt.mp hback, ?_⟩
  split at h
  · cases h
  · rename_i hdrop
    cases h
    exact ⟨_, _, hdrop, .inl ⟨_, _, rfl, rfl, rfl, rfl⟩⟩
  · rename_i hdrop
    cases h
    exact ⟨_, _, hdrop, .inr (.inl ⟨rfl, rfl, rfl, rfl⟩)⟩
  · rename_i hdrop
    cases h
    exact ⟨_, _, hdrop, .inr (.inr ⟨rfl, rfl, rfl⟩)⟩

/-- A call of a client. -/
def BoltConnection.step (call : Call) (connection : BoltConnection) :
    Option (Reply × BoltConnection) :=
  let outcome : Outcome BoltConnection :=
    match call with
    | .fetch request => connection.fetch request
    | .fetchSummary request => connection.fetchSummary request
  outcome.map fun (result, connection) => (⟨result, connection.fieldValues⟩, connection)

/-! ## Skipping responses -/

/-- A response that is not asked for is skipped with its summary. -/
theorem seek_response {request counter : Nat} (h : counter ≠ request) (response : Response)
    (messages : List BoltMessage) :
    seek request counter (response.messages ++ messages) = seek request (counter + 1) messages := by
  obtain ⟨records, summary, known⟩ := response
  have hsummary := known.ne_record
  induction records with
  | nil => simp [Response.messages, seek, h, nextCounter, hsummary]
  | cons record records ih => simpa [Response.messages, seek, h, nextCounter] using ih

/-- Skipping to a response that is ahead skips the responses before it. -/
theorem seek_responses (skipped : Nat) :
    ∀ (counter : Nat) (responses : List Response), skipped ≤ responses.length →
      seek (counter + skipped) counter (responses.flatMap Response.messages) =
        (counter + skipped, (responses.drop skipped).flatMap Response.messages) := by
  induction skipped with
  | zero => simp
  | succ skipped ih =>
    rintro counter (_ | ⟨response, responses⟩) hlength
    · simp at hlength
    · have hnext := ih (counter + 1) responses (by simpa using hlength)
      rw [List.flatMap_cons, seek_response (by omega), List.drop_succ_cons,
        show counter + (skipped + 1) = counter + 1 + skipped by omega]
      exact hnext

/-! ## The simulation -/

/-- The connection is where the position says, over a transport that does not
fail. -/
structure InSync (rest : List UInt8) (position : Position) (connection : BoltConnection) :
    Prop where
  reliable : connection.comm.Reliable
  wf : connection.rx_buffer.Wf
  protocol : ∃ protocol, connection.protocol = some protocol ∧
    protocol.state.response_counter = position.counter ∧ protocol.state.rx_buffer.Wf ∧
    protocol.state.rx_buffer.content = [] ∧
    Carries protocol.version.checkReadableStruct (position.messages.map some) connection.pending
      rest

variable {connection : BoltConnection} {position : Position} {rest : List UInt8}

theorem inSync_setInput {version : ProtocolVersion} {state : BoltProtocolState} {input : Input}
    (hprotocol : connection.protocol = some ⟨version, state⟩)
    (hcounter : state.response_counter = position.counter)
    (h : input.Ready version.checkReadableStruct (position.messages.map some) rest)
    (hreliable : input.comm.Reliable) : InSync rest position (connection.setInput input) where
  reliable := hreliable
  wf := h.wf.connection
  protocol := by
    refine ⟨⟨version, { state with rx_buffer := input.protocol_rx_buffer }⟩, ?_, hcounter,
      h.wf.protocol, h.empty, h.carries⟩
    simp only [BoltConnection.setInput, hprotocol, Option.map_some]

/-- Messages that the stream carries can be copied. -/
theorem copyable_of_carries {check : CheckStructSignature} {items : List (Option BoltMessage)}
    {stream : List UInt8} (h : Carries check items stream rest) :
    ∀ m, some m ∈ items → ∀ v ∈ m.fields, v.Copyable := by
  induction h with
  | nil => simp
  | cons _ hitem _ ih =>
    intro m hm v hv
    rcases List.mem_cons.mp hm with rfl | hm
    · obtain ⟨body, ⟨parts, hfields, -, hparts⟩, -⟩ := EncodesMessage.payload_eq hitem
      rw [← hfields] at hv
      obtain ⟨part, hpart, rfl⟩ := List.mem_map.mp hv
      exact (hparts part hpart).copyable
    · exact ih m hm v hv

/-- What a client sees of a record. -/
theorem fieldValues_record {version : ProtocolVersion} {state : BoltProtocolState}
    {fields : List BoltValue} (hprotocol : connection.protocol = some ⟨version, state⟩)
    (htype : state.data_type = BOLT_V1_RECORD) (hdata : state.data = .list fields) (input : Input) :
    (connection.setInput input).fieldValues = fields.head? := by
  simp only [BoltConnection.fieldValues, BoltConnection.setInput, hprotocol, Option.map_some,
    htype, if_true, hdata]

/-- A client sees no values of a summary. -/
theorem fieldValues_summary {version : ProtocolVersion} {state : BoltProtocolState}
    (hprotocol : connection.protocol = some ⟨version, state⟩)
    (htype : IsSummaryCode state.data_type) (input : Input) :
    (connection.setInput input).fieldValues = none := by
  simp only [BoltConnection.fieldValues, BoltConnection.setInput, hprotocol, Option.map_some,
    htype.ne_record, if_false]

/-- Skipping to the response of a call. -/
theorem seek_position (call : Call) (h : position.counter ≤ call.request)
    {response : Response} {responses : List Response}
    (hdrop : position.responses.drop (call.request - position.counter) = response :: responses) :
    seek call.request position.counter position.messages =
      (call.request, response.messages ++ responses.flatMap Response.messages) := by
  have hlength : call.request - position.counter ≤ position.responses.length := by
    by_contra hlong
    rw [List.drop_eq_nil_of_le (by omega)] at hdrop
    cases hdrop
  have hseek := seek_responses _ position.counter _ hlength
  rw [Nat.add_sub_cancel' h, hdrop, List.flatMap_cons] at hseek
  exact hseek

/-- A call over a reliable transport that follows the messages up to a
position leaves the connection there. -/
theorem inSync_of_follows (position : Position) {version : ProtocolVersion} {state : BoltProtocolState} {input : Input}
    {outcome : Outcome BoltConnection} {result : Int} (hreliable : input.comm.Reliable)
    (hprotocol : connection.protocol = some ⟨version, state⟩)
    (hcounter : state.response_counter = position.counter)
    (h : BoltConnection.Follows version input rest outcome (some result) connection
      (position.messages.map some)) :
    ∃ input', outcome = some (result, connection.setInput input') ∧
      InSync rest position (connection.setInput input') := by
  rcases h with ⟨input', -, hready, hreliable', hdone, -⟩ | ⟨-, -, -, -, -, hnot⟩
  · exact ⟨input', (hdone result rfl).2,
      inSync_setInput hprotocol hcounter hready (hreliable' hreliable)⟩
  · exact absurd hreliable hnot

/-- The count of records is not cut if and only if there are fewer than `2 ^ 31`. -/
theorem addInt_zero_iff (n : Nat) : BoltConnection.addInt 0 n = n ↔ n < 0x80000000 := by
  rw [BoltConnection.addInt, zero_add]
  constructor
  · intro h
    have hlt : Int.bmod n 0x100000000 < (0x100000000 + 1) / 2 := Int.bmod_lt (by norm_num)
    rw [h] at hlt
    norm_num at hlt
    exact_mod_cast hlt
  · exact fun h => Int.bmod_eq_of_le (by norm_num) (by norm_num; omega)

/-- A connection in sync is ready to read the messages of its position. -/
theorem InSync.ready (h : InSync rest position connection) :
    ∃ version state input, connection.protocol = some ⟨version, state⟩ ∧
      connection.setInput input = connection ∧ state.response_counter = position.counter ∧
      input.Ready version.checkReadableStruct (position.messages.map some) rest ∧
      input.comm.Reliable ∧ ∀ m ∈ position.messages, ∀ v ∈ m.fields, v.Copyable := by
  obtain ⟨⟨version, state⟩, hprotocol, hcounter, hwf, hempty, hcarries⟩ := h.protocol
  exact ⟨version, state, _, hprotocol, BoltConnection.exists_setInput hprotocol, hcounter,
    ⟨⟨h.wf, hwf⟩, hempty, hcarries⟩, h.reliable,
    fun m hm => copyable_of_carries hcarries m (List.mem_map_of_mem hm)⟩

section Steps

variable (call : Call) {response : Response} {responses : List Response}

/-- A fetch that finds a record. -/
theorem fetch_record (hsync : InSync rest position connection)
    (hahead : position.counter ≤ call.request)
    (hdrop : position.responses.drop (call.request - position.counter) = response :: responses)
    {record : List BoltValue} {records : List (List BoltValue)}
    (hrecords : response.records = record :: records) :
    ∃ connection', connection.fetch call.request = some (FETCH_RECORD, connection') ∧
      connection'.fieldValues = record.head? ∧
      InSync rest ⟨call.request, { response with records := records } :: responses⟩
        connection' := by
  obtain ⟨version, state, input, hprotocol, hself, hcounter, hready, hreliable, hcopyable⟩ :=
    hsync.ready
  have hseek := seek_position call hahead hdrop
  have hmessages : response.messages =
      ⟨BOLT_V1_RECORD, record⟩ :: ({ response with records := records } : Response).messages := by
    simp [Response.messages, hrecords]
  rw [← hcounter, hmessages, List.cons_append] at hseek
  obtain ⟨connection', state', hfetch, hprotocol', hcounter', htype, hdata, -⟩ :=
    (BoltConnection.fetchItems_messages call.request hprotocol hcopyable).2 _ _ _ hseek
  obtain ⟨input', hfetched, hsync'⟩ := inSync_of_follows
    ⟨call.request, { response with records := records } :: responses⟩ hreliable hprotocol' (by rw [hcounter']; rfl)
    (BoltConnection.fetch_items hprotocol hready hfetch)
  rw [hself] at hfetched
  exact ⟨_, hfetched, fieldValues_record hprotocol' htype hdata input', hsync'⟩

/-- A fetch that finds the summary. -/
theorem fetch_summary (hsync : InSync rest position connection)
    (hahead : position.counter ≤ call.request)
    (hdrop : position.responses.drop (call.request - position.counter) = response :: responses)
    (hrecords : response.records = []) :
    ∃ connection', connection.fetch call.request = some (FETCH_SUMMARY, connection') ∧
      connection'.fieldValues = none ∧
      InSync rest ⟨call.request + 1, responses⟩ connection' := by
  obtain ⟨version, state, input, hprotocol, hself, hcounter, hready, hreliable, hcopyable⟩ :=
    hsync.ready
  have hseek := seek_position call hahead hdrop
  have hmessages : response.messages = [response.summary] := by
    simp [Response.messages, hrecords]
  have hsummary := response.known.ne_record
  rw [← hcounter, hmessages, List.singleton_append] at hseek
  obtain ⟨connection', state', hfetch, hprotocol', hcounter', htype, -, -⟩ :=
    (BoltConnection.fetchItems_messages call.request hprotocol hcopyable).2 _ _ _ hseek
  rw [fetchResult, if_neg hsummary, if_pos response.known] at hfetch
  rw [nextCounter, if_neg hsummary] at hcounter'
  obtain ⟨input', hfetched, hsync'⟩ := inSync_of_follows
    ⟨call.request + 1, responses⟩ hreliable hprotocol' hcounter'
    (BoltConnection.fetch_items hprotocol hready hfetch)
  rw [hself] at hfetched
  exact ⟨_, hfetched, fieldValues_summary hprotocol' (htype ▸ response.known) input', hsync'⟩

/-- A summary is fetched with a count of the records before it, in an
`int`. -/
theorem fetchSummary_count (hsync : InSync rest position connection)
    (hahead : position.counter ≤ call.request)
    (hdrop : position.responses.drop (call.request - position.counter) = response :: responses) :
    ∃ connection', connection.fetchSummary call.request =
        some (BoltConnection.addInt 0 response.records.length, connection') ∧
      connection'.fieldValues = none ∧
      InSync rest ⟨call.request + 1, responses⟩ connection' := by
  obtain ⟨version, state, input, hprotocol, hself, hcounter, hready, hreliable, hcopyable⟩ :=
    hsync.ready
  have hseek := seek_position call hahead hdrop
  have hrecords : ∀ m ∈ response.records.map (BoltMessage.mk BOLT_V1_RECORD),
      m.code = BOLT_V1_RECORD := by simp
  have hsummary := response.known.ne_record
  rw [← hcounter, Response.messages, List.append_assoc] at hseek
  obtain ⟨connection', state', hfetch, hprotocol', hcounter', htype, -⟩ :=
    (BoltConnection.fetchSummaryItems_messages hprotocol hcopyable hrecords hseek).2 _ _ rfl
      hsummary
  rw [if_pos response.known, List.length_map] at hfetch
  obtain ⟨input', hfetched, hsync'⟩ := inSync_of_follows
    ⟨call.request + 1, responses⟩ hreliable hprotocol' hcounter'
    (BoltConnection.fetchSummary_items hprotocol hready hfetch)
  rw [hself] at hfetched
  exact ⟨_, hfetched, fieldValues_summary hprotocol' (htype ▸ response.known) input', hsync'⟩

end Steps

/-- A call that counts records finds fewer than `2 ^ 31` of them unread. -/
def Position.Counts : Call → Position → Prop
  | .fetch _, _ => True
  | .fetchSummary request, position =>
    ∀ response ∈ (position.responses.drop (request - position.counter)).head?,
      response.records.length < 0x80000000

/-- A step of the connection ends where the position says.  Its reply is the one that the
position says, unless it counts too many records. -/
theorem tracks_step :
    Runs.Tracks Position.step BoltConnection.step (InSync rest) Position.Counts := by
  intro call position connection reply position' hsync hstep
  obtain ⟨hahead, response, responses, hdrop, hcases⟩ := Position.step_cases hstep
  rcases hcases with ⟨record, records, hcall, hrecords, rfl, rfl⟩ |
    ⟨hcall, hrecords, rfl, rfl⟩ | ⟨hcall, rfl, rfl⟩
  · obtain ⟨connection', hfetch, hvalues, hsync'⟩ := fetch_record call hsync hahead hdrop hrecords
    refine ⟨_, connection', ?_, hsync', iff_of_true rfl (by rw [hcall]; trivial)⟩
    rw [hcall, BoltConnection.step]
    simp only [hfetch, Option.map_some, hvalues]
  · obtain ⟨connection', hfetch, hvalues, hsync'⟩ := fetch_summary call hsync hahead hdrop hrecords
    refine ⟨_, connection', ?_, hsync', iff_of_true rfl (by rw [hcall]; trivial)⟩
    rw [hcall, BoltConnection.step]
    simp only [hfetch, Option.map_some, hvalues]
  · obtain ⟨connection', hfetch, hvalues, hsync'⟩ := fetchSummary_count call hsync hahead hdrop
    refine ⟨⟨BoltConnection.addInt 0 response.records.length, none⟩, connection', ?_, hsync', ?_⟩
    · rw [hcall, BoltConnection.step]
      simp only [hfetch, Option.map_some, hvalues]
    · have hcounts : Position.Counts call position ↔ response.records.length < 0x80000000 := by
        rw [hcall]
        simp [Position.Counts, hdrop]
      simp only [hcounts, ← addInt_zero_iff, Reply.mk.injEq, and_true]

/-- Responses are correlated by counting: every run of calls whose ids do not go back is
defined, and the connection ends where the position does.  The replies of
`BoltConnection_fetch` and `BoltConnection_fetch_summary` are those that the position says
if and only if no call has to count `2 ^ 31` records. -/
theorem run_inSync (calls : List Call) (position position' : Position)
    (connection : BoltConnection) (rest : List UInt8) (replies : List Reply)
    (hsync : InSync rest position connection)
    (hrun : Runs.run Position.step calls position = some (replies, position')) :
    ∃ replies' connection',
      Runs.run BoltConnection.step calls connection = some (replies', connection') ∧
      InSync rest position' connection' ∧
      (replies' = replies ↔ Runs.Admissible Position.step Position.Counts calls position) :=
  tracks_step.run calls hsync hrun

/-! ## Two streams -/

/-- A connection of the first version to which the server has sent the
payloads. -/
def answered (payloads : List (List UInt8)) : BoltConnection :=
  { BoltConnection.create with
    comm := { BoltCommunication.create with incoming := frames (payloads.map chunksOf) }
    protocol_version := 1
    protocol := some ⟨.v1, BoltProtocolV1.createState⟩
    rx_buffer := .create INITIAL_RX_BUFFER_SIZE
    status := { state := .ready, error := BOLT_SUCCESS } }

theorem inSync_answered {responses : List Response} {payloads : List (List UInt8)}
    (h : List.Forall₂ (EncodesMessage BoltProtocolV1.checkReadableStructSignature)
      (responses.flatMap Response.messages) payloads) :
    InSync [] ⟨0, responses⟩ (answered payloads) where
  reliable := ⟨by simp [answered, BoltCommunication.create],
    by simp [answered, BoltCommunication.create], by simp [answered, BoltCommunication.create]⟩
  wf := BoltBuffer.wf_create _
  protocol := by
    refine ⟨_, rfl, rfl, BoltBuffer.wf_create _, BoltBuffer.content_create _, ?_⟩
    have hcarries := carries_frames h []
    rw [List.append_nil] at hcarries
    exact hcarries

/-- A success summary without metadata. -/
def success : BoltMessage := ⟨BOLT_V1_SUCCESS, [.dictionary []]⟩

/-- A response with empty records. -/
def emptyRecords (n : Nat) : Response where
  records := List.replicate n [.list []]
  summary := success
  known := .inl rfl

/-- The payloads of that response. -/
def emptyRecordPayloads (n : Nat) : List (List UInt8) :=
  List.replicate n [0xB1, 0x71, 0x90] ++ [[0xB1, 0x70, 0xA0]]

theorem encodes_emptyRecords (check : CheckStructSignature) (n : Nat) :
    List.Forall₂ (EncodesMessage check) (emptyRecords n).messages (emptyRecordPayloads n) := by
  have hlistHeader : SizeHeader listMarkers ([] : List BoltValue).length [0x90] :=
    .tiny rfl (by decide)
  have hmapHeader : SizeHeader mapMarkers ([] : List EncodedEntry).length [0xA0] :=
    .tiny rfl (by decide)
  have hlist : Encodes check (.list []) [0x90] := Encodes.list_of_all hlistHeader encodesAll_nil
  have hmap : Encodes check (.dictionary []) [0xA0] := Encodes.map [] hmapHeader (by simp) (by simp)
  have hrecord : EncodesMessage check ⟨BOLT_V1_RECORD, [.list []]⟩ [0xB1, 0x71, 0x90] :=
    ⟨by simp, by decide, [0x90], .cons hlist encodesAll_nil, rfl⟩
  have hsuccess : EncodesMessage check success [0xB1, 0x70, 0xA0] :=
    ⟨by simp [success], by decide, [0xA0], .cons hmap encodesAll_nil, rfl⟩
  refine List.rel_append ?_ (.cons hsuccess .nil)
  rw [emptyRecords, List.map_replicate]
  induction n with
  | zero => exact .nil
  | succ n ih => exact .cons hrecord ih

/-- A client that fetches one of two records, and then the summary of the
next response. -/
theorem run_inSync_pipelined :
    ∃ connection', Runs.run BoltConnection.step [.fetch 0, .fetchSummary 1]
        (answered (emptyRecordPayloads 2 ++ emptyRecordPayloads 3)) =
        some ([⟨1, some (.list [])⟩, ⟨3, none⟩], connection') ∧
      InSync [] ⟨2, []⟩ connection' := by
  have hsync : InSync [] ⟨0, [emptyRecords 2, emptyRecords 3]⟩
      (answered (emptyRecordPayloads 2 ++ emptyRecordPayloads 3)) :=
    inSync_answered (by
      simpa using List.rel_append (encodes_emptyRecords _ 2) (encodes_emptyRecords _ 3))
  obtain ⟨replies, connection', hrun, hend, hiff⟩ :=
    run_inSync [.fetch 0, .fetchSummary 1] _ ⟨2, []⟩ _ [] [⟨1, some (.list [])⟩, ⟨3, none⟩] hsync rfl
  have hcounts : Runs.Admissible Position.step Position.Counts [.fetch 0, .fetchSummary 1]
      ⟨0, [emptyRecords 2, emptyRecords 3]⟩ := by
    refine ⟨trivial, fun reply position hstep => ⟨?_, fun _ _ _ => trivial⟩⟩
    obtain ⟨-, rfl⟩ := Prod.mk.inj (Option.some.inj hstep)
    simp [Position.Counts, emptyRecords]
  rw [hiff.mpr hcounts] at hrun
  exact ⟨connection', hrun, hend⟩

theorem inSync_emptyRecords (n : Nat) :
    InSync [] ⟨0, [emptyRecords n]⟩ (answered (emptyRecordPayloads n)) :=
  inSync_answered (by simpa using encodes_emptyRecords _ n)

theorem length_emptyRecords (n : Nat) : (emptyRecords n).records.length = n :=
  List.length_replicate

theorem fetchSummary_emptyRecords (n : Nat) :
    ∃ connection', (answered (emptyRecordPayloads n)).fetchSummary 0 =
      some (BoltConnection.addInt 0 n, connection') := by
  obtain ⟨connection', hcount, -⟩ :=
    fetchSummary_count (.fetchSummary 0) (inSync_emptyRecords n) (Nat.zero_le _) rfl
  rw [length_emptyRecords] at hcount
  exact ⟨connection', hcount⟩

/-- A response with `2 ^ 31` records is in the stream, and
`BoltConnection_fetch_summary` does not return their number. -/
theorem fetchSummary_overflow :
    InSync [] ⟨0, [emptyRecords 0x80000000]⟩ (answered (emptyRecordPayloads 0x80000000)) ∧
      (emptyRecords 0x80000000).records.length = 0x80000000 ∧
      ∃ connection', (answered (emptyRecordPayloads 0x80000000)).fetchSummary 0 =
        some (-0x80000000, connection') :=
  ⟨inSync_emptyRecords _, length_emptyRecords _, fetchSummary_emptyRecords 0x80000000⟩

end Seabolt
