import Seabolt.Correlation

/-!
# Protocol violations

A message that is not a correctly encoded RECORD, SUCCESS, FAILURE or IGNORED
should make the call that receives it fail, and leave the connection defunct.
The calls do that for a structure with another code, when it answers the
request, and for a transport that fails.  `Clean` says which messages of a
stream they treat right; `meets_reports` is the guarantee for every run that
receives such messages only.

An error of the decoder is a positive number, which the callers of `unload`
take for a result.
-/

namespace Seabolt

open PackStream Chunking

/-- Whether the code is one of a response. -/
def IsResponseCode (code : Int16) : Prop := code = BOLT_V1_RECORD ∨ IsSummaryCode code

/-- All messages before the response that is asked for have a code of a
response. -/
def SkipsKnown (request : Nat) : Nat → List BoltMessage → Prop
  | _, [] => True
  | counter, message :: messages =>
    counter ≠ request → IsResponseCode message.code ∧
      SkipsKnown request (nextCounter counter message.code) messages

/-- The messages are exactly those that the call receives: the last one
answers it. -/
def Answers (call : Call) (counter : Nat) (messages : List BoltMessage) : Prop :=
  match call with
  | .fetch request => ∃ message, seek request counter messages = (request, [message])
  | .fetchSummary request => ∃ records summary,
      seek request counter messages = (request, records ++ [summary]) ∧
        (∀ r ∈ records, r.code = BOLT_V1_RECORD) ∧ summary.code ≠ BOLT_V1_RECORD

/-- The call receives all of the messages and asks for more. -/
def Unanswered (call : Call) (counter : Nat) (messages : List BoltMessage) : Prop :=
  match call with
  | .fetch request => (seek request counter messages).2 = []
  | .fetchSummary request =>
    ∀ r ∈ (seek request counter messages).2, r.code = BOLT_V1_RECORD

namespace BoltConnection

/-- The connection is open and its receive buffers are intact. -/
def Intact (connection : BoltConnection) : Prop :=
  ∃ version state, connection.protocol = some ⟨version, state⟩ ∧ connection.rx_buffer.Wf ∧
    state.rx_buffer.Wf

/-- No byte of an earlier message is left, and every message that the call
receives is a correctly encoded structure, with a code of a response unless it
answers the call.  Where the stream ends before the answer, it ends inside a
frame. -/
def Clean (call : Call) (connection : BoltConnection) : Prop :=
  ∀ version state, connection.protocol = some ⟨version, state⟩ →
    state.rx_buffer.content = [] ∧ ∃ messages rest,
      Carries version.checkReadableStruct (messages.map some) connection.pending rest ∧
      SkipsKnown call.request state.response_counter messages ∧
      (Answers call state.response_counter messages ∨
        Unanswered call state.response_counter messages ∧
          ∀ chunks rest', ¬StartsWith chunks rest rest')

/-- The messages that a call has received: frames of them are what it has
taken from the stream. -/
def Received (connection : BoltConnection) (messages : List BoltMessage)
    (connection' : BoltConnection) : Prop :=
  ∃ version state, connection.protocol = some ⟨version, state⟩ ∧
    Carries version.checkReadableStruct (messages.map some) connection.pending
      connection'.pending

/-- What a call should report.  Either it returns `-1` and the connection is
defunct; or every message that it has received is a correctly encoded RECORD,
SUCCESS, FAILURE or IGNORED, and it returns what these say: a fetch 1 for a
record and 0 for a summary of the response that is asked for, and a fetch of
the summary the number of records of that response. -/
def Reports (call : Call) (connection : BoltConnection) (reply : Reply)
    (connection' : BoltConnection) : Prop :=
  (reply.result = FETCH_ERROR ∧ connection'.status.state = .defunct) ∨
  ∃ counter messages, connection.protocol.map (fun p => p.state.response_counter) = some counter ∧
    connection.Received messages connection' ∧ (∀ m ∈ messages, IsResponseCode m.code) ∧
    match call with
    | .fetch request => ∃ message, seek request counter messages = (request, [message]) ∧
        reply.result = if message.code = BOLT_V1_RECORD then 1 else 0
    | .fetchSummary request => ∃ records summary,
        seek request counter messages = (request, records ++ [summary]) ∧
        (∀ r ∈ records, r.code = BOLT_V1_RECORD) ∧ summary.code ≠ BOLT_V1_RECORD ∧
        reply.result = addInt 0 records.length

end BoltConnection

/-! ## The messages of a call -/

/-- When the answer has a code of a response, all messages of the call do. -/
theorem known_of_skipsKnown {request : Nat} (messages : List BoltMessage) :
    ∀ {counter : Nat}, SkipsKnown request counter messages →
      (∀ m ∈ (seek request counter messages).2, IsResponseCode m.code) →
      ∀ m ∈ messages, IsResponseCode m.code := by
  induction messages with
  | nil => simp
  | cons message messages ih =>
    intro counter hskips hfound
    by_cases hid : counter = request
    · simpa only [seek, hid, if_true] using hfound
    · obtain ⟨hknown, hskips⟩ := hskips hid
      simp only [seek, hid, if_false] at hfound
      exact List.forall_mem_cons.mpr ⟨hknown, ih hskips hfound⟩

namespace BoltConnection

variable {connection connection' view : BoltConnection}

theorem Lost.defunct (h : Lost view connection) : connection.status.state = .defunct := by
  obtain ⟨input, error, calls, -, rfl⟩ := h
  rfl

theorem Lost.intact (h : Lost view connection)
    (hview : ∃ version state, view.protocol = some ⟨version, state⟩) : connection.Intact := by
  obtain ⟨input, error, calls, hwf, rfl⟩ := h
  obtain ⟨version, state, hprotocol⟩ := hview
  refine ⟨version, { state with rx_buffer := input.protocol_rx_buffer }, ?_, hwf.connection,
    hwf.protocol⟩
  simp only [setInput, hprotocol, Option.map_some]

theorem intact_setInput {version : ProtocolVersion} {state : BoltProtocolState} {input : Input}
    (hprotocol : connection.protocol = some ⟨version, state⟩) (hwf : input.Wf) :
    (connection.setInput input).Intact := by
  refine ⟨version, { state with rx_buffer := input.protocol_rx_buffer }, ?_, hwf.connection,
    hwf.protocol⟩
  simp only [setInput, hprotocol, Option.map_some]

/-- What `Follows` leaves to be shown: that a call with a result reports
right.  A call without one has lost its peer. -/
theorem reports_of_follows {call : Call} {version : ProtocolVersion} {state : BoltProtocolState}
    {input : Input} {rest : List UInt8}
    {outcome : Outcome BoltConnection} {result : Option Int}
    (hview : view.protocol = some ⟨version, state⟩)
    (hfollows : Follows version input rest outcome result view [])
    (hcut : result = none → ∀ chunks rest', ¬StartsWith chunks rest rest')
    (hdone : ∀ fetched, result = some fetched → ∀ input' : Input, input'.pending = rest →
      Reports call connection ⟨fetched, (view.setInput input').fieldValues⟩
        (view.setInput input')) :
    ∃ fetched connection', outcome = some (fetched, connection') ∧
      Reports call connection ⟨fetched, connection'.fieldValues⟩ connection' ∧
      connection'.Intact := by
  rcases hfollows with ⟨input', -, hready, -, hsome, hnone⟩ | ⟨view', lost, hcall, hlost, hview', -⟩
  · rcases result with _ | fetched
    · obtain ⟨lost, hcall, hlost⟩ := hnone rfl (hcut rfl)
      exact ⟨_, lost, hcall, .inl ⟨rfl, hlost.defunct⟩, hlost.intact ⟨version, state, hview⟩⟩
    · obtain ⟨-, hcall⟩ := hsome fetched rfl
      exact ⟨_, _, hcall, hdone fetched rfl input' (carries_nil hready.carries),
        intact_setInput hview hready.wf⟩
  · exact ⟨_, lost, hcall, .inl ⟨rfl, hlost.defunct⟩, hlost.intact ⟨version, hview'⟩⟩

/-- What a clean call finds. -/
theorem Intact.clean {call : Call} (h : connection.Intact) (hclean : Clean call connection) :
    ∃ (version : ProtocolVersion) (state : BoltProtocolState) (input : Input)
      (messages : List BoltMessage) (rest : List UInt8),
      connection.protocol = some ⟨version, state⟩ ∧ connection.setInput input = connection ∧
      input.Ready version.checkReadableStruct (messages.map some) rest ∧
      (∀ m ∈ messages, ∀ v ∈ m.fields, v.Copyable) ∧
      (∀ connection' : BoltConnection, connection'.pending = rest →
        connection.Received messages connection') ∧
      connection.protocol.map (fun p => p.state.response_counter) = some state.response_counter ∧
      SkipsKnown call.request state.response_counter messages ∧
      (Answers call state.response_counter messages ∨
        Unanswered call state.response_counter messages ∧
          ∀ chunks rest', ¬StartsWith chunks rest rest') := by
  obtain ⟨version, state, hprotocol, hwf, hwfprotocol⟩ := h
  obtain ⟨hempty, messages, rest, hcarries, hskips, hanswer⟩ := hclean version state hprotocol
  refine ⟨version, state, ⟨connection.comm, connection.rx_buffer, state.rx_buffer⟩, messages, rest,
    hprotocol, exists_setInput hprotocol, ⟨⟨hwf, hwfprotocol⟩, hempty, hcarries⟩, ?_, ?_, ?_, hskips,
    hanswer⟩
  · exact fun m hm => copyable_of_carries hcarries m (List.mem_map_of_mem hm)
  · exact fun connection' hpending => ⟨version, state, hprotocol, by rwa [hpending]⟩
  · rw [hprotocol, Option.map_some]

/-- A fetch that receives clean messages reports them right. -/
theorem fetch_reports {request : Nat} (h : connection.Intact)
    (hclean : Clean (.fetch request) connection) :
    ∃ fetched connection', connection.fetch request = some (fetched, connection') ∧
      Reports (.fetch request) connection ⟨fetched, connection'.fieldValues⟩ connection' ∧
      connection'.Intact := by
  obtain ⟨version, state, input, messages, rest, hprotocol, hself, hready, hcopyable, hreceived,
    hcounter, hskips, hanswer⟩ := h.clean hclean
  obtain ⟨hover, hfound⟩ := fetchItems_messages request hprotocol hcopyable
  rcases hanswer with ⟨message, hseek⟩ | ⟨hseek, hcut⟩
  · obtain ⟨view, state', hitems, hview, -, -, -, hdefunct⟩ := hfound _ _ _ hseek
    have hfollows := fetch_items hprotocol hready hitems
    rw [hself] at hfollows
    refine reports_of_follows hview hfollows (by simp) ?_
    rintro _ ⟨rfl⟩ input' hinput'
    by_cases hknown : IsResponseCode message.code
    · have hresult : fetchResult message.code =
          if message.code = BOLT_V1_RECORD then 1 else 0 := by
        rcases hknown with hrecord | hsummary
        · simp only [fetchResult, hrecord, if_true]
        · simp only [fetchResult, hsummary.ne_record, if_false, hsummary, if_true]
      have hall : ∀ m ∈ (seek request state.response_counter messages).2,
          IsResponseCode m.code := by
        rw [hseek]
        simpa using hknown
      exact .inr ⟨_, messages, hcounter, hreceived _ hinput',
        known_of_skipsKnown messages hskips hall, message, hseek, hresult⟩
    · have hresult : fetchResult message.code = FETCH_ERROR := by
        rw [IsResponseCode, not_or] at hknown
        simp only [fetchResult, hknown.1, hknown.2, if_false]
      exact .inl ⟨hresult, hdefunct hresult⟩
  · obtain ⟨view, state', hitems, hview, -⟩ := hover _ (Prod.ext rfl hseek)
    have hfollows := fetch_items hprotocol hready hitems
    rw [hself] at hfollows
    exact reports_of_follows hview hfollows (fun _ => hcut) (by simp)

/-- So does a fetch of a summary. -/
theorem fetchSummary_reports {request : Nat} (h : connection.Intact)
    (hclean : Clean (.fetchSummary request) connection) :
    ∃ fetched connection', connection.fetchSummary request = some (fetched, connection') ∧
      Reports (.fetchSummary request) connection ⟨fetched, connection'.fieldValues⟩ connection' ∧
      connection'.Intact := by
  obtain ⟨version, state, input, messages, rest, hprotocol, hself, hready, hcopyable, hreceived,
    hcounter, hskips, hanswer⟩ := h.clean hclean
  rcases hanswer with ⟨records, summary, hseek, hrecords, hsummary⟩ | ⟨hrecords, hcut⟩
  · obtain ⟨view, state', hitems, hview, -, -, hdefunct⟩ :=
      (fetchSummaryItems_messages hprotocol hcopyable hrecords hseek).2 summary [] rfl hsummary
    have hfollows := fetchSummary_items hprotocol hready hitems
    rw [hself] at hfollows
    refine reports_of_follows hview hfollows nofun ?_
    rintro _ ⟨rfl⟩ input' hinput'
    by_cases hknown : IsSummaryCode summary.code
    · have hall : ∀ m ∈ (seek request state.response_counter messages).2,
          IsResponseCode m.code := by
        rw [hseek]
        intro m hm
        rcases List.mem_append.mp hm with hm | hm
        · exact .inl (hrecords m hm)
        · rw [List.mem_singleton.mp hm]
          exact .inr hknown
      exact .inr ⟨_, messages, hcounter, hreceived _ hinput',
        known_of_skipsKnown messages hskips hall, records, summary, hseek, hrecords, hsummary,
        by simp only [hknown, if_true]⟩
    · exact .inl ⟨by simp only [hknown, if_false], hdefunct hknown⟩
  · have hseek : seek request state.response_counter messages =
        ((seek request state.response_counter messages).1,
          (seek request state.response_counter messages).2 ++ []) := by
      rw [List.append_nil]
    obtain ⟨view, state', hitems, hview⟩ :=
      (fetchSummaryItems_messages hprotocol hcopyable hrecords hseek).1 rfl
    have hfollows := fetchSummary_items hprotocol hready hitems
    rw [hself] at hfollows
    exact reports_of_follows hview hfollows (fun _ => hcut) nofun

end BoltConnection

/-- Malformed data is reported in every run of calls that receive clean
messages: correctly encoded structures, of which those with a code that is
not one of a response answer the call. -/
theorem meets_reports (calls : List Call) (connection : BoltConnection)
    (h : connection.Intact)
    (hclean : Runs.Admissible BoltConnection.step BoltConnection.Clean calls connection) :
    Runs.Meets BoltConnection.step BoltConnection.Reports calls connection := by
  refine Runs.meets_of_invariant ?_ calls connection h hclean
  intro call connection h hclean
  cases call with
  | fetch request =>
    obtain ⟨fetched, connection', hfetch, hreports, hintact⟩ :=
      BoltConnection.fetch_reports h hclean
    exact ⟨_, connection', by simp only [BoltConnection.step, hfetch, Option.map_some], hreports,
      hintact⟩
  | fetchSummary request =>
    obtain ⟨fetched, connection', hfetch, hreports, hintact⟩ :=
      BoltConnection.fetchSummary_reports h hclean
    exact ⟨_, connection', by simp only [BoltConnection.step, hfetch, Option.map_some], hreports,
      hintact⟩

/-- A record is reported as one, also when the peer has more to send. -/
theorem meets_reports_record :
    Runs.Meets BoltConnection.step BoltConnection.Reports [.fetch 0]
      (answered (emptyRecordPayloads 1)) := by
  have hencodes := encodes_emptyRecords BoltProtocolV1.checkReadableStructSignature 1
  rcases hencodes with _ | ⟨hrecord, -⟩
  have hpending : (answered (emptyRecordPayloads 1)).pending =
      frames [chunksOf [0xB1, 0x71, 0x90]] ++ frames [chunksOf [0xB1, 0x70, 0xA0]] := by
    simp [answered, BoltConnection.pending, emptyRecordPayloads, frames]
  refine meets_reports [.fetch 0] _
    ⟨.v1, BoltProtocolV1.createState, rfl, BoltBuffer.wf_create _, BoltBuffer.wf_create _⟩
    ⟨?_, fun _ _ _ => trivial⟩
  intro version state hprotocol
  cases hprotocol
  refine ⟨BoltBuffer.content_create _, [⟨BOLT_V1_RECORD, [.list []]⟩],
    frames [chunksOf [0xB1, 0x70, 0xA0]], ?_, ?_, .inl ?_⟩
  · rw [hpending]
    exact carries_frames (.cons hrecord .nil) _
  · exact fun hne => absurd rfl hne
  · exact ⟨_, rfl⟩

/-- A server that answers the first request with a message of one zero byte,
and then with a summary. -/
def garbled : BoltConnection :=
  { answered [] with
    comm := { BoltCommunication.create with
      incoming := [0, 1, 0x00, 0, 0] ++ [0, 2, 0xB0, 0x70, 0, 0] } }

/-- The message is no structure.  The fetch returns an error code that is not
`-1`, the connection stays ready, and the fetch of the summary adds the error
code to the number of records. -/
theorem fetch_garbled :
    (∀ message, ¬EncodesMessage BoltProtocolV1.checkReadableStructSignature message [0x00]) ∧
    ((garbled.fetch 0).map fun (fetched, connection) => (fetched, connection.status.state)) =
      some (0x500, .ready) ∧
    ((garbled.fetchSummary 0).map fun (records, connection) =>
      (records, connection.status.state)) = some (0x500, .ready) := by
  refine ⟨fun message h => ?_, by decide +kernel, by decide +kernel⟩
  obtain ⟨body, -, hpayload⟩ := h.payload_eq
  simp [structureHeader] at hpayload

end Seabolt
