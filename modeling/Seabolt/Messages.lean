import Seabolt.Framing
import Seabolt.PackStream.Decode

/-!
# The stream of messages

What `fetch` does, in terms of messages instead of bytes.  An item of the
stream is a message, or an empty frame, which carries none.

`fetchItems` is the loop of `fetch` over a list of items.  `fetchLoop_items`
says that the loop over the bytes of the items does the same, unless the
transport fails.  The bytes that are in flight are the `Input` of a session;
nothing that a round decides depends on them.
-/

namespace Seabolt

open PackStream Chunking

/-! ## Encoded messages -/

/-- The payload is an encoding of the message. -/
structure EncodesMessage (check : CheckStructSignature) (message : BoltMessage)
    (payload : List UInt8) : Prop where
  size : message.fields.length < 0x10
  code : 0 ≤ message.code.toInt ∧ message.code.toInt < 0x100
  payload_eq : ∃ body, EncodesAll check message.fields body ∧
    payload = structureHeader message.code message.fields.length ++ body

/-- The payload of an item of the stream. -/
def EncodesItem (check : CheckStructSignature) : Option BoltMessage → List UInt8 → Prop
  | none, payload => payload = []
  | some message, payload => EncodesMessage check message payload

/-- What decoding an item does to the state: nothing for an empty frame. -/
def decoded : Option BoltMessage → BoltProtocolState → BoltProtocolState
  | none, state => state
  | some message, state =>
    countRecord { state with data_type := message.code, data := .list message.fields }

theorem countRecord_eq (state : BoltProtocolState) :
    countRecord state = { state with
      record_counter := if state.data_type = BOLT_V1_RECORD then state.record_counter + 1 else 0 }
      := by
  unfold countRecord
  split_ifs <;> rfl

/-- The marker of a message has its type and its number of fields. -/
theorem structureMarker (n : Nat) (hn : n < 0x10) :
    markerType (UInt8.ofNat (0xB0 + n)).toNat = .struct ∧
      (UInt8.ofNat (0xB0 + n)).toNat &&& 0x0F = n := by
  revert n
  decide

/-- Decoding goes on behind the marker and the code of a message with its
fields. -/
theorem unloadMessage_struct (check : CheckStructSignature) {marker code : UInt8}
    {body : List UInt8} (hmarker : markerType marker.toNat = .struct) (state : BoltProtocolState)
    (garbage : List UInt8) (hwf : state.rx_buffer.Wf)
    (hcontent : state.rx_buffer.content = marker :: code :: body) :
    ∃ d : Decoder, d.Holds garbage body ∧ unloadMessage check state garbage =
      (unloadElements (unload check) d (state.data.listElements (marker.toNat &&& 0x0F))).map
        fun (status, d, elements) =>
          let state := { state with
            rx_buffer := d.buffer, data_type := Int16.ofNat code.toNat, data := .list elements }
          if status = BOLT_SUCCESS then (BOLT_SUCCESS, countRecord state, d.garbage)
          else (status, state, d.garbage) := by
  have hlength := hwf.length_content
  rw [hcontent] at hlength
  have hnonempty : state.rx_buffer.unloadable ≠ 0 := by
    rw [← hlength]
    simp
  obtain ⟨b1, hread1, hwf1, hrest1⟩ := BoltBuffer.unloadU8_of_content hwf hcontent
  obtain ⟨b2, hread2, hwf2, hrest2⟩ := BoltBuffer.unloadU8_of_content hwf1 hrest1
  refine ⟨⟨b2, garbage⟩, ⟨hwf2, hrest2, rfl⟩, ?_⟩
  simp only [unloadMessage, hnonempty, if_false, hread1, hmarker, ne_eq, not_true_eq_false,
    hread2]

variable {check : CheckStructSignature}

/-- Decoding takes exactly the payload of a message. -/
theorem unloadMessage_of_encodes {message : BoltMessage} {payload rest : List UInt8}
    {state : BoltProtocolState} (garbage : List UInt8)
    (h : EncodesMessage check message payload) (hwf : state.rx_buffer.Wf)
    (hcontent : state.rx_buffer.content = payload ++ rest) :
    ∃ rx_buffer, rx_buffer.Wf ∧ rx_buffer.content = rest ∧
      unloadMessage check state garbage =
        some (BOLT_SUCCESS, { decoded (some message) state with rx_buffer := rx_buffer },
          garbage) := by
  obtain ⟨body, ⟨parts, hfields, rfl, hparts⟩, rfl⟩ := h.payload_eq
  obtain ⟨hmarker, hsize⟩ := structureMarker _ h.size
  have hcode : Int16.ofNat (UInt8.ofNat message.code.toInt.toNat).toNat = message.code := by
    have hsmall : message.code.toInt.toNat < 256 := by
      have := h.code
      omega
    rw [UInt8.toNat_ofNat', Nat.mod_eq_of_lt hsmall, ← Int16.ofInt_eq_ofNat,
      Int.toNat_of_nonneg h.code.1, Int16.ofInt_toInt]
  obtain ⟨d, hd, hstruct⟩ := unloadMessage_struct check hmarker state garbage hwf hcontent
  have hcount : (state.data.listElements message.fields.length).length = parts.length := by
    rw [BoltValue.length_listElements, ← hfields, List.length_map]
  obtain ⟨d', hunload, hd'⟩ := unloadElements_of_holds parts
    (fun p hp => unload_of_encodes (hparts p hp)) d _ garbage rest hcount hd
  refine ⟨d'.buffer, hd'.wf, hd'.content_eq, ?_⟩
  rw [hfields] at hunload
  rw [hstruct]
  simp only [hsize, hunload, Option.map_some, if_true, hcode, hd'.garbage_eq, decoded,
    countRecord_eq]

/-- Decoding takes exactly the payload of an item. -/
theorem unloadMessage_of_item (state : BoltProtocolState) (garbage : List UInt8)
    {item : Option BoltMessage} {payload : List UInt8}
    (h : EncodesItem check item payload) (hwf : state.rx_buffer.Wf)
    (hcontent : state.rx_buffer.content = payload) :
    ∃ rx_buffer, rx_buffer.Wf ∧ rx_buffer.content = [] ∧
      unloadMessage check state garbage =
        some (BOLT_SUCCESS, { decoded item state with rx_buffer := rx_buffer }, garbage) := by
  cases item with
  | none =>
    obtain rfl : payload = [] := h
    have hempty : state.rx_buffer.unloadable = 0 := by
      rw [← hwf.length_content, hcontent, List.length_nil]
    exact ⟨state.rx_buffer, hwf, hcontent, by simp [unloadMessage, hempty, decoded]⟩
  | some message => exact unloadMessage_of_encodes garbage h hwf (by rw [hcontent, List.append_nil])

/-! ## Items -/

/-- The stream starts with frames of the items, and the rest follows. -/
inductive Carries (check : CheckStructSignature) :
    List (Option BoltMessage) → List UInt8 → List UInt8 → Prop where
  | nil (rest : List UInt8) : Carries check [] rest rest
  | cons {item : Option BoltMessage} {items : List (Option BoltMessage)}
      {chunks : List (List UInt8)} {stream stream' rest : List UInt8}
      (hstarts : StartsWith chunks stream stream') (hitem : EncodesItem check item chunks.flatten)
      (hitems : Carries check items stream' rest) : Carries check (item :: items) stream rest

/-- The frames that `push_to_transmission` gives to the payloads of items
carry them. -/
theorem carries_items {items : List (Option BoltMessage)} {payloads : List (List UInt8)}
    (h : List.Forall₂ (EncodesItem check) items payloads) (rest : List UInt8) :
    Carries check items (frames (payloads.map chunksOf) ++ rest) rest := by
  induction h with
  | nil => exact .nil rest
  | @cons item payload items payloads hitem _ ih =>
    have hstarts : StartsWith (chunksOf payload)
        (frames ((payload :: payloads).map chunksOf) ++ rest)
        (frames (payloads.map chunksOf) ++ rest) := by
      refine ⟨validChunks_pieces chunkLength.max_pos payload, ?_⟩
      simp only [frames, List.map_cons, List.flatten_cons, List.append_assoc]
    refine .cons hstarts ?_ ih
    rw [chunksOf, flatten_pieces]
    exact hitem

/-- The frames of encoded messages carry them. -/
theorem carries_frames {messages : List BoltMessage} {payloads : List (List UInt8)}
    (h : List.Forall₂ (EncodesMessage check) messages payloads) (rest : List UInt8) :
    Carries check (messages.map some) (frames (payloads.map chunksOf) ++ rest) rest :=
  carries_items (List.forall₂_map_left_iff.mpr h) rest

/-- What a round of `fetch` does with the next item. -/
def itemRound (functions : FetchFunctions) (request_id : Nat) (item : Option BoltMessage)
    (session : Session) : Option Round :=
  finishRound functions request_id session.2.response_counter
    (session.1, decoded item session.2)

/-- The loop of `fetch` over the items of the stream.  The result is `none`
when the items run out, and the items that are left come last. -/
def fetchItems (functions : FetchFunctions) (request_id : Nat) :
    List (Option BoltMessage) → Session → Option (Option Int × Session × List (Option BoltMessage))
  | [], session => some (none, session, [])
  | item :: items, session =>
    match itemRound functions request_id item session with
    | none => none
    | some (.again session) => fetchItems functions request_id items session
    | some (.done fetched session) => some (some fetched, session, items)

/-! ## Input -/

/-- Everything that is on its way to a session. -/
structure Input where
  comm : BoltCommunication
  rx_buffer : BoltBuffer
  protocol_rx_buffer : BoltBuffer

/-- The bytes that the peer has sent and the caller has not been given. -/
def Input.pending (input : Input) : List UInt8 := input.rx_buffer.content ++ input.comm.incoming

/-- Both receive buffers are intact. -/
structure Input.Wf (input : Input) : Prop where
  connection : input.rx_buffer.Wf
  protocol : input.protocol_rx_buffer.Wf

/-- Between two messages: the input carries the items, and no byte of a
message before them is left. -/
structure Input.Ready (check : CheckStructSignature) (input : Input)
    (items : List (Option BoltMessage)) (rest : List UInt8) : Prop where
  wf : input.Wf
  empty : input.protocol_rx_buffer.content = []
  carries : Carries check items input.pending rest

/-- The session with other bytes on their way to it. -/
def Session.setInput (input : Input) : Session → Session
  | (connection, state) =>
    ({ connection with comm := input.comm, rx_buffer := input.rx_buffer },
      { state with rx_buffer := input.protocol_rx_buffer })

/-- The round with other bytes on their way to its session. -/
def Round.setInput (input : Input) : Round → Round
  | .again session => .again (session.setInput input)
  | .done fetched session => .done fetched (session.setInput input)

theorem decoded_setInput (item : Option BoltMessage) (state : BoltProtocolState)
    (rx_buffer : BoltBuffer) :
    decoded item { state with rx_buffer := rx_buffer } =
      { decoded item state with rx_buffer := rx_buffer } := by
  cases item with
  | none => rfl
  | some message => simp only [decoded, countRecord_eq]

@[simp] theorem decoded_response_counter (item : Option BoltMessage)
    (state : BoltProtocolState) :
    (decoded item state).response_counter = state.response_counter := by
  cases item with
  | none => rfl
  | some message => simp only [decoded, countRecord_eq]

theorem readSummary_setInput (functions : FetchFunctions) (input : Input) (session : Session) :
    readSummary functions (session.setInput input) =
      (readSummary functions session).map (Session.setInput input) := by
  obtain ⟨connection, state⟩ := session
  by_cases hrecord : state.data_type = BOLT_V1_RECORD
  · simp only [readSummary, Session.setInput, ne_eq, eq_true hrecord, not_true_eq_false, if_false]
    rfl
  by_cases hsize : 1 ≤ state.data.size
  · simp only [readSummary, Session.setInput, ne_eq, hrecord, not_false_eq_true, hsize, if_true]
    split
    · rw [Option.map_map]
      rfl
    · rfl
  · simp only [readSummary, Session.setInput, ne_eq, hrecord, not_false_eq_true, hsize, if_true,
      if_false]
    rfl

/-- What a round decides on a message does not depend on the bytes that
follow it. -/
theorem finishRound_setInput (functions : FetchFunctions) (request_id response_id : Nat)
    (input : Input) (session : Session) :
    finishRound functions request_id response_id (session.setInput input) =
      (finishRound functions request_id response_id session).map (Round.setInput input) := by
  simp only [finishRound, readSummary_setInput, Option.map_map]
  congr 1
  funext ⟨connection, state⟩
  by_cases hid : response_id = request_id
  · by_cases hrecord : state.data_type = BOLT_V1_RECORD
    · simp only [Function.comp_apply, Session.setInput, hid, ne_eq, not_true_eq_false,
        eq_true hrecord, if_false]
      rfl
    · simp only [Function.comp_apply, Session.setInput, hid, ne_eq, not_true_eq_false, hrecord,
        if_false, not_false_eq_true, if_true]
      rfl
  · simp only [Function.comp_apply, Session.setInput, ne_eq, hid, not_false_eq_true, if_true]
    rfl

/-! ## The loop over the bytes -/

section Loop

variable {functions : FetchFunctions} {check : CheckStructSignature} {request_id : Nat}
  {item : Option BoltMessage} {items : List (Option BoltMessage)} {rest : List UInt8}
  {input : Input} {view session : Session}

theorem TransportFailed.of_setInput (h : TransportFailed (view.setInput input) session) :
    TransportFailed view session where
  wf := h.wf
  connection := by
    obtain ⟨connection, hsame, hconnection⟩ := h.connection
    exact ⟨connection, hsame, hconnection⟩
  state := h.state

theorem Reassembled.eq_setInput {chunks : List (List UInt8)}
    (h : Reassembled (view.setInput input) chunks session) :
    session = view.setInput ⟨session.1.comm, session.1.rx_buffer, session.2.rx_buffer⟩ :=
  Prod.ext h.same h.state

/-- The reassembly of a round moves one frame of the input. -/
theorem reassemble_setInput (h : input.Wf) (view : Session) :
    (∃ chunks input', reassemble (view.setInput input) =
        some (BOLT_SUCCESS, view.setInput input') ∧
      StartsWith chunks input.pending input'.pending ∧ input'.Wf ∧
      input'.protocol_rx_buffer.content = input.protocol_rx_buffer.content ++ chunks.flatten ∧
      (input.comm.Reliable → input'.comm.Reliable)) ∨
    (∃ session, reassemble (view.setInput input) = some (FETCH_ERROR, session) ∧
      TransportFailed view session ∧
      ¬(input.comm.Reliable ∧ ∃ chunks rest, StartsWith chunks input.pending rest)) := by
  have hwf : Session.Wf ((view.setInput input).1, (view.setInput input).2) :=
    ⟨h.connection, h.protocol⟩
  rcases reassemble_cases hwf with
    ⟨chunks, session, hround, hstarts, hread⟩ | ⟨session, hround, hfailed, hnot⟩
  · refine .inl ⟨chunks, ⟨session.1.comm, session.1.rx_buffer, session.2.rx_buffer⟩, ?_,
      hstarts, ⟨hread.wf.connection, hread.wf.state⟩, hread.content, hread.reliable⟩
    rw [← Reassembled.eq_setInput hread]
    exact hround
  · exact .inr ⟨session, hround, TransportFailed.of_setInput hfailed, hnot⟩

/-- A round that finds the frame of an item does with it what `itemRound`
does. -/
theorem fetchRound_item (request_id : Nat) (hunload : functions.unload = unloadMessage)
    (h : input.Ready check (item :: items) rest) (view : Session) :
    (∃ input', input'.Ready check items rest ∧ (input.comm.Reliable → input'.comm.Reliable) ∧
      input'.pending.length < input.pending.length ∧
      fetchRound functions check request_id (view.setInput input) =
        (itemRound functions request_id item view).map (Round.setInput input')) ∨
    (∃ session, fetchRound functions check request_id (view.setInput input) =
        some (.done FETCH_ERROR session) ∧
      TransportFailed view session ∧ ¬input.comm.Reliable) := by
  obtain ⟨hwf, hempty, hcarries⟩ := h
  rcases hcarries with _ | ⟨hstarts, hitem, hitems⟩
  rename_i chunks stream
  rcases reassemble_setInput hwf view with
    ⟨chunks', input1, hround, hstarts', hwf1, hcontent, hreliable⟩ |
      ⟨session, hround, hfailed, hnot⟩
  · obtain ⟨rfl, rfl⟩ := hstarts'.unique hstarts
    rw [hempty, List.nil_append] at hcontent
    have hlength := hstarts'.length_le
    obtain ⟨rx_buffer, hwf2, hempty2, hdecode⟩ :=
      unloadMessage_of_item (view.setInput input1).2 (view.setInput input1).1.garbage hitem
        hwf1.protocol hcontent
    refine .inl ⟨⟨input1.comm, input1.rx_buffer, rx_buffer⟩,
      ⟨⟨hwf1.connection, hwf2⟩, hempty2, hitems⟩, hreliable, ?_, ?_⟩
    · show input1.pending.length < input.pending.length
      omega
    · rw [itemRound, ← finishRound_setInput]
      have hstate : { decoded item (view.setInput input1).2 with rx_buffer := rx_buffer } =
          { decoded item view.2 with rx_buffer := rx_buffer } := by
        show { decoded item { view.2 with rx_buffer := input1.protocol_rx_buffer } with
          rx_buffer := rx_buffer } = _
        rw [decoded_setInput]
      simp only [fetchRound, hround, ne_eq, not_true_eq_false, if_false, hunload]
      rw [hdecode]
      simp only [not_true_eq_false, if_false, hstate]
      rfl
  · refine .inr ⟨session, ?_, hfailed, fun hreliable => hnot ⟨hreliable, chunks, stream, hstarts⟩⟩
    simp only [fetchRound, hround, ne_eq, show FETCH_ERROR ≠ BOLT_SUCCESS by decide,
      not_false_eq_true, if_true]

/-- A loop whose stream does not start with a frame fails. -/
theorem fetchLoop_cut (h : input.Wf) (view : Session)
    (hcut : ∀ chunks rest, ¬StartsWith chunks input.pending rest) (fuel : Nat) :
    ∃ session, fetchLoop functions check request_id (fuel + 1) (view.setInput input) =
        some (FETCH_ERROR, session) ∧ TransportFailed view session := by
  rcases reassemble_setInput h view with
    ⟨chunks, input1, -, hstarts, -⟩ | ⟨session, hround, hfailed, -⟩
  · exact absurd hstarts (hcut _ _)
  · refine ⟨session, ?_, hfailed⟩
    simp only [fetchLoop, fetchRound, hround, ne_eq, show FETCH_ERROR ≠ BOLT_SUCCESS by decide,
      not_false_eq_true, if_true]

/-- The loop over the bytes of the items does what `fetchItems` does, unless
the transport fails.  When the items run out it goes on with the rest of the
stream. -/
theorem fetchLoop_items (hunload : functions.unload = unloadMessage)
    (items : List (Option BoltMessage)) :
    ∀ {input : Input} {view : Session} {fuel : Nat}, input.Ready check items rest →
      input.pending.length < fuel →
      ∀ {result view' items'},
        fetchItems functions request_id items view = some (result, view', items') →
        (∃ input', input'.Ready check items' rest ∧
          (input.comm.Reliable → input'.comm.Reliable) ∧
          (∀ fetched, result = some fetched → input'.pending.length < input.pending.length ∧
            fetchLoop functions check request_id fuel (view.setInput input) =
              some (fetched, view'.setInput input')) ∧
          (result = none → ∃ fuel', input'.pending.length < fuel' ∧
            fetchLoop functions check request_id fuel (view.setInput input) =
              fetchLoop functions check request_id fuel' (view'.setInput input'))) ∨
        (∃ view'' session, fetchLoop functions check request_id fuel (view.setInput input) =
            some (FETCH_ERROR, session) ∧
          TransportFailed view'' session ∧ ¬input.comm.Reliable) := by
  induction items with
  | nil =>
    intro input view fuel h hfuel result view' items' hitems
    obtain ⟨rfl, rfl, rfl⟩ : none = result ∧ view = view' ∧ [] = items' := by
      simpa [fetchItems] using hitems
    exact .inl ⟨input, h, fun hr => hr, nofun, fun _ => ⟨fuel, hfuel, rfl⟩⟩
  | cons item items ih =>
    intro input view fuel h hfuel result view' items' hitems
    obtain ⟨fuel, rfl⟩ := Nat.exists_eq_add_one.mpr (Nat.zero_lt_of_lt hfuel)
    rcases fetchRound_item request_id hunload h view with
      ⟨input1, h1, hreliable, hshorter, hround⟩ | ⟨session, hround, hfailed, hnot⟩
    · rw [fetchItems] at hitems
      rcases hround' : itemRound functions request_id item view with _ | ⟨view1⟩ | ⟨fetched, view1⟩
      · simp only [hround'] at hitems
        cases hitems
      · simp only [hround'] at hitems
        have hstep : fetchLoop functions check request_id (fuel + 1) (view.setInput input) =
            fetchLoop functions check request_id fuel (view1.setInput input1) := by
          simp only [fetchLoop, hround, hround', Option.map_some, Round.setInput]
        rw [hstep]
        have hfuel1 : input1.pending.length < fuel := by omega
        rcases ih h1 hfuel1 hitems with
          ⟨input2, h2, hreliable2, hdone, hover⟩ | ⟨view'', session, hloop, hfailed, hnot⟩
        · refine .inl ⟨input2, h2, hreliable2 ∘ hreliable, fun fetched hfetched => ?_, hover⟩
          obtain ⟨hshorter2, hloop⟩ := hdone fetched hfetched
          exact ⟨hshorter2.trans hshorter, hloop⟩
        · exact .inr ⟨view'', session, hloop, hfailed, hnot ∘ hreliable⟩
      · simp only [hround', Option.some.injEq, Prod.mk.injEq] at hitems
        obtain ⟨rfl, rfl, rfl⟩ := hitems
        refine .inl ⟨input1, h1, hreliable, ?_, nofun⟩
        rintro _ ⟨rfl⟩
        refine ⟨hshorter, ?_⟩
        simp only [fetchLoop, hround, hround', Option.map_some, Round.setInput]
    · refine .inr ⟨view, session, ?_, hfailed, hnot⟩
      simp only [fetchLoop, hround]

/-- The items have run out when the loop has not found what it looks for. -/
theorem fetchItems_over (items : List (Option BoltMessage)) :
    ∀ {view view' : Session} {items'},
      fetchItems functions request_id items view = some (none, view', items') → items' = [] := by
  induction items with
  | nil =>
    intro view view' items' h
    simp only [fetchItems, Option.some.injEq, Prod.mk.injEq] at h
    exact h.2.2.symm
  | cons item items ih =>
    intro view view' items' h
    rw [fetchItems] at h
    split at h
    · cases h
    · exact ih h
    · simp at h

theorem carries_nil {stream : List UInt8} (h : Carries check [] stream rest) : stream = rest := by
  cases h
  rfl

end Loop

/-! ## The connection -/

namespace BoltConnection

/-- The connection with other bytes on their way to it. -/
def setInput (input : Input) (connection : BoltConnection) : BoltConnection :=
  { connection with
    comm := input.comm
    rx_buffer := input.rx_buffer
    protocol := connection.protocol.map fun protocol =>
      { protocol with state := { protocol.state with rx_buffer := input.protocol_rx_buffer } } }

/-- A connection has some input. -/
theorem exists_setInput {connection : BoltConnection} {protocol : BoltProtocol}
    (h : connection.protocol = some protocol) :
    connection.setInput ⟨connection.comm, connection.rx_buffer, protocol.state.rx_buffer⟩ =
      connection := by
  cases connection
  cases h
  rfl

theorem setStatus_setInput (input : Input) (connection : BoltConnection)
    (state : BoltConnectionState) (error : Int) :
    (connection.setInput input).setStatus state error =
      (connection.setStatus state error).setInput input := by
  simp only [setStatus_eq]
  rfl

/-- The connection has lost its peer: it is defunct, and what else differs is
its input. -/
def Lost (connection connection' : BoltConnection) : Prop :=
  ∃ (input : Input) (error : Int) (calls : List BoltStatus), input.Wf ∧ connection' =
    { connection.setInput input with
      status := { state := .defunct, error := error }
      on_error_calls := calls }

/-- `BoltConnection_fetch` over the items of the stream. -/
def fetchItems (request : Nat) (items : List (Option BoltMessage)) (connection : BoltConnection) :
    Option (Option Int × BoltConnection × List (Option BoltMessage)) :=
  match connection.protocol with
  | none => none
  | some protocol =>
    (Seabolt.fetchItems protocol.version.fetchFunctions request items
        ({ connection with protocol := none }, protocol.state)).map
      fun (result, (connection, state), items) =>
        let protocol := { protocol with state := state }
        let connection := { connection with protocol := some protocol }
        match result with
        | none => (none, connection, items)
        | some result =>
          let (result, connection) := fetched result connection state
          (some result, connection, items)

/-- The loop of `BoltConnection_fetch_summary` over the items. -/
def fetchSummaryItemsLoop (request : Nat) : Nat → Int → List (Option BoltMessage) →
    BoltConnection → Option (Option Int × BoltConnection × List (Option BoltMessage))
  | 0, _, _, _ => none
  | fuel + 1, records, items, connection =>
    match connection.fetchItems request items with
    | none => none
    | some (none, connection, items) => some (none, connection, items)
    | some (some data, connection, items) =>
      if data < 0 then some (some data, connection, items)
      else
        let records := addInt records data
        if data ≠ 0 then fetchSummaryItemsLoop request fuel records items connection
        else some (some records, connection, items)

/-- `BoltConnection_fetch_summary` over the items of the stream. -/
def fetchSummaryItems (request : Nat) (items : List (Option BoltMessage))
    (connection : BoltConnection) :
    Option (Option Int × BoltConnection × List (Option BoltMessage)) :=
  fetchSummaryItemsLoop request (items.length + 1) 0 items connection

variable {connection connection' : BoltConnection} {protocol : BoltProtocol} {input : Input}
  {items items' : List (Option BoltMessage)} {rest : List UInt8} {request : Nat}

/-- The end of `BoltConnection_fetch` does not depend on the input. -/
theorem fetched_setInput (result : Int) (connection : BoltConnection) (state : BoltProtocolState)
    (input : Input) :
    fetched result (connection.setInput input)
        { state with rx_buffer := input.protocol_rx_buffer } =
      ((fetched result connection state).1, (fetched result connection state).2.setInput input) := by
  simp only [fetched, setStatus_setInput]
  split_ifs <;> rfl

@[simp] theorem fetched_protocol (result : Int) (connection : BoltConnection)
    (state : BoltProtocolState) :
    (fetched result connection state).2.protocol = connection.protocol := by
  unfold fetched
  split_ifs <;> simp

/-- A protocol function that fails with the transport leaves the connection
lost. -/
theorem lost_of_transportFailed {view session : Session} (version : ProtocolVersion)
    (h : TransportFailed view session) :
    Lost { view.1 with protocol := some ⟨version, view.2⟩ }
      { session.1 with protocol := some ⟨version, session.2⟩ } := by
  obtain ⟨connection, hsame, hconnection⟩ := h.connection
  refine ⟨⟨session.1.comm, session.1.rx_buffer, session.2.rx_buffer⟩, connection.comm.error,
    connection.callsAfter ⟨.defunct, connection.comm.error⟩, ⟨h.wf.connection, h.wf.state⟩, ?_⟩
  rw [h.state, hconnection, setStatusFromComm, setStatus_eq, hsame]
  rfl

/-- A call over the bytes of the items ends like the call over the items,
unless the transport fails.  When the items run out and no frame follows, the
connection loses its peer. -/
def Follows (version : ProtocolVersion) (input : Input) (rest : List UInt8)
    (call : Outcome BoltConnection) (result : Option Int) (connection : BoltConnection)
    (items : List (Option BoltMessage)) : Prop :=
  (∃ input', (∃ state, connection.protocol = some ⟨version, state⟩) ∧
    input'.Ready version.checkReadableStruct items rest ∧
    (input.comm.Reliable → input'.comm.Reliable) ∧
    (∀ fetched, result = some fetched → input'.pending.length < input.pending.length ∧
      call = some (fetched, connection.setInput input')) ∧
    (result = none → (∀ chunks rest', ¬StartsWith chunks rest rest') →
      ∃ lost, call = some (FETCH_ERROR, lost) ∧ Lost connection lost)) ∨
  (∃ view lost, call = some (FETCH_ERROR, lost) ∧ Lost view lost ∧
    (∃ state, view.protocol = some ⟨version, state⟩) ∧ ¬input.comm.Reliable)

/-- `BoltConnection_fetch` over the bytes of the items does what `fetchItems`
does. -/
theorem fetch_items (hprotocol : connection.protocol = some protocol)
    (h : input.Ready protocol.version.checkReadableStruct items rest) {result : Option Int}
    (hitems : connection.fetchItems request items = some (result, connection', items')) :
    Follows protocol.version input rest ((connection.setInput input).fetch request) result
      connection' items' := by
  have hfetch : (connection.setInput input).fetch request =
      (fetchLoop protocol.version.fetchFunctions protocol.version.checkReadableStruct request
        (input.pending.length + 1)
        (Session.setInput input ({ connection with protocol := none }, protocol.state))).map
        fun r =>
          fetched r.1 { r.2.1 with protocol := some ⟨protocol.version, r.2.2⟩ } r.2.2 := by
    simp only [fetch, setInput, hprotocol, Option.map_some, ProtocolVersion.fetch_eq]
    rfl
  simp only [fetchItems, hprotocol, Option.map_eq_some_iff] at hitems
  obtain ⟨⟨result1, ⟨connection1, state1⟩, items1⟩, hloop, hresult⟩ := hitems
  have hrun := fetchLoop_items protocol.version.unload_eq items h (Nat.lt_succ_self _) hloop
  rcases result1 with _ | fetched1
  · simp only [Prod.mk.injEq] at hresult
    obtain ⟨rfl, rfl, rfl⟩ := hresult
    obtain rfl := fetchItems_over _ hloop
    rcases hrun with ⟨input', h', hreliable, -, hover⟩ | ⟨view, session, hfailed, hlost, hnot⟩
    · refine .inl ⟨input', ⟨state1, rfl⟩, h', hreliable, (by simp), fun _ hcut => ?_⟩
      obtain ⟨fuel, hfuel, hrun⟩ := hover rfl
      obtain ⟨fuel, rfl⟩ := Nat.exists_eq_add_one.mpr (Nat.zero_lt_of_lt hfuel)
      rw [← carries_nil h'.carries] at hcut
      obtain ⟨session, hcutrun, hlost⟩ := fetchLoop_cut h'.wf (connection1, state1) hcut fuel
      refine ⟨_, ?_, lost_of_transportFailed protocol.version hlost⟩
      rw [hfetch, hrun, hcutrun]
      rfl
    · refine .inr ⟨_, _, ?_, lost_of_transportFailed protocol.version hlost, ⟨_, rfl⟩, hnot⟩
      rw [hfetch, hfailed]
      rfl
  · have hend := fetched_protocol fetched1
      { connection1 with protocol := some ⟨protocol.version, state1⟩ } state1
    have hinput := fetched_setInput fetched1
      { connection1 with protocol := some ⟨protocol.version, state1⟩ } state1
    rcases hfetched : fetched fetched1
      { connection1 with protocol := some ⟨protocol.version, state1⟩ } state1 with ⟨result2, end2⟩
    simp only [hfetched, Prod.mk.injEq] at hresult hend hinput
    obtain ⟨rfl, rfl, rfl⟩ := hresult
    rcases hrun with ⟨input', h', hreliable, hdone, -⟩ | ⟨view, session, hfailed, hlost, hnot⟩
    · refine .inl ⟨input', ⟨state1, hend⟩, h', hreliable, ?_, by simp⟩
      rintro _ ⟨rfl⟩
      obtain ⟨hshorter, hrun⟩ := hdone fetched1 rfl
      refine ⟨hshorter, ?_⟩
      rw [hfetch, hrun, ← hinput input']
      rfl
    · refine .inr ⟨_, _, ?_, lost_of_transportFailed protocol.version hlost, ⟨_, rfl⟩, hnot⟩
      rw [hfetch, hfailed]
      rfl

/-- The loop of `BoltConnection_fetch_summary` over the bytes of the items
does what it does over the items. -/
theorem fetchSummaryLoop_items (fuel : Nat) :
    ∀ {connection : BoltConnection} {protocol : BoltProtocol} {input : Input}
      {items : List (Option BoltMessage)} {fuel' : Nat} {records : Int},
      connection.protocol = some protocol →
      input.Ready protocol.version.checkReadableStruct items rest →
      input.pending.length < fuel' →
      ∀ {result connection' items'},
        fetchSummaryItemsLoop request fuel records items connection =
          some (result, connection', items') →
        Follows protocol.version input rest
          (fetchSummaryLoop request fuel' records (connection.setInput input)) result connection'
          items' := by
  induction fuel with
  | zero =>
    intro connection protocol input items fuel' records _ _ _ result connection' items' hitems
    cases hitems
  | succ fuel ih =>
    intro connection protocol input items fuel' records hprotocol h hfuel result connection' items'
      hitems
    obtain ⟨fuel', rfl⟩ := Nat.exists_eq_add_one.mpr (Nat.zero_lt_of_lt hfuel)
    rw [fetchSummaryItemsLoop] at hitems
    rcases hfetch : connection.fetchItems request items with _ | ⟨result1, connection1, items1⟩
    · simp only [hfetch] at hitems
      cases hitems
    rcases fetch_items hprotocol h hfetch with
      ⟨input1, ⟨state1, hprotocol1⟩, h1, hreliable, hdone, hover⟩ |
        ⟨view, lost, hrun, hlost, hview, hnot⟩
    · rcases result1 with _ | data
      · simp only [hfetch, Option.some.injEq, Prod.mk.injEq] at hitems
        obtain ⟨rfl, rfl, rfl⟩ := hitems
        refine .inl ⟨input1, ⟨state1, hprotocol1⟩, h1, hreliable, nofun, fun _ hcut => ?_⟩
        obtain ⟨lost, hrun, hlost⟩ := hover rfl hcut
        exact ⟨lost, by simp [fetchSummaryLoop, hrun], hlost⟩
      obtain ⟨hshorter, hcall⟩ := hdone data rfl
      simp only [hfetch] at hitems
      by_cases hneg : data < 0
      · simp only [hneg, if_true, Option.some.injEq, Prod.mk.injEq] at hitems
        obtain ⟨rfl, rfl, rfl⟩ := hitems
        refine .inl ⟨input1, ⟨state1, hprotocol1⟩, h1, hreliable, ?_, nofun⟩
        rintro _ ⟨rfl⟩
        exact ⟨hshorter, by simp only [fetchSummaryLoop, hcall, hneg, if_true]⟩
      by_cases hzero : data = 0
      · subst hzero
        simp only [hneg, if_false, ne_eq, not_true_eq_false, Option.some.injEq,
          Prod.mk.injEq] at hitems
        obtain ⟨rfl, rfl, rfl⟩ := hitems
        refine .inl ⟨input1, ⟨state1, hprotocol1⟩, h1, hreliable, ?_, nofun⟩
        rintro _ ⟨rfl⟩
        exact ⟨hshorter, by simp only [fetchSummaryLoop, hcall, hneg, if_false, ne_eq,
          not_true_eq_false]⟩
      · simp only [hneg, if_false, ne_eq, hzero, not_false_eq_true, if_true] at hitems
        have hstep : fetchSummaryLoop request (fuel' + 1) records (connection.setInput input) =
            fetchSummaryLoop request fuel' (addInt records data) (connection1.setInput input1) := by
          simp only [fetchSummaryLoop, hcall, hneg, if_false, ne_eq, hzero, not_false_eq_true,
            if_true]
        rw [hstep]
        have hfuel1 : input1.pending.length < fuel' := by omega
        rcases ih hprotocol1 h1 hfuel1 hitems with
          ⟨input2, hprotocol2, h2, hreliable2, hdone2, hover2⟩ |
            ⟨view, lost, hrun, hlost, hview, hnot⟩
        · refine .inl ⟨input2, hprotocol2, h2, hreliable2 ∘ hreliable, fun fetched hfetched => ?_,
            hover2⟩
          obtain ⟨hshorter2, hcall2⟩ := hdone2 fetched hfetched
          exact ⟨hshorter2.trans hshorter, hcall2⟩
        · exact .inr ⟨view, lost, hrun, hlost, hview, hnot ∘ hreliable⟩
    · exact .inr ⟨view, lost, by simp [fetchSummaryLoop, hrun], hlost, hview, hnot⟩

/-- `BoltConnection_fetch_summary` over the bytes of the items does what
`fetchSummaryItems` does. -/
theorem fetchSummary_items (hprotocol : connection.protocol = some protocol)
    (h : input.Ready protocol.version.checkReadableStruct items rest) {result : Option Int}
    (hitems : connection.fetchSummaryItems request items = some (result, connection', items')) :
    Follows protocol.version input rest ((connection.setInput input).fetchSummary request) result
      connection' items' :=
  fetchSummaryLoop_items _ hprotocol h (Nat.lt_succ_self _) hitems

end BoltConnection

end Seabolt
