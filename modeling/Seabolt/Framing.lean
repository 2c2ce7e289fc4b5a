import Seabolt.Fetch

/-!
# Framing

`push_to_transmission` and the reassembly in `fetch` are each other's
inverse.  `reassemble_cases` says what a round does to an arbitrary stream:
it takes one frame from the front of the pending bytes, or the transport
fails.  That a stream starts with at most one frame makes the round trip a
consequence.
-/

namespace Seabolt

open Chunking

/-- Both receive buffers of the session are intact. -/
structure Session.Wf (session : Session) : Prop where
  connection : session.1.rx_buffer.Wf
  state : session.2.rx_buffer.Wf

/-- The chunks are now in the receive buffer of the protocol, and nothing
else has changed outside the transport. -/
structure Reassembled (session : Session) (chunks : List (List UInt8)) (session' : Session) :
    Prop where
  wf : session'.Wf
  same : session.1.SameApartFromRx session'.1
  state : session'.2 = { session.2 with rx_buffer := session'.2.rx_buffer }
  content : session'.2.rx_buffer.content = session.2.rx_buffer.content ++ chunks.flatten
  reliable : session.1.comm.Reliable → session'.1.comm.Reliable

/-- The transport has failed and the connection is defunct. -/
structure TransportFailed (session session' : Session) : Prop where
  wf : session'.Wf
  connection : ∃ connection, session.1.SameApartFromRx connection ∧
    session'.1 = connection.setStatusFromComm .defunct
  state : session'.2 = { session.2 with rx_buffer := session'.2.rx_buffer }

/-- The stream starts with the frame of these chunks. -/
def StartsWith (chunks : List (List UInt8)) (stream rest : List UInt8) : Prop :=
  ValidChunks chunkLength.max chunks ∧ stream = frame chunkLength chunks ++ rest

theorem StartsWith.unique {chunks chunks' : List (List UInt8)} {stream rest rest' : List UInt8}
    (h : StartsWith chunks stream rest) (h' : StartsWith chunks' stream rest') :
    chunks = chunks' ∧ rest = rest' :=
  frame_append_inj chunkLength h.1 h'.1 (h.2.symm.trans h'.2)

/-- A frame has at least its closing header. -/
theorem StartsWith.length_le {chunks : List (List UInt8)} {stream rest : List UInt8}
    (h : StartsWith chunks stream rest) : rest.length + 2 ≤ stream.length := by
  have hwidth := Frames.width_le ⟨chunks, h.1, rfl, rfl⟩
  have hwidth' : 2 ≤ (frame chunkLength chunks).length := hwidth
  rw [h.2, List.length_append]
  omega

/-! ## One chunk -/

section Steps

variable {session session' session'' : Session} {chunks chunks' : List (List UInt8)}

theorem Reassembled.refl (h : session.Wf) : Reassembled session [] session :=
  ⟨h, .refl _, rfl, by simp, fun hr => hr⟩

theorem Reassembled.trans (h : Reassembled session chunks session')
    (h' : Reassembled session' chunks' session'') :
    Reassembled session (chunks ++ chunks') session'' where
  wf := h'.wf
  same := h.same.trans h'.same
  state := by rw [h'.state, h.state]
  content := by rw [h'.content, h.content, List.flatten_append, List.append_assoc]
  reliable := h'.reliable ∘ h.reliable

/-- A failure behind some chunks is a failure. -/
theorem Reassembled.failed (h : Reassembled session chunks session')
    (h' : TransportFailed session' session'') : TransportFailed session session'' where
  wf := h'.wf
  connection := by
    obtain ⟨connection, hsame, hconnection⟩ := h'.connection
    exact ⟨connection, h.same.trans hsame, hconnection⟩
  state := by rw [h'.state, h.state]

end Steps

variable {connection : BoltConnection} {state : BoltProtocolState}

/-- Receive a chunk into a reservation of its size. -/
theorem receive_chunk (h : Session.Wf (connection, state)) (size : Nat) {target : Nat}
    {room : BoltBuffer} (hroom : state.rx_buffer.loadPointer size = (target, room)) :
    (∃ chunk connection', connection.receive size = (BOLT_SUCCESS, chunk, connection') ∧
      chunk.length = size ∧ connection.pending = chunk ++ connection'.pending ∧
      Reassembled (connection, state) [chunk]
        (connection', { state with rx_buffer := room.write target chunk })) ∨
    (∃ connection', connection.receive size = (BOLT_STATUS_SET, [], connection') ∧
      TransportFailed (connection, state) (connection', { state with rx_buffer := room }) ∧
      ¬(connection.comm.Reliable ∧ size ≤ connection.pending.length)) := by
  rcases BoltConnection.receive_spec h.connection size with
    ⟨chunk, connection', hreceive, hlength, hsame, hwf, hpending, -, hreliable⟩ |
      ⟨connection', hreceive, hsame, hwf, hnot⟩
  · have hload : room.write target chunk = state.rx_buffer.load chunk := by
      rw [BoltBuffer.load, hlength, hroom]
    refine .inl ⟨chunk, connection', hreceive, hlength, hpending, ?_⟩
    rw [hload]
    exact ⟨⟨hwf, h.state.load chunk⟩, hsame, rfl, by simp [BoltBuffer.content_load h.state],
      hreliable⟩
  · have hwfroom := (h.state.loadPointer size).2.2.2.1
    rw [hroom] at hwfroom
    refine .inr ⟨_, hreceive, ⟨⟨?_, hwfroom⟩, ⟨connection', hsame, rfl⟩, rfl⟩, hnot⟩
    simpa [BoltConnection.setStatusFromComm] using hwf

/-- Receive a chunk header. -/
theorem receive_header (h : Session.Wf (connection, state)) :
    (∃ header connection', connection.receive 2 = (BOLT_SUCCESS, header, connection') ∧
      charToUint16be header ≤ BOLT_MAX_CHUNK_SIZE ∧
      connection.pending = chunkHeader (charToUint16be header) ++ connection'.pending ∧
      Reassembled (connection, state) [] (connection', state)) ∨
    (∃ connection', connection.receive 2 = (BOLT_STATUS_SET, [], connection') ∧
      TransportFailed (connection, state) (connection', state) ∧
      ¬(connection.comm.Reliable ∧ 2 ≤ connection.pending.length)) := by
  rcases BoltConnection.receive_spec h.connection 2 with
    ⟨header, connection', hreceive, hlength, hsame, hwf, hpending, -, hreliable⟩ |
      ⟨connection', hreceive, hsame, hwf, hnot⟩
  · obtain ⟨hsize, hheader⟩ := chunkHeader_charToUint16be hlength
    exact .inl ⟨header, connection', hreceive, hsize, by rw [hheader, hpending],
      ⟨hwf, h.state⟩, hsame, rfl, by simp, hreliable⟩
  · refine .inr ⟨_, hreceive, ⟨⟨?_, h.state⟩, ⟨connection', hsame, rfl⟩, rfl⟩, hnot⟩
    simpa [BoltConnection.setStatusFromComm] using hwf

/-! ## One message -/

/-- The bytes that a loop still has to read when the header of a chunk of
this size is behind it start with the frame of these chunks. -/
def Continues (size : Nat) (chunks : List (List UInt8)) (stream rest : List UInt8) : Prop :=
  StartsWith chunks (chunkHeader size ++ stream) rest

theorem continues_zero (stream : List UInt8) : Continues 0 [] stream stream :=
  ⟨validChunks_nil _, rfl⟩

/-- A chunk and the header behind it continue as that header does. -/
theorem Continues.cons {size next : Nat} {chunk stream rest : List UInt8}
    {chunks : List (List UInt8)} (hpos : 0 < chunk.length)
    (hmax : chunk.length ≤ BOLT_MAX_CHUNK_SIZE) (hsize : chunk.length = size)
    (h : Continues next chunks stream rest) :
    Continues size (chunk :: chunks) (chunk ++ (chunkHeader next ++ stream)) rest := by
  refine ⟨validChunks_cons.mpr ⟨⟨hpos, hmax⟩, h.1⟩, ?_⟩
  rw [h.2, ← hsize, frame]
  simp only [List.append_assoc]
  rfl

/-- A stream that continues after the header of a chunk has the chunk, and
continues after it. -/
theorem Continues.uncons {size : Nat} {stream rest : List UInt8} {chunks : List (List UInt8)}
    (hpos : 0 < size) (hmax : size ≤ BOLT_MAX_CHUNK_SIZE) (h : Continues size chunks stream rest) :
    ∃ chunk chunks', chunks = chunk :: chunks' ∧ chunk.length = size ∧
      StartsWith chunks' (stream.drop size) rest ∧ stream.take size = chunk ∧
      size + 2 ≤ stream.length := by
  obtain ⟨hvalid, hframe⟩ := h
  rcases chunks with _ | ⟨chunk, chunks⟩
  · have hheader : chunkHeader size = chunkHeader 0 := by
      rw [frame] at hframe
      exact List.append_inj_left hframe rfl
    have := chunkLength.write_inj hmax (Nat.zero_le _) hheader
    omega
  · obtain ⟨⟨-, hle⟩, hvalid'⟩ := validChunks_cons.mp hvalid
    simp only [frame, List.append_assoc] at hframe
    obtain ⟨hheader, hstream⟩ := List.append_inj hframe rfl
    have hlength : size = chunk.length := chunkLength.write_inj hmax hle hheader
    have hstarts : StartsWith chunks (stream.drop size) rest := by
      refine ⟨hvalid', ?_⟩
      rw [hstream, hlength, List.drop_left]
    refine ⟨chunk, chunks, rfl, hlength.symm, hstarts, by rw [hstream, hlength, List.take_left], ?_⟩
    have := hstarts.length_le
    rw [List.length_drop] at this
    omega

/-- After the header of a chunk, the loop reads what is left of the frame. -/
theorem readChunks_cases (fuel : Nat) :
    ∀ {size : Nat} {connection : BoltConnection} {state : BoltProtocolState},
      Session.Wf (connection, state) → size ≤ BOLT_MAX_CHUNK_SIZE →
      connection.pending.length < fuel →
      (∃ chunks session', readChunks fuel size (connection, state) =
          some (BOLT_SUCCESS, session') ∧
        Continues size chunks connection.pending session'.1.pending ∧
        Reassembled (connection, state) chunks session') ∨
      (∃ session', readChunks fuel size (connection, state) = some (FETCH_ERROR, session') ∧
        TransportFailed (connection, state) session' ∧
        ¬(connection.comm.Reliable ∧
          ∃ chunks rest, Continues size chunks connection.pending rest)) := by
  induction fuel with
  | zero =>
    intro size connection state _ _ hfuel
    omega
  | succ fuel ih =>
    intro size connection state h hsize hfuel
    by_cases hzero : size = 0
    · subst hzero
      exact .inl ⟨[], (connection, state), by simp [readChunks], continues_zero _, .refl h⟩
    have hpos := Nat.pos_of_ne_zero hzero
    rcases hroom : state.rx_buffer.loadPointer size with ⟨target, room⟩
    rcases receive_chunk h size hroom with
      ⟨chunk, connection1, hchunk, hlength, hpending, hread⟩ | ⟨connection1, hchunk, hfailed, hnot⟩
    · have hdrop : connection.pending.drop size = connection1.pending := by
        rw [hpending, ← hlength, List.drop_left]
      rcases receive_header hread.wf with
        ⟨header, connection2, hheader, hnext, hpending', hread'⟩ |
          ⟨connection2, hheader, hfailed, hnot⟩
      · have hstep : readChunks (fuel + 1) size (connection, state) =
            readChunks fuel (charToUint16be header)
              (connection2, { state with rx_buffer := room.write target chunk }) := by
          simp only [readChunks, ne_eq, hzero, not_false_eq_true, if_true, hroom, hchunk,
            not_true_eq_false, if_false, hheader]
        have hboth := hread.trans hread'
        have hshorter : connection2.pending.length < fuel := by
          rw [hpending, hpending', List.length_append, List.length_append] at hfuel
          omega
        rw [hstep]
        rcases ih hread'.wf hnext hshorter with
          ⟨chunks, session', hloop, hcontinues, hrest⟩ | ⟨session', hloop, hfailed, hnot⟩
        · refine .inl ⟨chunk :: chunks, session', hloop, ?_, hboth.trans hrest⟩
          rw [hpending, hpending']
          exact hcontinues.cons (by omega) (by omega) hlength
        · refine .inr ⟨session', hloop, hboth.failed hfailed, ?_⟩
          rintro ⟨hreliable, chunks, rest, hcontinues⟩
          obtain ⟨-, chunks', -, -, hstarts, -⟩ := hcontinues.uncons hpos hsize
          rw [hdrop, hpending'] at hstarts
          exact hnot ⟨hboth.reliable hreliable, chunks', rest, hstarts⟩
      · refine .inr ⟨(connection2, _), ?_, hread.failed hfailed, ?_⟩
        · simp only [readChunks, ne_eq, hzero, not_false_eq_true, if_true, hroom, hchunk,
            not_true_eq_false, if_false, hheader, show BOLT_STATUS_SET ≠ BOLT_SUCCESS by decide]
        · rintro ⟨hreliable, chunks, rest, hcontinues⟩
          obtain ⟨-, -, -, -, -, -, hlong⟩ := hcontinues.uncons hpos hsize
          refine hnot ⟨hread.reliable hreliable, ?_⟩
          rw [← hdrop, List.length_drop]
          omega
    · refine .inr ⟨(connection1, _), ?_, hfailed, ?_⟩
      · simp only [readChunks, ne_eq, hzero, not_false_eq_true, if_true, hroom, hchunk,
          show BOLT_STATUS_SET ≠ BOLT_SUCCESS by decide]
      · rintro ⟨hreliable, chunks, rest, hcontinues⟩
        obtain ⟨-, -, -, -, -, -, hlong⟩ := hcontinues.uncons hpos hsize
        exact hnot ⟨hreliable, by omega⟩

/-- A round takes one frame from the front of the stream and loads its chunks
behind what the buffer of the protocol holds.  Otherwise the transport fails,
which a reliable one does not when the stream starts with a frame. -/
theorem reassemble_cases (h : Session.Wf (connection, state)) :
    (∃ chunks session', reassemble (connection, state) = some (BOLT_SUCCESS, session') ∧
      StartsWith chunks connection.pending session'.1.pending ∧
      Reassembled (connection, state) chunks session') ∨
    (∃ session', reassemble (connection, state) = some (FETCH_ERROR, session') ∧
      TransportFailed (connection, state) session' ∧
      ¬(connection.comm.Reliable ∧ ∃ chunks rest, StartsWith chunks connection.pending rest)) := by
  rcases receive_header h with
    ⟨header, connection1, hheader, hsize, hpending, hread⟩ | ⟨connection1, hheader, hfailed, hnot⟩
  · have hcompact : Reassembled (connection, state) []
        (connection1, { state with rx_buffer := state.rx_buffer.compact }) :=
      ⟨⟨hread.wf.connection, h.state.compact⟩, hread.same, rfl, by simp [h.state],
        hread.reliable⟩
    have hstep : reassemble (connection, state) =
        readChunks (connection1.pending.length + 1) (charToUint16be header)
          (connection1, { state with rx_buffer := state.rx_buffer.compact }) := by
      simp only [reassemble, hheader, ne_eq, not_true_eq_false, if_false]
    rw [hstep, hpending]
    rcases readChunks_cases _ hcompact.wf hsize (Nat.lt_succ_self _) with
      ⟨chunks, session', hloop, hcontinues, hrest⟩ | ⟨session', hloop, hfailed, hnot⟩
    · exact .inl ⟨chunks, session', hloop, hcontinues, hcompact.trans hrest⟩
    · refine .inr ⟨session', hloop, hcompact.failed hfailed, ?_⟩
      rintro ⟨hreliable, hframe⟩
      exact hnot ⟨hcompact.reliable hreliable, hframe⟩
  · refine .inr ⟨(connection1, state), ?_, hfailed, ?_⟩
    · simp only [reassemble, hheader, ne_eq, show BOLT_STATUS_SET ≠ BOLT_SUCCESS by decide,
        not_false_eq_true, if_true]
    · rintro ⟨hreliable, chunks, rest, hstarts⟩
      have := hstarts.length_le
      exact hnot ⟨hreliable, by omega⟩

/-- A round over a reliable transport whose stream starts with a frame. -/
theorem reassemble_of_startsWith (h : Session.Wf (connection, state))
    (hreliable : connection.comm.Reliable) {chunks : List (List UInt8)} {rest : List UInt8}
    (hstarts : StartsWith chunks connection.pending rest) :
    ∃ session', reassemble (connection, state) = some (BOLT_SUCCESS, session') ∧
      session'.1.pending = rest ∧ Reassembled (connection, state) chunks session' := by
  rcases reassemble_cases h with ⟨chunks', session', hround, hstarts', hread⟩ | ⟨_, _, _, hnot⟩
  · obtain ⟨rfl, hrest⟩ := hstarts'.unique hstarts
    exact ⟨session', hround, hrest, hread⟩
  · exact absurd ⟨hreliable, chunks, rest, hstarts⟩ hnot

/-! ## Several messages -/

/-- Put one message after the other into the message buffer, and push each to
the transmit buffer. -/
def pushAll : List (List UInt8) → BoltBuffer → BoltBuffer → Option (BoltBuffer × BoltBuffer)
  | [], msg, tx => some (msg, tx)
  | message :: messages, msg, tx => do
    let (msg, tx) ← pushToTransmission (msg.load message) tx
    pushAll messages msg tx

/-- The frames of the messages, one after the other. -/
def frames (framings : List (List (List UInt8))) : List UInt8 :=
  (framings.map (frame chunkLength)).flatten

theorem pushAll_spec (messages : List (List UInt8)) :
    ∀ {msg tx : BoltBuffer}, msg.Wf → msg.content = [] → tx.Wf →
      ∃ msg' tx', pushAll messages msg tx = some (msg', tx') ∧ msg'.Wf ∧ msg'.content = [] ∧
        tx'.Wf ∧ tx'.content = tx.content ++ frames (messages.map chunksOf) := by
  induction messages with
  | nil =>
    intro msg tx hmsg hempty htx
    exact ⟨msg, tx, rfl, hmsg, hempty, htx, by simp [frames]⟩
  | cons message messages ih =>
    intro msg tx hmsg hempty htx
    obtain ⟨msg1, tx1, hpush, hmsg1, htx1, hempty1, hcontent⟩ :=
      pushToTransmission_spec (hmsg.load message) htx
    obtain ⟨msg2, tx2, hrest, hmsg2, hempty2, htx2, hcontent2⟩ := ih hmsg1 hempty1 htx1
    refine ⟨msg2, tx2, ?_, hmsg2, hempty2, htx2, ?_⟩
    · simp only [pushAll, hpush]
      exact hrest
    · rw [hcontent2, hcontent, BoltBuffer.content_load hmsg, hempty, List.nil_append,
        List.append_assoc]
      rfl

/-- Round after round, `reassemble` takes the frame of the next message and
loads the message, whatever is done to the protocol state, and to the rest of
the connection, before the next round. -/
def Rounds : List (List (List UInt8)) → List UInt8 → BoltConnection → Prop
  | [], rest, connection => connection.pending = rest
  | chunks :: framings, rest, connection =>
    ∀ state : BoltProtocolState, state.rx_buffer.Wf →
      ∃ connection' state', reassemble (connection, state) =
          some (BOLT_SUCCESS, connection', state') ∧
        state'.rx_buffer.content = state.rx_buffer.content ++ chunks.flatten ∧
        state' = { state with rx_buffer := state'.rx_buffer } ∧
        connection.pending = frame chunkLength chunks ++ connection'.pending ∧
        ∀ connection'', connection''.rx_buffer = connection'.rx_buffer →
          connection''.comm = connection'.comm → Rounds framings rest connection''

theorem rounds_of_frames (framings : List (List (List UInt8))) (rest : List UInt8) :
    ∀ connection : BoltConnection, connection.rx_buffer.Wf → connection.comm.Reliable →
      (∀ chunks ∈ framings, ValidChunks chunkLength.max chunks) →
      connection.pending = frames framings ++ rest → Rounds framings rest connection := by
  induction framings with
  | nil =>
    intro connection _ _ _ hpending
    exact hpending
  | cons chunks framings ih =>
    intro connection hwf hreliable hvalid hpending state hstate
    obtain ⟨hchunks, hframings⟩ := List.forall_mem_cons.mp hvalid
    have hsplit : connection.pending =
        frame chunkLength chunks ++ (frames framings ++ rest) := by
      rw [hpending, frames, List.map_cons, List.flatten_cons, List.append_assoc]
      rfl
    obtain ⟨⟨connection', state'⟩, hround, hrest, hread⟩ :=
      reassemble_of_startsWith ⟨hwf, hstate⟩ hreliable ⟨hchunks, hsplit⟩
    have hrest' : connection'.pending = frames framings ++ rest := hrest
    refine ⟨connection', state', hround, hread.content, hread.state, by rw [hsplit, hrest'], ?_⟩
    intro connection'' hbuffer hcomm
    refine ih connection'' (hbuffer ▸ hread.wf.connection) (hcomm ▸ hread.reliable hreliable)
      hframings ?_
    rw [BoltConnection.pending, hbuffer, hcomm]
    exact hrest

/-- Chunk framing is a round trip.  Pushing the messages appends their frames
to the transmit buffer.  Reading any frames of the messages loads them one by
one, each from exactly its own frame. -/
theorem pushAll_reassemble (messages : List (List UInt8)) (msg tx : BoltBuffer) (hmsg : msg.Wf)
    (hempty : msg.content = []) (htx : tx.Wf) :
    (∃ msg' tx' framings, pushAll messages msg tx = some (msg', tx') ∧ msg'.content = [] ∧
      framings.map List.flatten = messages ∧
      (∀ chunks ∈ framings, ValidChunks BOLT_MAX_CHUNK_SIZE chunks) ∧
      tx'.content = tx.content ++ frames framings) ∧
    ∀ framings : List (List (List UInt8)), framings.map List.flatten = messages →
      (∀ chunks ∈ framings, ValidChunks BOLT_MAX_CHUNK_SIZE chunks) →
      ∀ (connection : BoltConnection) (rest : List UInt8), connection.rx_buffer.Wf →
        connection.comm.Reliable → connection.pending = frames framings ++ rest →
        Rounds framings rest connection := by
  constructor
  · obtain ⟨msg', tx', hpush, -, hempty', -, hcontent⟩ := pushAll_spec messages hmsg hempty htx
    refine ⟨msg', tx', messages.map chunksOf, hpush, hempty', ?_, ?_, hcontent⟩
    · rw [List.map_map]
      exact List.map_id'' (fun message => flatten_pieces chunkLength.max_pos message) messages
    · exact List.forall_mem_map.mpr fun message _ => validChunks_pieces chunkLength.max_pos message
  · intro framings _ hvalid connection rest hwf hreliable hpending
    exact rounds_of_frames framings rest connection hwf hreliable hvalid hpending

/-- Two messages behind a byte that is waiting to be sent. -/
theorem pushAll_reassemble_two :
    let messages : List (List UInt8) := [[1, 2, 3], [4]]
    let msg := BoltBuffer.create INITIAL_TX_BUFFER_SIZE
    let tx := (BoltBuffer.create INITIAL_TX_BUFFER_SIZE).load [9]
    (∃ msg' tx' framings, pushAll messages msg tx = some (msg', tx') ∧ msg'.content = [] ∧
      framings.map List.flatten = messages ∧
      (∀ chunks ∈ framings, ValidChunks BOLT_MAX_CHUNK_SIZE chunks) ∧
      tx'.content = tx.content ++ frames framings) ∧
    ∀ framings : List (List (List UInt8)), framings.map List.flatten = messages →
      (∀ chunks ∈ framings, ValidChunks BOLT_MAX_CHUNK_SIZE chunks) →
      ∀ (connection : BoltConnection) (rest : List UInt8), connection.rx_buffer.Wf →
        connection.comm.Reliable → connection.pending = frames framings ++ rest →
        Rounds framings rest connection :=
  pushAll_reassemble [[1, 2, 3], [4]] _ _ (BoltBuffer.wf_create _) (BoltBuffer.content_create _)
    ((BoltBuffer.wf_create _).load [9])

end Seabolt
