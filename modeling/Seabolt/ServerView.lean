import Seabolt.Outbound
import Seabolt.PackStream.Shortest

/-!
# What the server reads

The bytes that a client sends mean the same to every server.  A server may cut
its reading anywhere: all that the rules of the protocol let it make of the bytes
that have arrived are the first of the messages that the client has loaded, in
their order, each with the code and the fields that it was loaded with.
`server_reads` says so of every run of requests and sends up to the first send that
fails, for every grammar of structures that the server reads with.  The messages are
those that the format has room for: a Structure with 256 fields is loaded as well, and
its bytes are no encoding.
-/

namespace Seabolt

open PackStream Chunking

/-! ## Reading -/

/-- A server reads the values from the front of a stream, and the rest follows.
Each value is encoded in a message that is cut into chunks in any way. -/
inductive ServerReads (check : CheckStructSignature) :
    List BoltValue → List UInt8 → List UInt8 → Prop where
  | nil (rest : List UInt8) : ServerReads check [] rest rest
  | cons {value : BoltValue} {values : List BoltValue} {chunks : List (List UInt8)}
      {stream stream' rest : List UInt8} (hstarts : StartsWith chunks stream stream')
      (hvalue : Encodes check value chunks.flatten)
      (hvalues : ServerReads check values stream' rest) :
      ServerReads check (value :: values) stream rest

variable {check check' : CheckStructSignature} {values values' : List BoltValue}
  {stream rest rest' : List UInt8}

/-- More bytes arrive. -/
theorem ServerReads.append (h : ServerReads check values stream rest) (more : List UInt8) :
    ServerReads check values (stream ++ more) (rest ++ more) := by
  induction h with
  | nil rest => exact .nil _
  | cons hstarts hvalue _ ih =>
    refine .cons ⟨hstarts.1, ?_⟩ hvalue ih
    rw [hstarts.2, List.append_assoc]

/-- Nothing can be read from nothing. -/
theorem ServerReads.of_nil (h : ServerReads check values [] rest) : values = [] := by
  cases h with
  | nil => rfl
  | cons hstarts =>
    have hlength := hstarts.length_le
    rw [List.length_nil] at hlength
    omega

/-- What one server reads to the end of the stream is all that another one can
read of it. -/
theorem ServerReads.prefix_of_all (h : ServerReads check values stream []) :
    ∀ {values' rest'}, ServerReads check' values' stream rest' → values' <+: values := by
  generalize hrest : ([] : List UInt8) = rest at h
  induction h with
  | nil =>
    subst hrest
    intro values' rest' h'
    rw [h'.of_nil]
  | @cons _ _ chunks _ _ _ hstarts hvalue _ ih =>
    intro values' rest' h'
    cases h' with
    | nil => exact List.nil_prefix
    | cons hstarts' hvalue' hvalues' =>
      obtain ⟨rfl, rfl⟩ := hstarts.unique hstarts'
      have hsame := List.append_nil chunks.flatten
      obtain ⟨rfl, -, -⟩ := hvalue.unique hvalue' (hsame.trans hsame.symm)
      exact List.prefix_cons_iff.mpr (.inr ⟨_, rfl, ih hrest hvalues'⟩)

/-! ## Encoded messages -/

theorem BoltMessage.payload_eq (check : CheckStructSignature) (message : BoltMessage) :
    message.payload check = encoding check message.value := by
  rw [BoltMessage.payload, encoding, writeMessage_eq_load]
  rfl

/-- What is loaded for a message that has an encoding is an encoding of it. -/
theorem payload_encodes {message : BoltMessage} {payload : List UInt8}
    (h : Encodes check message.value.canon payload) :
    Encodes check message.value.canon (message.payload check) := by
  obtain ⟨e, hencodes, hloads⟩ := loads_of_encodable h.outdone.1
  rw [h.canon_eq] at hencodes
  rwa [BoltMessage.payload_eq, ← encoding_canon, encoding_of_loads hloads]

/-- The frames of encoded messages are read as these messages. -/
theorem serverReads_stream {version : ProtocolVersion} {loaded : List BoltMessage}
    (hloaded : ∀ m ∈ loaded, Encodes version.checkWritableStruct m.value.canon
      (m.payload version.checkWritableStruct)) :
    ServerReads version.checkWritableStruct (loaded.map fun m => m.value.canon)
      (Outbound.stream version loaded) [] := by
  induction loaded with
  | nil => exact .nil []
  | cons m loaded ih =>
    obtain ⟨hm, hrest⟩ := List.forall_mem_cons.mp hloaded
    have hstarts : StartsWith (chunksOf (m.payload version.checkWritableStruct))
        (Outbound.stream version (m :: loaded)) (Outbound.stream version loaded) :=
      ⟨validChunks_pieces chunkLength.max_pos _, rfl⟩
    refine .cons hstarts ?_ (ih hrest)
    rw [chunksOf, flatten_pieces]
    exact hm

/-! ## Runs -/

namespace Outbound

/-- The messages of the request have Strings for dictionary keys, and those that
the encoder accepts have structures within the limit only. -/
def WithinLimits : Call → Outbound → Prop
  | .load request, outbound => BoltConnection.WithinLimits request outbound.connection
  | .send, _ => True

/-- Every message that was loaded is encoded by its payload. -/
structure Encoded (version : ProtocolVersion) (outbound : Outbound) : Prop where
  prepared : outbound.connection.Prepared
  version_eq : outbound.connection.protocol.map BoltProtocol.version = some version
  loaded : ∀ m ∈ outbound.loaded, Encodes version.checkWritableStruct m.value.canon
    (m.payload version.checkWritableStruct)

variable {version : ProtocolVersion} {outbound outbound' : Outbound} {result : Int}

theorem Encoded.load (h : Encoded version outbound) {request : Request}
    (hlimits : BoltConnection.WithinLimits request outbound.connection)
    (hstep : step (.load request) outbound = some (result, outbound')) :
    Encoded version outbound' := by
  unfold step at hstep
  split_ifs at hstep with hfailed
  obtain ⟨⟨result', connection'⟩, hrequest, heq⟩ := Option.map_eq_some_iff.mp hstep
  obtain ⟨rfl, rfl⟩ := Prod.mk.inj heq
  obtain ⟨⟨version', state, state', hprotocol, hprotocol', hcase⟩, hprepared⟩ :=
    BoltConnection.request_loadsAll h.prepared hlimits hrequest
  have hversion := h.version_eq
  rw [hprotocol] at hversion
  obtain rfl : version' = version := Option.some.inj hversion
  refine ⟨hprepared, congrArg (Option.map BoltProtocol.version) hprotocol', fun m hm => ?_⟩
  rcases List.mem_append.mp hm with hold | hnew
  · exact h.loaded m hold
  rw [loadedBy, hprotocol, hprotocol'] at hnew
  rcases hcase with ⟨-, hunchanged⟩ | ⟨-, payloads, hall, -⟩
  · have hid : state'.next_request_id = state.next_request_id := hunchanged.id
    simp [hid] at hnew
  · obtain ⟨i, hi, hget⟩ := List.getElem_of_mem (List.mem_of_mem_take hnew)
    have hencodes := List.forall₂_iff_get.mp hall
    have hpayload := hencodes.2 i hi (hencodes.1 ▸ hi)
    rw [List.get_eq_getElem, List.get_eq_getElem, hget] at hpayload
    exact payload_encodes hpayload

theorem Encoded.send (h : Encoded version outbound)
    (hstep : step .send outbound = some (result, outbound')) : Encoded version outbound' := by
  obtain ⟨version', state, hprotocol, hready, hdiscard⟩ := h.prepared
  have hsame : outbound.connection.send.2.protocol = outbound.connection.protocol := by
    rw [BoltConnection.send_same]
  have hwf := (BoltConnection.send_tx hready.connection).1
  unfold step at hstep
  rcases hsend : outbound.connection.send with ⟨status, connection'⟩
  simp only [hsend] at hstep hsame hwf
  split_ifs at hstep
  obtain ⟨rfl, rfl⟩ := Prod.mk.inj (Option.some.inj hstep)
  refine ⟨⟨version', state, hsame.trans hprotocol, ⟨hwf, hready.state, hready.drained⟩, hdiscard⟩,
    ?_, h.loaded⟩
  rw [hsame]
  exact h.version_eq

theorem Encoded.step (h : Encoded version outbound) {call : Call}
    (hlimits : WithinLimits call outbound) (hstep : step call outbound = some (result, outbound')) :
    Encoded version outbound' := by
  cases call with
  | load request => exact h.load hlimits hstep
  | send => exact h.send hstep

/-- The loaded messages are encoded after any run. -/
theorem encoded_of_run {start : BoltConnection} {state : BoltProtocolState}
    (hprotocol : start.protocol = some ⟨version, state⟩) (hprepared : start.Prepared)
    {calls : List Call} (hlimits : Runs.Admissible step WithinLimits calls ⟨start, [], false⟩)
    {results : List Int} {final : Outbound}
    (hrun : Runs.run step calls ⟨start, [], false⟩ = some (results, final)) :
    Encoded version final := by
  refine Runs.keeps_of_admissible (fun _ _ _ _ h hok hstep => Encoded.step h hok hstep) calls
    ⟨hprepared, ?_, by simp⟩ hlimits hrun
  rw [hprotocol]
  rfl

/-- What the transport has accepted after any run. -/
theorem delivered_of_run {start : BoltConnection} {state : BoltProtocolState}
    (hprotocol : start.protocol = some ⟨version, state⟩) (hprepared : start.Prepared)
    {calls : List Call} {results : List Int} {final : Outbound}
    (hrun : Runs.run step calls ⟨start, [], false⟩ = some (results, final)) :
    Delivered version start state.next_request_id final := by
  obtain ⟨version', state', hprotocol', hready, -⟩ := hprepared
  rw [hprotocol] at hprotocol'
  obtain ⟨rfl, rfl⟩ := BoltProtocol.mk.inj (Option.some.inj hprotocol')
  refine Runs.keeps_of_run (fun _ _ _ _ h hstep => Delivered.step h hstep) calls
    ⟨⟨state, hprotocol, hready, rfl⟩, [], (List.append_nil _).symm, List.nil_prefix, fun _ => ?_⟩
    hrun
  simp [stream]

/-- What can be read of the bytes that have arrived. -/
structure Readable (version : ProtocolVersion) (final : Outbound) (arrived : List UInt8) :
    Prop where
  front : ∀ check values rest, ServerReads check values arrived rest →
    values <+: final.loaded.map fun m => m.value.canon
  whole : final.failed = false → final.connection.tx_buffer.content = [] →
    ServerReads version.checkWritableStruct (final.loaded.map fun m => m.value.canon) arrived []

/-- The bytes that have arrived are read as the loaded messages. -/
theorem Encoded.readable {start : BoltConnection} {id : Nat} {final : Outbound}
    (h : Encoded version final) (hdelivered : Delivered version start id final)
    (hempty : start.tx_buffer.content = []) :
    ∃ arrived, final.connection.comm.outgoing = start.comm.outgoing ++ arrived ∧
      Readable version final arrived := by
  have hstream := serverReads_stream h.loaded
  obtain ⟨arrived, houtgoing, ⟨more, hmore⟩, hwhole⟩ := hdelivered.accepted
  rw [hempty, List.nil_append] at hmore hwhole
  refine ⟨arrived, houtgoing, fun check values rest hreads => ?_, fun hfailed hsent => ?_⟩
  · have hreads' := hreads.append more
    rw [hmore] at hreads'
    exact hstream.prefix_of_all hreads'
  · have hall := hwhole hfailed
    rw [hsent, List.append_nil] at hall
    rw [hall]
    exact hstream

/-- The server reads what the client has loaded.  In every run of requests and
sends up to the first send that fails, with messages within the limits, whatever
a server reads in the bytes that have arrived is the front of the loaded messages,
and it can read all of them when no send has failed and nothing waits to be sent. -/
theorem server_reads {start : BoltConnection} {state : BoltProtocolState}
    (hprotocol : start.protocol = some ⟨version, state⟩) (hprepared : start.Prepared)
    (hempty : start.tx_buffer.content = []) (calls : List Call)
    (hlimits : Runs.Admissible step WithinLimits calls ⟨start, [], false⟩) {results : List Int}
    {final : Outbound} (hrun : Runs.run step calls ⟨start, [], false⟩ = some (results, final)) :
    ∃ arrived, final.connection.comm.outgoing = start.comm.outgoing ++ arrived ∧
      (∀ check values rest, ServerReads check values arrived rest →
        values <+: final.loaded.map fun m => m.value.canon) ∧
      (final.failed = false → final.connection.tx_buffer.content = [] →
        ServerReads version.checkWritableStruct (final.loaded.map fun m => m.value.canon) arrived
          []) := by
  have hencoded := encoded_of_run hprotocol hprepared hlimits hrun
  have hdelivered := delivered_of_run hprotocol hprepared hrun
  obtain ⟨arrived, houtgoing, hreadable⟩ := hencoded.readable hdelivered hempty
  exact ⟨arrived, houtgoing, hreadable.front, hreadable.whole⟩

/-- A BEGIN of the first version is sent in pieces, with the DISCARD_ALL behind it. -/
theorem server_reads_begin :
    ∃ results final arrived,
      Runs.run step [.load .loadBeginRequest, .send] ⟨slow, [], false⟩ = some (results, final) ∧
      final.connection.comm.outgoing = slow.comm.outgoing ++ arrived ∧
      (∀ check values rest, ServerReads check values arrived rest →
        values <+: final.loaded.map fun m => m.value.canon) ∧
      (final.failed = false → final.connection.tx_buffer.content = [] →
        ServerReads ProtocolVersion.v1.checkWritableStruct
          (final.loaded.map fun m => m.value.canon) arrived []) := by
  have hrun : (Runs.run step [.load .loadBeginRequest, .send] ⟨slow, [], false⟩).isSome := by
    decide +kernel
  obtain ⟨⟨results, final⟩, hrun⟩ := Option.isSome_iff_exists.mp hrun
  have hready : Session.TxReady (slow, BoltProtocolV1.createState) :=
    ⟨BoltBuffer.wf_create _, BoltBuffer.wf_create _, BoltBuffer.content_create _⟩
  have hlimits : BoltConnection.WithinLimits .loadBeginRequest slow := by
    intro version state hprotocol
    cases hprotocol
    have hbegin : Encodable ProtocolVersion.v1.checkWritableStruct
        (createRunMessage (ascii "BEGIN") 0).value :=
      .struct _ _ (by decide) (by decide) (by decide) (by
        simp only [createRunMessage, List.replicate_zero, List.forall_mem_cons]
        exact ⟨.string _ (by decide), .dictionary _ (by decide) (by simp) (by simp), by simp⟩)
    have hdiscard := discard_sure .v1
    intro m hm
    rcases List.mem_pair.mp hm with rfl | rfl
    · obtain ⟨payload, hencodes, -⟩ := loads_of_encodable hbegin
      exact ⟨regular_of_encodable hbegin,
        fun _ => withinLimit_of_canon _ (withinLimit_of_encodes hencodes)⟩
    · exact ⟨hdiscard.1, fun _ => hdiscard.2.2⟩
  obtain ⟨arrived, hreads⟩ := server_reads rfl ⟨.v1, BoltProtocolV1.createState, rfl, hready, rfl⟩
    (BoltBuffer.content_create _) [.load .loadBeginRequest, .send]
    ⟨hlimits, fun _ _ _ => ⟨trivial, fun _ _ _ => trivial⟩⟩ hrun
  exact ⟨results, final, arrived, hrun, hreads⟩

end Outbound

end Seabolt
