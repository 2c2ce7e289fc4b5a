import Seabolt.Connection

/-!
# Receiving

What `BoltConnection_receive` does to the stream of bytes that the peer has
sent.  `pending` is the part of the stream that the caller has not been given:
the receive buffer, and behind it what the transport has not delivered.

A receive that succeeds takes the front of the pending bytes, however the
transport cuts the stream.  A receive that fails leaves the whole room that
it had reserved in the buffer, whatever the transport delivered of it.
-/

namespace Seabolt

namespace BoltConnection

/-- The bytes that the peer has sent and the caller has not been given. -/
def pending (connection : BoltConnection) : List UInt8 :=
  connection.rx_buffer.content ++ connection.comm.incoming

/-- The connections differ in the transport and in the receive buffer only. -/
def SameApartFromRx (connection connection' : BoltConnection) : Prop :=
  connection' = { connection with comm := connection'.comm, rx_buffer := connection'.rx_buffer }

theorem SameApartFromRx.refl (connection : BoltConnection) :
    SameApartFromRx connection connection := rfl

theorem SameApartFromRx.trans {c1 c2 c3 : BoltConnection} (h : SameApartFromRx c1 c2)
    (h' : SameApartFromRx c2 c3) : SameApartFromRx c1 c3 := by
  rw [SameApartFromRx] at h h' ⊢
  rw [h', h]

/-! ## The reservation -/

variable {connection : BoltConnection} {rx_buffer : BoltBuffer}

theorem reserve_wf (h : rx_buffer.Wf) (delta : Nat) : (reserve rx_buffer delta).1.Wf := by
  unfold reserve
  dsimp only
  split_ifs
  · exact h.compact
  · exact h

/-- Making room does not change what the buffer holds. -/
theorem reserve_content (h : rx_buffer.Wf) (delta : Nat) :
    (reserve rx_buffer delta).1.content = rx_buffer.content := by
  unfold reserve
  dsimp only
  split_ifs
  · exact BoltBuffer.content_compact h
  · rfl

theorem le_reserve (rx_buffer : BoltBuffer) (delta : Nat) : delta ≤ (reserve rx_buffer delta).2 :=
  Nat.le_max_left _ _

/-! ## One round of the loop -/

/-- The transport call of a round: it is offered the reserved room and has to
deliver the missing bytes. -/
def delivery (connection : BoltConnection) (delta : Nat) :
    Int × List UInt8 × BoltCommunication :=
  connection.comm.receive delta (reserve connection.rx_buffer delta).2

/-- The receive buffer after a round: the delivered bytes are behind the old
content when the extent is adjusted, and the whole reservation when it is
not. -/
theorem fill_reserved (h : rx_buffer.Wf) {delta max_size target : Nat} {bytes : List UInt8}
    {room reserved : BoltBuffer} (hreserve : reserve rx_buffer delta = (room, max_size))
    (hpointer : room.loadPointer max_size = (target, reserved))
    (hbytes : bytes.length ≤ max_size) :
    let written := reserved.write target bytes
    let adjusted := { written with extent := written.extent - max_size + bytes.length }
    adjusted.Wf ∧ adjusted.content = rx_buffer.content ++ bytes ∧ written.Wf ∧
      written.content.length = rx_buffer.content.length + max_size := by
  have hroom : room.Wf := by simpa only [hreserve] using reserve_wf h delta
  have hcontent : room.content = rx_buffer.content := by
    simpa only [hreserve] using reserve_content h delta
  obtain ⟨htarget, hcursor, hextent, hwf, -⟩ := hroom.loadPointer max_size
  have hfill := hroom.fill hbytes
  simp only [hpointer] at htarget hcursor hextent hwf hfill
  have h1 := hroom.cursor_le
  have h2 := hwf.extent_le
  have h3 := hwf.length_data
  have hwritten : (reserved.write target bytes).Wf := by
    refine ⟨?_, h2, ?_⟩
    · show reserved.cursor ≤ reserved.extent
      omega
    · show (memcpy reserved.data target bytes).length = reserved.size
      rw [length_memcpy (by omega), h3]
  have hadjust : reserved.extent - max_size + bytes.length = room.extent + bytes.length := by
    omega
  rw [← hcontent]
  simp only [BoltBuffer.write, hadjust]
  refine ⟨hfill.1, hfill.2, hwritten, ?_⟩
  have hcount := hroom.length_content
  have hlength := hwritten.length_content
  simp only [BoltBuffer.write, BoltBuffer.unloadable] at hlength hcount
  omega

theorem receiveLoop_zero (rounds : Nat) (connection : BoltConnection) :
    receiveLoop rounds 0 connection = (BOLT_SUCCESS, connection) := by
  cases rounds <;> simp [receiveLoop]

/-! ## The whole call -/

/-- The call took bytes from the transport into the receive buffer, and did
nothing else. -/
structure Filled (connection connection' : BoltConnection) : Prop where
  same : SameApartFromRx connection connection'
  wf : connection'.rx_buffer.Wf
  pending : connection'.pending = connection.pending
  outgoing : connection'.comm.outgoing = connection.comm.outgoing
  reliable : connection.comm.Reliable → connection'.comm.Reliable

/-- The loop ends with the missing bytes in the buffer, or with the status of
the transport in the connection.  In the second case the delivered bytes are
what the buffer has gained only if they fill the reservation. -/
theorem receiveLoop_spec (h : connection.rx_buffer.Wf) (delta : Nat) :
    (∃ connection', receiveLoop delta delta connection = (BOLT_SUCCESS, connection') ∧
      Filled connection connection' ∧
      connection.rx_buffer.content.length + delta ≤ connection'.rx_buffer.content.length) ∨
    (∃ connection', receiveLoop delta delta connection =
        (BOLT_STATUS_SET, connection'.setStatusFromComm .defunct) ∧
      SameApartFromRx connection connection' ∧ connection'.rx_buffer.Wf ∧
      ¬(connection.comm.Reliable ∧ delta ≤ connection.comm.incoming.length) ∧
      (connection'.rx_buffer.content =
          connection.rx_buffer.content ++ (connection.delivery delta).2.1 ↔
        (connection.delivery delta).2.1.length = (reserve connection.rx_buffer delta).2) ∧
      ((∀ failure, some failure ∉ connection.comm.restoreScript) →
        (connection.delivery delta).2.1.length < delta)) := by
  rcases delta with _ | delta
  · exact .inl ⟨connection, rfl, ⟨.refl _, h, rfl, rfl, fun hr => hr⟩, le_rfl⟩
  · rcases hreserve : reserve connection.rx_buffer (delta + 1) with ⟨room, max_size⟩
    rcases hpointer : room.loadPointer max_size with ⟨target, reserved⟩
    have hmax : delta + 1 ≤ max_size := by
      simpa only [hreserve] using le_reserve connection.rx_buffer (delta + 1)
    obtain ⟨hdelivers, hfits, henough, hfew, hreliable⟩ :=
      BoltCommunication.receive_spec connection.comm hmax
    rcases hdelivery : connection.comm.receive (delta + 1) max_size with ⟨status, bytes, comm⟩
    simp only [hdelivery] at hdelivers hfits henough hfew hreliable
    obtain ⟨hadjusted, hcontent, hwritten, hreserved⟩ := fill_reserved h hreserve hpointer hfits
    by_cases hstatus : status = BOLT_SUCCESS
    · have hlength := henough hstatus
      have hdone : delta + 1 - bytes.length = 0 := by omega
      refine .inl ⟨{ connection with
          comm := comm
          rx_buffer := { reserved.write target bytes with
            extent := (reserved.write target bytes).extent - max_size + bytes.length } },
        ?_, ⟨rfl, hadjusted, ?_, hdelivers.outgoing, hdelivers.reliable⟩, ?_⟩
      · simp only [receiveLoop, Nat.zero_lt_succ, gt_iff_lt, if_true, hreserve, hpointer,
          hdelivery, hstatus, ne_eq, not_true_eq_false, if_false, hdone, receiveLoop_zero]
      · simp only [pending]
        rw [hcontent, hdelivers.incoming, List.append_assoc]
      · simp only
        rw [hcontent, List.length_append]
        omega
    · refine .inr ⟨{ connection with comm := comm, rx_buffer := reserved.write target bytes },
        ?_, rfl, hwritten, fun hrel => hstatus (hreliable hrel.1 hrel.2), ?_, ?_⟩
      · simp only [receiveLoop, Nat.zero_lt_succ, gt_iff_lt, if_true, hreserve, hpointer,
          hdelivery, hstatus, ne_eq, not_false_eq_true]
      · simp only [delivery, hreserve, hdelivery]
        constructor
        · intro heq
          have := congrArg List.length heq
          rw [hreserved, List.length_append] at this
          omega
        · intro hfull
          have hwhole : max_size ≤ (reserved.write target bytes).extent := by
            have := hwritten.length_content
            rw [hreserved, BoltBuffer.unloadable] at this
            omega
          rwa [hfull, Nat.sub_add_cancel hwhole] at hcontent
      · simp only [delivery, hreserve, hdelivery]
        exact hfew hstatus

/-- A receive gives the front of the pending bytes and keeps the rest, or it
leaves the connection defunct.  Over a reliable transport it succeeds when
there are enough pending bytes. -/
theorem receive_spec (h : connection.rx_buffer.Wf) (size : Nat) :
    (∃ bytes connection', connection.receive size = (BOLT_SUCCESS, bytes, connection') ∧
      bytes.length = size ∧ SameApartFromRx connection connection' ∧
      connection'.rx_buffer.Wf ∧ connection.pending = bytes ++ connection'.pending ∧
      connection'.comm.outgoing = connection.comm.outgoing ∧
      (connection.comm.Reliable → connection'.comm.Reliable)) ∨
    (∃ connection', connection.receive size =
        (BOLT_STATUS_SET, [], connection'.setStatusFromComm .defunct) ∧
      SameApartFromRx connection connection' ∧ connection'.rx_buffer.Wf ∧
      ¬(connection.comm.Reliable ∧ size ≤ connection.pending.length)) := by
  have havailable := h.length_content
  by_cases hsize : size = 0
  · subst hsize
    exact .inl ⟨[], connection, rfl, rfl, rfl, h, rfl, rfl, fun hr => hr⟩
  · rcases receiveLoop_spec h (size - connection.rx_buffer.unloadable) with
      ⟨connection', hloop, hfilled, hlength⟩ | ⟨connection', hloop, hsame, hwf, hnot, -⟩
    · have hsplit : connection'.rx_buffer.content =
          connection'.rx_buffer.content.take size ++ connection'.rx_buffer.content.drop size :=
        (List.take_append_drop size _).symm
      have hcount : (connection'.rx_buffer.content.take size).length = size := by
        rw [List.length_take]
        omega
      obtain ⟨rx_buffer, hunload, hwf, hrest⟩ := BoltBuffer.unload_of_content hfilled.wf hsplit
      rw [hcount] at hunload
      refine .inl ⟨connection'.rx_buffer.content.take size,
        { connection' with rx_buffer := rx_buffer }, ?_, hcount, ?_, hwf, ?_, hfilled.outgoing,
        hfilled.reliable⟩
      · simp only [receive, hsize, if_false, hloop, if_true, hunload]
      · exact hfilled.same.trans rfl
      · rw [← hfilled.pending]
        simp only [pending]
        rw [hrest, ← List.append_assoc, List.take_append_drop]
    · refine .inr ⟨connection', ?_, hsame, hwf, fun hrel => hnot ⟨hrel.1, ?_⟩⟩
      · simp only [receive, hsize, if_false, hloop]
        rfl
      · have hpending := hrel.2
        rw [pending, List.length_append] at hpending
        omega

/-! ## Fragmentation -/

/-- Receives of the given sizes, one after the other. -/
def receiveAll : List Nat → BoltConnection → List (Int × List UInt8) × BoltConnection
  | [], connection => ([], connection)
  | size :: sizes, connection =>
    let (status, bytes, connection) := connection.receive size
    let (results, connection) := receiveAll sizes connection
    ((status, bytes) :: results, connection)

/-- However the transport cuts the stream, receives that the stream can
satisfy return it in order, without loss or repetition, and what they leave
in the buffer and in the transport is the rest of it. -/
theorem receiveAll_pending (sizes : List Nat) :
    ∀ (connection : BoltConnection), connection.rx_buffer.Wf → connection.comm.Reliable →
      sizes.sum ≤ connection.pending.length →
      let (results, connection') := receiveAll sizes connection
      (∀ result ∈ results, result.1 = BOLT_SUCCESS) ∧
        results.map (fun result => result.2.length) = sizes ∧
        (results.map Prod.snd).flatten = connection.pending.take sizes.sum ∧
        connection'.pending = connection.pending.drop sizes.sum := by
  induction sizes with
  | nil =>
    intro connection _ _ _
    simp [receiveAll]
  | cons size sizes ih =>
    intro connection hwf hreliable hsum
    rw [List.sum_cons] at hsum
    rcases receive_spec hwf size with
      ⟨bytes, connection', hreceive, hlength, -, hwf', hpending, -, hreliable'⟩ |
        ⟨connection', -, -, -, hnot⟩
    · have hrest : sizes.sum ≤ connection'.pending.length := by
        rw [hpending, List.length_append, hlength] at hsum
        omega
      have hrun := ih connection' hwf' (hreliable' hreliable) hrest
      rcases hresults : receiveAll sizes connection' with ⟨results, connection''⟩
      rw [hresults] at hrun
      obtain ⟨hstatus, hsizes, hbytes, hleft⟩ := hrun
      simp only [receiveAll, hreceive, hresults, List.sum_cons]
      refine ⟨?_, ?_, ?_, ?_⟩
      · exact List.forall_mem_cons.mpr ⟨rfl, hstatus⟩
      · rw [List.map_cons, hsizes, hlength]
      · rw [List.map_cons, List.flatten_cons, hbytes, hpending, ← hlength,
          List.take_length_add_append]
      · rw [hleft, hpending, ← hlength, List.drop_length_add_append]
    · exact absurd ⟨hreliable, by omega⟩ hnot

/-- A connection whose server has sent five bytes, which arrive in pieces. -/
def fragmented : BoltConnection :=
  { create with
    rx_buffer := .create INITIAL_RX_BUFFER_SIZE
    comm := { BoltCommunication.create with
      incoming := [1, 2, 3, 4, 5]
      recvScript := [.move 1, .move 3] } }

theorem receiveAll_pending_fragmented :
    let (results, connection') := receiveAll [2, 0, 2] fragmented
    (∀ result ∈ results, result.1 = BOLT_SUCCESS) ∧
      results.map (fun result => result.2.length) = [2, 0, 2] ∧
      (results.map Prod.snd).flatten = fragmented.pending.take 4 ∧
      connection'.pending = fragmented.pending.drop 4 :=
  receiveAll_pending [2, 0, 2] fragmented (BoltBuffer.wf_create _)
    ⟨by simp [fragmented], by simp [fragmented, BoltCommunication.create],
      by simp [fragmented, BoltCommunication.create]⟩ (by decide +kernel)

/-! ## A failed receive -/

/-- The buffer of a connection whose receive has failed. -/
theorem receive_failed_spec (h : connection.rx_buffer.Wf) {size : Nat}
    (hfailed : (connection.receive size).1 = BOLT_STATUS_SET) :
    let delta := size - connection.rx_buffer.unloadable
    let delivered := (connection.delivery delta).2.1
    ((connection.receive size).2.2.rx_buffer.content =
        connection.rx_buffer.content ++ delivered ↔
      delivered.length = (reserve connection.rx_buffer delta).2) ∧
    ((∀ failure, some failure ∉ connection.comm.restoreScript) → delivered.length < delta) := by
  by_cases hsize : size = 0
  · simp [receive, hsize] at hfailed
  · rcases receiveLoop_spec h (size - connection.rx_buffer.unloadable) with
      ⟨connection', hloop, -, -⟩ | ⟨connection', hloop, -, -, -, hiff, hfew⟩
    · simp only [receive, hsize, if_false, hloop, if_true] at hfailed
      split at hfailed <;> simp at hfailed
    · have hne : (BOLT_STATUS_SET : Int) ≠ BOLT_SUCCESS := by decide
      simp only [receive, hsize, if_false, hloop, hne, setStatusFromComm, setStatus_rx_buffer]
      exact ⟨hiff, hfew⟩

/-- The transport has to deliver what is missing, and then the buffer still
holds bytes that nobody sent, unless restoring the handler is what failed. -/
theorem receive_failed_phantom (h : connection.rx_buffer.Wf) {size : Nat}
    (hfailed : (connection.receive size).1 = BOLT_STATUS_SET)
    (hrestore : ∀ failure, some failure ∉ connection.comm.restoreScript) :
    (connection.receive size).2.2.rx_buffer.content ≠ connection.rx_buffer.content ++
      (connection.delivery (size - connection.rx_buffer.unloadable)).2.1 := by
  obtain ⟨hiff, hfew⟩ := receive_failed_spec h hfailed
  intro heq
  have hfull := hiff.mp heq
  have hmissing := hfew hrestore
  have hroom := le_reserve connection.rx_buffer (size - connection.rx_buffer.unloadable)
  omega

/-- A failed receive leaves in the buffer what the transport delivered if and
only if that fills the room which was reserved for it. -/
theorem receive_failed_content_iff (connection : BoltConnection) (h : connection.rx_buffer.Wf)
    (size : Nat) (hfailed : (connection.receive size).1 = BOLT_STATUS_SET) :
    let delta := size - connection.rx_buffer.unloadable
    let delivered := (connection.delivery delta).2.1
    (connection.receive size).2.2.rx_buffer.content = connection.rx_buffer.content ++ delivered ↔
      delivered.length = (reserve connection.rx_buffer delta).2 :=
  (receive_failed_spec h hfailed).1

/-- A connection whose server has sent one byte when the transport times
out. -/
def timedOut : BoltConnection :=
  { create with
    rx_buffer := .create INITIAL_RX_BUFFER_SIZE
    status := { state := .connected, error := BOLT_SUCCESS }
    comm := { BoltCommunication.create with
      incoming := [1]
      recvScript := [.move 1, .fail (.statusSet ⟨BOLT_TIMED_OUT, by decide⟩)] } }

theorem receive_failed_content_iff_timedOut :
    (timedOut.receive 2).2.2.rx_buffer.content =
        timedOut.rx_buffer.content ++ (timedOut.delivery 2).2.1 ↔
      (timedOut.delivery 2).2.1.length = (reserve timedOut.rx_buffer 2).2 :=
  receive_failed_content_iff timedOut (BoltBuffer.wf_create _) 2 (by decide +kernel)

/-- The buffer gains more than the byte that was delivered, and the next
receive returns one that was never sent. -/
theorem receive_timedOut :
    let (status, _, failed) := timedOut.receive 2
    status = BOLT_STATUS_SET ∧ (timedOut.delivery 2).2.1 = [1] ∧
      failed.rx_buffer.content ≠ timedOut.rx_buffer.content ++ [1] ∧
      (failed.receive 2).1 = BOLT_SUCCESS ∧ (failed.receive 2).2.1.length = 2 := by
  decide +kernel

end BoltConnection

end Seabolt
